import OpenSound.Text.Hex
import OpenSound.Text.Visible

/-!
# Quoted text

How a diagnostic shows a piece of text: between double quotes, with the quote, the backslash and
the common control characters escaped by a letter, and every other hidden character by its code.
-/

namespace OpenSound.Text

/-- A character written by its code point, as in `\u{1b}`. -/
def escapedCode (c : Char) : List Char := ['\\', 'u', '\x7b'] ++ hexDigits c.toNat ++ ['\x7d']

/-- One character of a quoted text. -/
def escaped (c : Char) : List Char :=
  match c with
  | '\x00' => ['\\', '0']
  | '\t' => ['\\', 't']
  | '\r' => ['\\', 'r']
  | '\n' => ['\\', 'n']
  | '\\' => ['\\', '\\']
  | '"' => ['\\', '"']
  | c => if isVisible c then [c] else escapedCode c

/-- The text between double quotes. -/
def quoted (text : String) : String :=
  String.ofList ('"' :: text.toList.flatMap escaped ++ ['"'])

/-- One character between single quotes. Here the single quote is escaped and the double quote is
not. -/
def quotedChar (c : Char) : String :=
  let inner := match c with
    | '\'' => ['\\', '\'']
    | '"' => ['"']
    | c => escaped c
  String.ofList ('\'' :: inner ++ ['\''])

end OpenSound.Text
