import OpenSound.Json

/-!
# Tokens of JSON

A document is a row of tokens, with blanks between them.  `tokenize?` splits a document; it goes
through the characters once, and its `Mode` says what it is in the middle of.
-/

namespace OpenSound.Json

/-- What a JSON document is made of. -/
inductive Token where
  | openArray | closeArray | openObject | closeObject | comma | colon
  | null
  | bool (value : Bool)
  | number (value : Numeral)
  | text (value : Text)
deriving DecidableEq, Repr, Inhabited

namespace Token

/-- The tokens that are one character. -/
def punctuation? : Char → Option Token
  | '[' => some openArray
  | ']' => some closeArray
  | '\x7b' => some openObject
  | '\x7d' => some closeObject
  | ',' => some comma
  | ':' => some colon
  | _ => none

/-- Whether the character may stand between tokens. -/
def isBlank (c : Char) : Bool := c = ' ' || c = '\t' || c = '\n' || c = '\r'

/-- The token that a run of other characters forms. -/
def ofWord? (word : List Char) : Option Token :=
  if word = "null".toList then some null
  else if word = "true".toList then some (bool true)
  else if word = "false".toList then some (bool false)
  else number <$> Numeral.ofChars? word

/-- The token that the characters between two quotes form.  Whether control characters may be among
them is up to the reader of the text. -/
def ofText? (raw : List Char) : Option Token :=
  if Text.escapesAreWellFormed raw then some (text ⟨raw⟩) else none

end Token

/-- What the scan is in the middle of; the characters read so far stand last first. -/
inductive Mode where
  | between
  | word (read : List Char)
  | text (read : List Char)
  /-- In a text, right behind a backslash. -/
  | escape (read : List Char)
deriving DecidableEq, Repr

/-- The tokens of the rest of a document. -/
def scan : Mode → List Char → Option (List Token)
  | .between, [] => some []
  | .word read, [] => do return [← Token.ofWord? read.reverse]
  | .text _, [] => none
  | .escape _, [] => none
  | .text read, c :: rest =>
    if c = '"' then do return (← Token.ofText? read.reverse) :: (← scan .between rest)
    else scan (if c = '\\' then .escape (c :: read) else .text (c :: read)) rest
  | .escape read, c :: rest => scan (.text (c :: read)) rest
  | .between, c :: rest =>
    if Token.isBlank c then scan .between rest
    else if c = '"' then scan (.text []) rest
    else match Token.punctuation? c with
      | some token => do return token :: (← scan .between rest)
      | none => scan (.word [c]) rest
  | .word read, c :: rest =>
    if Token.isBlank c then do return (← Token.ofWord? read.reverse) :: (← scan .between rest)
    else if c = '"' then do return (← Token.ofWord? read.reverse) :: (← scan (.text []) rest)
    else match Token.punctuation? c with
      | some token => do
        return (← Token.ofWord? read.reverse) :: token :: (← scan .between rest)
      | none => scan (.word (c :: read)) rest

/-- The tokens of a document. -/
def tokenize? (document : String) : Option (List Token) := scan .between document.toList

end OpenSound.Json
