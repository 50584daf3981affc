import OpenSound.Settings

/-!
# Settings files

A settings file has sections, each under its name in brackets, with a line for every value: a name,
an equals sign, and a truth value, an integer or a text in quotes.  A name may also be given with
its section and a dot in front.  What follows a `#` is a comment.
-/

namespace OpenSound.Settings

/-- A value and the names that lead to it. -/
abbrev Entry := List String × Json

/-- Whether nothing but a comment is left of a line. -/
def isOver (rest : List Char) : Bool :=
  match rest.dropWhile Text.isBlank with
  | [] => true
  | c :: _ => c = '#'

/-- Whether the character may stand in a name. -/
def isNameChar (c : Char) : Bool := c.isAlphanum || c = '_' || c = '-'

/-- Reads names with dots between them. -/
def names? (text : List Char) : Option (List String) :=
  (text.splitOn '.').mapM fun part =>
    let name := Text.trim part
    if name.isEmpty || !name.all isNameChar then none else some (String.ofList name)

/-- What stands in front of the closing quote, with its escapes, and what stands behind it. -/
def untilQuote? : List Char → Option (List Char × List Char)
  | [] => none
  | '"' :: rest => some ([], rest)
  | '\\' :: c :: rest => (untilQuote? rest).map fun (raw, behind) => ('\\' :: c :: raw, behind)
  | c :: rest => (untilQuote? rest).map fun (raw, behind) => (c :: raw, behind)

/-- Reads a truth value or an integer, in which underscores may stand between the digits. -/
def word? (word : List Char) : Option Json :=
  if word = "true".toList then some true
  else if word = "false".toList then some false
  else
    let groups := word.splitOn '_'
    if groups.tail.all (·.head?.any Char.isDigit) then
      (Text.signed? groups.flatten).map fun n => (n : Json)
    else none

/-- Reads a value up to the end of its line.  A text in single quotes has no escapes. -/
def value? : List Char → Option Json
  | '"' :: rest => do
    let (raw, behind) ← untilQuote? rest
    if isOver behind && Json.Text.escapesAreWellFormed raw then return .text ⟨raw⟩ else none
  | '\'' :: rest =>
    match rest.dropWhile (· ≠ '\'') with
    | _ :: behind =>
      if isOver behind then some (String.ofList (rest.takeWhile (· ≠ '\'')) : String) else none
    | [] => none
  | text =>
    let isWordChar := fun (c : Char) => !Text.isBlank c && c ≠ '#'
    if isOver (text.dropWhile isWordChar) then word? (text.takeWhile isWordChar) else none

/-- Reads a line in a section: another section begins, or a value is added in front of the
entries. -/
def line? (state : List String × List Entry) (line : List Char) :
    Option (List String × List Entry) :=
  let (current, entries) := state
  if isOver line then some state
  else
    match line.dropWhile Text.isBlank with
    | '[' :: rest =>
      match rest.dropWhile (· ≠ ']') with
      | _ :: behind =>
        if isOver behind then (names? (rest.takeWhile (· ≠ ']'))).map (·, entries) else none
      | [] => none
    | line =>
      match line.dropWhile (· ≠ '=') with
      | _ :: value => do
        let path ← names? (line.takeWhile (· ≠ '='))
        let value ← value? (value.dropWhile Text.isBlank)
        return (current, (current ++ path, value) :: entries)
      | [] => none

/-- The values of a section as a structure. -/
def sectionOf (name : String) (entries : List Entry) : Json :=
  .ofFields (entries.filterMap fun (path, value) =>
    match path with
    | [first, key] => if first = name then some (key, value) else none
    | _ => none)

/-- Reads the settings of a program from a file. -/
def ofDocument? (document : String) : Option Settings := do
  let (_, entries) ← (document.toList.splitOn '\n').foldlM line? ([], [])
  ofJson? (.ofFields
    [("codec", sectionOf "codec" entries), ("dispatcher", sectionOf "dispatcher" entries)])

end OpenSound.Settings
