import OpenSound.Json

/-!
# Writing JSON

A value is written compactly, without blanks, or with its structure laid out in lines, indented by
two spaces for each level.  An empty array or object takes no line of its own.
-/

namespace OpenSound.Json

/-- A text between its quotes. -/
def Text.display (text : Text) : List Char := '"' :: text.raw ++ ['"']

mutual

/-- The value without blanks. -/
def compactChars : Json → List Char
  | null => "null".toList
  | bool true => "true".toList
  | bool false => "false".toList
  | number value => value.display
  | text value => value.display
  | array items => '[' :: compactItems items ++ [']']
  | object fields => '\x7b' :: compactFields fields ++ ['\x7d']

def compactItems : List Json → List Char
  | [] => []
  | [item] => compactChars item
  | item :: rest => compactChars item ++ ',' :: compactItems rest

def compactFields : List (Text × Json) → List Char
  | [] => []
  | [(key, value)] => key.display ++ ':' :: compactChars value
  | (key, value) :: rest => key.display ++ ':' :: compactChars value ++ ',' :: compactFields rest

end

/-- The start of a line at a level. -/
def newLine (level : Nat) : List Char := '\n' :: List.replicate (2 * level) ' '

mutual

/-- The value laid out in lines, the first of which is at the level. -/
def prettyChars (level : Nat) : Json → List Char
  | null => "null".toList
  | bool true => "true".toList
  | bool false => "false".toList
  | number value => value.display
  | text value => value.display
  | array [] => ['[', ']']
  | array items => '[' :: prettyItems (level + 1) items ++ newLine level ++ [']']
  | object [] => ['\x7b', '\x7d']
  | object fields => '\x7b' :: prettyFields (level + 1) fields ++ newLine level ++ ['\x7d']

def prettyItems (level : Nat) : List Json → List Char
  | [] => []
  | [item] => newLine level ++ prettyChars level item
  | item :: rest => newLine level ++ prettyChars level item ++ ',' :: prettyItems level rest

def prettyFields (level : Nat) : List (Text × Json) → List Char
  | [] => []
  | [(key, value)] => newLine level ++ key.display ++ [':', ' '] ++ prettyChars level value
  | (key, value) :: rest =>
    newLine level ++ key.display ++ [':', ' '] ++ prettyChars level value
      ++ ',' :: prettyFields level rest

end

/-- The value in one line without blanks. -/
def compact (value : Json) : String := String.ofList value.compactChars

/-- The value laid out in lines. -/
def pretty (value : Json) : String := String.ofList (value.prettyChars 0)

end OpenSound.Json
