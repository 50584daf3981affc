import OpenSound.Json.Token

/-!
# Reading JSON

A document is read token by token, with a stack of the arrays and objects that are open.  `Place`
says what may come next.
-/

namespace OpenSound.Json

/-- An array or object that is open, with its content so far, the last first. -/
inductive Frame where
  | array (items : List Json)
  /-- An object in which the value of a field is being read. -/
  | object (fields : List (Text × Json)) (key : Text)

/-- What may come next. -/
inductive Place where
  /-- A value. -/
  | value
  /-- The first item of an array, or its end. -/
  | item
  /-- The first key of an object, or its end. -/
  | field
  /-- Another key of an object. -/
  | key (fields : List (Text × Json))
  /-- The colon behind a key. -/
  | colon (fields : List (Text × Json)) (key : Text)
  /-- What goes on behind a complete value. -/
  | behind (value : Json)

/-- The innermost place, and what is open around it. -/
structure Reading where
  place : Place := .value
  frames : List Frame := []

namespace Reading

/-- The start of a value. -/
def open? (token : Token) (frames : List Frame) : Option Reading :=
  match token with
  | .null => some ⟨.behind .null, frames⟩
  | .bool value => some ⟨.behind (.bool value), frames⟩
  | .number value => some ⟨.behind (.number value), frames⟩
  | .text value => some ⟨.behind (.text value), frames⟩
  | .openArray => some ⟨.item, .array [] :: frames⟩
  | .openObject => some ⟨.field, frames⟩
  | _ => none

/-- What a token behind a complete value does. -/
def proceed? (value : Json) (token : Token) (frames : List Frame) : Option Reading :=
  match frames, token with
  | .array items :: frames, .comma => some ⟨.value, .array (value :: items) :: frames⟩
  | .array items :: frames, .closeArray => some ⟨.behind (.array (value :: items).reverse), frames⟩
  | .object fields key :: frames, .comma => some ⟨.key ((key, value) :: fields), frames⟩
  | .object fields key :: frames, .closeObject =>
    some ⟨.behind (.object ((key, value) :: fields).reverse), frames⟩
  | _, _ => none

/-- Takes one token. -/
def step? (p : Reading) (token : Token) : Option Reading :=
  match p.place, token, p.frames with
  | .value, token, frames => open? token frames
  | .item, .closeArray, _ :: frames => some ⟨.behind (.array []), frames⟩
  | .item, token, frames => open? token frames
  | .field, .closeObject, frames => some ⟨.behind (.object []), frames⟩
  | .field, .text key, frames => some ⟨.colon [] key, frames⟩
  | .key fields, .text key, frames => some ⟨.colon fields key, frames⟩
  | .colon fields key, .colon, frames => some ⟨.value, .object fields key :: frames⟩
  | .behind value, token, frames => proceed? value token frames
  | _, _, _ => none

/-- The value, once nothing is open any more. -/
def result? (p : Reading) : Option Json :=
  match p with
  | ⟨.behind value, []⟩ => some value
  | _ => none

end Reading

/-- The value that a row of tokens spells. -/
def ofTokens? (tokens : List Token) : Option Json := do
  let p ← tokens.foldlM Reading.step? {}
  p.result?

/-- Reads a document that holds one value. -/
def parse? (document : String) : Option Json := do
  let tokens ← tokenize? document
  ofTokens? tokens

end OpenSound.Json
