import OpenSound.Handler

/-!
# Registries

A registry holds at most one handler for each type tag, in the order of the tags, and none for the
three characters that give a string of type tags its structure.
-/

namespace OpenSound

/-- Whether the character belongs to the structure of a string of type tags. -/
def isReservedTag (tag : Char) : Bool :=
  tag = ',' || tag = Argument.openBracket || tag = Argument.closeBracket

/-- Handlers with different tags, none of them reserved. -/
structure Registry where
  /-- The handlers in ascending order of their tags. -/
  handlers : List Handler
  ascending : handlers.Pairwise (·.tag < ·.tag)
  unreserved : ∀ handler ∈ handlers, isReservedTag handler.tag = false

namespace Registry

/-- The registry without handlers. -/
def empty : Registry := ⟨[], .nil, by simp⟩

/-- The handler registered under the tag. -/
def find? (r : Registry) (tag : Char) : Option Handler := r.handlers.find? (·.tag = tag)

def contains (r : Registry) (tag : Char) : Bool := (r.find? tag).isSome

/-- The handler registered under the tag, which has to be there. -/
def handlerFor (r : Registry) (tag : Char) : Except UnknownType Handler :=
  match r.find? tag with
  | none => .error ⟨tag⟩
  | some handler => .ok handler

/-- The registered tags in ascending order. -/
def tags (r : Registry) : List Char := r.handlers.map (·.tag)

def size (r : Registry) : Nat := r.handlers.length

def isEmpty (r : Registry) : Bool := r.handlers.isEmpty

/-- The registry without the handler for the tag, if there was one. -/
def erase (r : Registry) (tag : Char) : Registry where
  handlers := r.handlers.filter (·.tag ≠ tag)
  ascending := r.ascending.filter _
  unreserved h mem := r.unreserved h ((List.mem_filter.mp mem).1)

/-- Puts a handler in front of the first one with a greater tag. -/
def place (handler : Handler) : List Handler → List Handler
  | [] => [handler]
  | h :: rest => if handler.tag < h.tag then handler :: h :: rest else h :: place handler rest

theorem mem_place {handler h : Handler} {handlers : List Handler} :
    h ∈ place handler handlers ↔ h = handler ∨ h ∈ handlers := by
  induction handlers with
  | nil => simp [place]
  | cons first rest ih =>
    simp only [place]
    split
    · simp
    · simp only [List.mem_cons, ih]
      grind

/-- Placing a handler with a new tag keeps the order. -/
theorem pairwise_place {handler : Handler} {handlers : List Handler}
    (ascending : handlers.Pairwise (·.tag < ·.tag))
    (fresh : ∀ h ∈ handlers, h.tag ≠ handler.tag) :
    (place handler handlers).Pairwise (·.tag < ·.tag) := by
  induction ascending with
  | nil => simp [place]
  | @cons first rest below _ ih =>
    simp only [place]
    split
    next before =>
      refine .cons ?_ (.cons below ‹_›)
      intro h mem
      rcases List.mem_cons.mp mem with rfl | mem
      · exact before
      · exact Char.lt_trans before (below h mem)
    next behind =>
      refine .cons ?_ (ih fun h mem => fresh h (List.mem_cons_of_mem _ mem))
      intro h mem
      rcases mem_place.mp mem with rfl | mem
      · exact Std.lt_of_le_of_ne (Char.not_lt.mp behind) (fresh first List.mem_cons_self)
      · exact below h mem

/-- Adds a handler under its own tag. -/
def register (r : Registry) (handler : Handler) : Except RegistryError Registry :=
  if reserved : isReservedTag handler.tag = true then .error (.reservedType handler.tag)
  else if taken : r.contains handler.tag = true then .error (.duplicateType handler.tag)
  else .ok {
    handlers := place handler r.handlers
    ascending := pairwise_place r.ascending (by simpa [contains, find?] using taken)
    unreserved := by
      intro h mem
      rcases mem_place.mp mem with rfl | mem
      · simpa using reserved
      · exact r.unreserved h mem }

/-- Adds a handler under its own tag to the registry at hand, which stays as it was if the handler
is refused. -/
def enter (r : Registry) (handler : Handler) : Except RegistryError Unit × Registry :=
  match r.register handler with
  | .ok extended => (.ok (), extended)
  | .error cause => (.error cause, r)

/-- The registry of the four types that every implementation knows. -/
def minimal : Registry := ⟨Handler.required.foldr place [], by decide, by decide⟩

/-- The registry of every type of the protocol. -/
def standard : Registry := ⟨Handler.all.foldr place [], by decide, by decide⟩

/-- The registered tags, for a diagnostic. -/
def display (r : Registry) : String :=
  "TypeRegistry \x7b tags: " ++ Text.quoted (String.ofList r.tags) ++ " \x7d"

end Registry

end OpenSound
