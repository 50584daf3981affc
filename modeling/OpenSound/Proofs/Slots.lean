import Mathlib.Data.List.Sort
import OpenSound.Proofs.Layout
import OpenSound.Registry

/-!
# What is registered under a tag

A registry is a slot for each tag, and of a handler it looks at nothing but the tag.  The first
handler that is registered under a tag stays in the slot until the tag is erased, and the slot of a
reserved tag stays empty (`Change.onSlot`).  `changeAll_exact` says that any changes lead to the
registry with the slots that these rules give, that it is well-formed (`Registry.IsWellFormed`), and
what comes of the next change.
-/

namespace OpenSound

namespace Registry

variable {r r' : Registry} {handler : Handler} {tag : Char} {cause : RegistryError}

/-! ### The slots of a registry -/

theorem tag_of_find? (h : r.find? tag = some handler) : handler.tag = tag := by
  simpa using List.find?_some h

theorem isReservedTag_of_find? (h : r.find? tag = some handler) : isReservedTag tag = false :=
  tag_of_find? h ▸ r.unreserved handler (List.mem_of_find?_eq_some h)

/-- No bracket is the tag of a handler. -/
theorem ne_bracket_of_find? (h : r.find? tag = some handler) :
    tag ≠ Argument.openBracket ∧ tag ≠ Argument.closeBracket := by
  have hunreserved := isReservedTag_of_find? h
  simp only [isReservedTag, Bool.or_eq_false_iff, decide_eq_false_iff_not] at hunreserved
  exact ⟨hunreserved.1.2, hunreserved.2⟩

theorem isReservedTag_iff : isReservedTag tag = true ↔ tag ∈ [',', '[', ']'] := by
  simp only [isReservedTag, Bool.or_eq_true, decide_eq_true_eq, or_assoc, List.mem_cons,
    List.not_mem_nil, or_false]
  rfl

theorem contains_eq_false_iff : r.contains tag = false ↔ r.find? tag = none := by
  rw [contains, ← Option.isNone_iff_eq_none, Option.isSome_eq_false_iff]

theorem contains_eq_false_of_isReservedTag (h : isReservedTag tag = true) :
    r.contains tag = false := by
  rw [contains_eq_false_iff]
  by_contra hfind
  obtain ⟨handler, hfind⟩ := Option.ne_none_iff_exists'.1 hfind
  exact nomatch h.symm.trans (isReservedTag_of_find? hfind)

theorem mem_tags_iff : tag ∈ r.tags ↔ r.contains tag = true := by
  simp [tags, contains, find?, List.find?_isSome]

theorem ascending_tags (r : Registry) : r.tags.Pairwise (· < ·) := List.pairwise_map.2 r.ascending

theorem mem_handlers_iff : handler ∈ r.handlers ↔ r.find? handler.tag = some handler := by
  refine ⟨fun hmem => ?_, List.mem_of_find?_eq_some⟩
  have hnodup : r.tags.Nodup := r.ascending_tags.imp Char.ne_of_lt
  have hcontains : r.contains handler.tag = true := mem_tags_iff.1 (List.mem_map_of_mem hmem)
  obtain ⟨found, hfound⟩ := Option.isSome_iff_exists.1 hcontains
  have hsame : found = handler :=
    List.inj_on_of_nodup_map hnodup (List.mem_of_find?_eq_some hfound) hmem (tag_of_find? hfound)
  rw [hfound, hsame]

/-- There is nothing to a registry but its slots. -/
theorem eq_of_find?_eq (h : ∀ tag, r.find? tag = r'.find? tag) : r = r' := by
  have : Std.Antisymm fun a b : Handler => a.tag < b.tag :=
    ⟨fun _ _ hab hba => absurd hab (Char.lt_asymm hba)⟩
  have : Std.Irrefl fun a b : Handler => a.tag < b.tag := ⟨fun a => Char.lt_irrefl a.tag⟩
  have hhandlers : r.handlers = r'.handlers :=
    List.Pairwise.eq_of_mem_iff r.ascending r'.ascending fun handler => by
      rw [mem_handlers_iff, mem_handlers_iff, h]
  cases r
  cases r'
  cases hhandlers
  rfl

theorem handlerFor_eq_ok_iff : r.handlerFor tag = .ok handler ↔ r.find? tag = some handler := by
  unfold handlerFor
  rcases r.find? tag with _ | found <;> simp

theorem handlerFor_eq_error_iff {cause : UnknownType} :
    r.handlerFor tag = .error cause ↔ r.contains tag = false ∧ cause = ⟨tag⟩ := by
  rw [contains_eq_false_iff]
  unfold handlerFor
  rcases r.find? tag with _ | found <;> simp [eq_comm]

/-- What can be relied on in a registry: which handler is where, and that what can be asked about it
agrees. -/
structure IsWellFormed (r : Registry) : Prop where
  tag_eq : ∀ tag handler, r.find? tag = some handler → handler.tag = tag
  contains_reserved : ∀ tag ∈ [',', '[', ']'], r.contains tag = false
  ascending : r.tags.Pairwise (· < ·)
  mem_tags : ∀ tag, tag ∈ r.tags ↔ r.contains tag = true
  size_eq : r.size = r.tags.length
  isEmpty_iff : r.isEmpty = true ↔ r.tags = []
  handlerFor_ok : ∀ tag handler, r.handlerFor tag = .ok handler ↔ r.find? tag = some handler
  handlerFor_error : ∀ tag cause,
    r.handlerFor tag = .error cause ↔ r.contains tag = false ∧ cause = ⟨tag⟩

theorem isWellFormed (r : Registry) : r.IsWellFormed where
  tag_eq _ _ := tag_of_find?
  contains_reserved _ h := contains_eq_false_of_isReservedTag (isReservedTag_iff.2 h)
  ascending := r.ascending_tags
  mem_tags _ := mem_tags_iff
  size_eq := (List.length_map _).symm
  isEmpty_iff := by simp [isEmpty, tags]
  handlerFor_ok _ _ := handlerFor_eq_ok_iff
  handlerFor_error _ _ := handlerFor_eq_error_iff

/-! ### One change -/

/-- Why the registry refuses the handler: its tag is reserved, or taken. -/
def Refuses (r : Registry) (handler : Handler) (cause : RegistryError) : Prop :=
  handler.tag ∈ [',', '[', ']'] ∧ cause = .reservedType handler.tag ∨
    r.contains handler.tag = true ∧ cause = .duplicateType handler.tag

theorem find?_place {handlers : List Handler} (fresh : ∀ h ∈ handlers, h.tag ≠ handler.tag)
    (tag : Char) :
    (place handler handlers).find? (·.tag = tag) =
      if handler.tag = tag then some handler else handlers.find? (·.tag = tag) := by
  induction handlers with
  | nil =>
    rw [place, List.find?_cons, List.find?_nil]
    split <;> simp_all
  | cons first rest ih =>
    rw [List.forall_mem_cons] at fresh
    rw [place]
    split_ifs with hbefore htag htag
    · rw [List.find?_cons_of_pos (by simpa using htag)]
    · rw [List.find?_cons_of_neg (by simpa using htag)]
    · have hfirst : first.tag ≠ tag := htag ▸ fresh.1
      rw [List.find?_cons_of_neg (by simpa using hfirst), ih fresh.2, if_pos htag]
    · rw [List.find?_cons, List.find?_cons, ih fresh.2, if_neg htag]

/-- A handler is registered where there was none, and the other tags keep theirs. -/
theorem find?_of_register (h : r.register handler = .ok r') (tag : Char) :
    r.find? handler.tag = none ∧
      r'.find? tag = if handler.tag = tag then some handler else r.find? tag := by
  unfold register at h
  split_ifs at h with hreserved htaken
  cases h
  have hnone : r.find? handler.tag = none := by simpa [contains] using htaken
  have hfresh : ∀ h ∈ r.handlers, h.tag ≠ handler.tag := by
    intro h hmem
    simpa using List.find?_eq_none.1 hnone h hmem
  exact ⟨hnone, find?_place hfresh tag⟩

theorem register_eq_error_iff :
    r.register handler = .error cause ↔ r.Refuses handler cause := by
  unfold register Refuses
  rw [← isReservedTag_iff]
  split_ifs with hreserved htaken
  · simp [hreserved, contains_eq_false_of_isReservedTag hreserved, eq_comm]
  · simp [hreserved, htaken, eq_comm]
  · simp [hreserved, htaken]

theorem exists_register (hunreserved : handler.tag ∉ [',', '[', ']'])
    (hfree : r.contains handler.tag = false) : ∃ r', r.register handler = .ok r' := by
  rcases hregister : r.register handler with cause | r'
  · rcases register_eq_error_iff.1 hregister with ⟨hreserved, -⟩ | ⟨htaken, -⟩
    · exact absurd hreserved hunreserved
    · exact nomatch hfree.symm.trans htaken
  · exact ⟨r', rfl⟩

theorem enter_of_refuses (h : r.Refuses handler cause) :
    r.enter handler = (.error cause, r) := by
  rw [enter, register_eq_error_iff.2 h]

theorem enter_of_register (h : r.register handler = .ok r') : r.enter handler = (.ok (), r') := by
  rw [enter, h]

/-- The slot of the tag is emptied, and the other tags keep their handlers. -/
theorem find?_erase (r : Registry) (erased tag : Char) :
    (r.erase erased).find? tag = if erased = tag then none else r.find? tag := by
  unfold find? erase
  dsimp only
  rw [List.find?_filter]
  split_ifs with htag
  · subst htag
    exact List.find?_eq_none.2 fun handler _ => by simp
  · congr 1
    funext handler
    simp only [decide_eq_decide, decide_eq_true_eq, and_iff_right_iff_imp]
    rintro rfl
    exact Ne.symm htag

/-! ### Changes one after the other -/

/-- A change to a registry. -/
inductive Change where
  /-- A handler is added to the registry at hand, which stays as it was if it refuses the
  handler. -/
  | enter (handler : Handler)
  /-- A handler is added, and no registry is left if it is refused. -/
  | register (handler : Handler)
  /-- The handler for a tag is dropped, if there is one. -/
  | erase (tag : Char)
deriving DecidableEq, Repr

/-- The registry after a change. -/
def change (r : Registry) : Change → Except RegistryError Registry
  | .enter handler => .ok (r.enter handler).2
  | .register handler => r.register handler
  | .erase tag => .ok (r.erase tag)

/-- The registry after changes one after the other. -/
def changeAll (r : Registry) (changes : List Change) : Except RegistryError Registry :=
  changes.foldlM change r

/-- What a change makes of the slot of a tag.  The handler that is there stays if another one comes,
and there is never one for a reserved tag. -/
def Change.onSlot (tag : Char) (held : Option Handler) : Change → Option Handler
  | .enter handler | .register handler =>
    if handler.tag = tag ∧ tag ∉ [',', '[', ']'] then held.or (some handler) else held
  | .erase erased => if erased = tag then none else held

variable {c : Change} {changes : List Change}

theorem onSlot_register_of_ok (h : r.register handler = .ok r') (tag : Char) :
    r'.find? tag = (Change.register handler).onSlot tag (r.find? tag) := by
  obtain ⟨hnone, hfind⟩ := find?_of_register h tag
  rw [hfind, Change.onSlot]
  by_cases htag : handler.tag = tag
  · subst htag
    rw [if_pos rfl] at hfind ⊢
    have hunreserved : handler.tag ∉ [',', '[', ']'] := by
      rw [← isReservedTag_iff, isReservedTag_of_find? hfind]
      exact Bool.false_ne_true
    rw [if_pos ⟨rfl, hunreserved⟩, hnone, Option.none_or]
  · rw [if_neg htag, if_neg fun h => htag h.1]

theorem onSlot_register_of_refuses (h : r.Refuses handler cause) (tag : Char) :
    (Change.register handler).onSlot tag (r.find? tag) = r.find? tag := by
  rw [Change.onSlot]
  split_ifs with hfree
  · obtain ⟨rfl, hunreserved⟩ := hfree
    rcases h with ⟨hreserved, -⟩ | ⟨htaken, -⟩
    · exact absurd hreserved hunreserved
    · exact Option.or_of_isSome htaken
  · rfl

theorem find?_change (h : r.change c = .ok r') (tag : Char) :
    r'.find? tag = c.onSlot tag (r.find? tag) := by
  cases c with
  | enter handler =>
    cases h
    rcases hregister : r.register handler with cause | extended
    · have hrefuses := register_eq_error_iff.1 hregister
      rw [enter_of_refuses hrefuses]
      exact (onSlot_register_of_refuses hrefuses tag).symm
    · rw [enter_of_register hregister]
      exact onSlot_register_of_ok hregister tag
  | register handler => exact onSlot_register_of_ok h tag
  | erase erased =>
    cases h
    exact find?_erase r erased tag

theorem changeAll_cons_eq_ok_iff :
    r.changeAll (c :: changes) = .ok r' ↔
      ∃ next, r.change c = .ok next ∧ next.changeAll changes = .ok r' := by
  rw [changeAll, List.foldlM_cons]
  exact except_bind_eq_ok_iff

/-- The slots after changes are settled one by one. -/
theorem find?_changeAll (h : r.changeAll changes = .ok r') (tag : Char) :
    r'.find? tag = changes.foldl (Change.onSlot tag) (r.find? tag) := by
  induction changes generalizing r with
  | nil =>
    cases h
    rfl
  | cons c changes ih =>
    obtain ⟨next, hnext, hrest⟩ := changeAll_cons_eq_ok_iff.1 h
    rw [ih hrest, find?_change hnext, List.foldl_cons]

theorem change_eq_error_iff :
    r.change c = .error cause ↔ ∃ handler, c = .register handler ∧ r.Refuses handler cause := by
  cases c with
  | enter handler | erase tag => exact iff_of_false nofun nofun
  | register handler =>
    constructor
    · intro h
      exact ⟨handler, rfl, register_eq_error_iff.1 h⟩
    · rintro ⟨_, ⟨⟩, hrefuses⟩
      exact register_eq_error_iff.2 hrefuses

/-- Changes come to nothing exactly at a handler that is refused where no registry is kept. -/
theorem changeAll_eq_error_iff :
    r.changeAll changes = .error cause ↔
      ∃ front handler back middle, changes = front ++ .register handler :: back ∧
        r.changeAll front = .ok middle ∧ middle.Refuses handler cause := by
  constructor
  · intro h
    induction changes generalizing r with
    | nil => cases h
    | cons c changes ih =>
      rw [changeAll, List.foldlM_cons] at h
      rcases hchange : r.change c with cause' | next
      · rw [hchange] at h
        cases h
        obtain ⟨handler, rfl, hrefuses⟩ := change_eq_error_iff.1 hchange
        exact ⟨[], handler, changes, r, rfl, rfl, hrefuses⟩
      · rw [hchange] at h
        obtain ⟨front, handler, back, middle, rfl, hfront, hrefuses⟩ := ih h
        exact ⟨c :: front, handler, back, middle, rfl,
          changeAll_cons_eq_ok_iff.2 ⟨next, hchange, hfront⟩, hrefuses⟩
  · rintro ⟨front, handler, back, middle, rfl, hfront, hrefuses⟩
    rw [changeAll] at hfront ⊢
    rw [List.foldlM_append, hfront]
    show (middle.register handler >>= fun next => back.foldlM change next) = .error cause
    rw [register_eq_error_iff.2 hrefuses]
    rfl

/-- Changes one after the other come to nothing only at a handler that is refused.  Otherwise they
lead to the one registry whose slots hold what the changes leave there, and it is well-formed.  Next
it refuses exactly the handlers whose tag is reserved or taken, and stays as it is; any other
handler comes under its own tag and under no other; and erasing a tag drops the handler for that tag
alone. -/
theorem changeAll_exact (start : Registry) (changes : List Change) :
    (∀ cause, start.changeAll changes = .error cause ↔
      ∃ front handler back middle, changes = front ++ .register handler :: back ∧
        start.changeAll front = .ok middle ∧ middle.Refuses handler cause) ∧
    ∀ r, start.changeAll changes = .ok r →
      (∀ other : Registry,
        (∀ tag, other.find? tag = changes.foldl (Change.onSlot tag) (start.find? tag)) ↔
          other = r) ∧
      r.IsWellFormed ∧
      (∀ handler,
        (∀ cause, r.register handler = .error cause ↔ r.Refuses handler cause) ∧
        (∀ cause, r.Refuses handler cause → r.enter handler = (.error cause, r)) ∧
        (handler.tag ∉ [',', '[', ']'] → r.contains handler.tag = false →
          ∃ r', r.register handler = .ok r' ∧ r.enter handler = (.ok (), r') ∧
            ∀ tag, r'.find? tag = if handler.tag = tag then some handler else r.find? tag)) ∧
      ∀ erased tag, (r.erase erased).find? tag = if erased = tag then none else r.find? tag := by
  refine ⟨fun cause => changeAll_eq_error_iff, fun r h => ?_⟩
  have hslots := find?_changeAll h
  refine ⟨fun other => ⟨fun hother => ?_, ?_⟩, r.isWellFormed,
    fun handler => ⟨fun cause => register_eq_error_iff, fun cause => enter_of_refuses, ?_⟩,
    find?_erase r⟩
  · exact eq_of_find?_eq fun tag => (hother tag).trans (hslots tag).symm
  · rintro rfl
    exact hslots
  · intro hunreserved hfree
    obtain ⟨r', hregister⟩ := exists_register hunreserved hfree
    exact ⟨r', hregister, enter_of_register hregister,
      fun tag => (find?_of_register hregister tag).2⟩

/-- The handler for a character gives way to one for four bytes.  A second handler for an integer
and one for a bracket are refused on the way, and there is nothing to drop for `q`. -/
def exchange : List Change :=
  [.erase 'c', .register (.fixedWidth 'c' 4), .enter .int, .enter (.fixedWidth '[' 4), .erase 'q']

theorem changeAll_exact_exchange :
    ∃ r, standard.changeAll exchange = .ok r ∧ r.IsWellFormed ∧
      r.find? 'c' = some (.fixedWidth 'c' 4) ∧ r.find? '[' = none ∧
      r.enter .long = (.error (.duplicateType 'h'), r) := by
  obtain ⟨r, hchange⟩ : ∃ r, standard.changeAll exchange = .ok r := ⟨_, rfl⟩
  obtain ⟨honly, hformed, hhandlers, -⟩ := (changeAll_exact standard exchange).2 r hchange
  have hslots := (honly r).2 rfl
  have hlong : r.contains 'h' = true := by
    rw [contains, hslots]
    decide
  exact ⟨r, hchange, hformed, (hslots 'c').trans (by decide), (hslots '[').trans (by decide),
    (hhandlers .long).2.1 _ (.inr ⟨hlong, rfl⟩)⟩

end Registry

end OpenSound
