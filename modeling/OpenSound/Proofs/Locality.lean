import Mathlib.Data.List.Infix
import OpenSound.Regex.Reader

/-!
# Reading up to a parenthesis

What is read off a text with a closing parenthesis behind it is what is read off the text alone,
unless it goes beyond the parenthesis (`Regex.Local`).  This holds of the parts of the reader of
regular expressions, which do not look at a parenthesis without taking it.  There are two
exceptions, a class that is not closed and the brace behind `\b`: the text alone is refused, and the
parenthesis only puts off the refusal.  They are told by the `pending` text in front of the
parenthesis (`Regex.LocalBut`).  The first half of the module has a rule for each way in which the
reader is put together from scanners, the second half goes through the scanners.
-/

namespace OpenSound.Regex

/-! ### Local scanners -/

/-- The function drops something from the front of a text, and what it drops in front of a closing
parenthesis does not hang on what follows. -/
structure Drops (f : List Char → List Char) : Prop where
  suffix (s : List Char) : f s <:+ s
  split (s t : List Char) :
    f (s ++ ')' :: t) = f s ++ ')' :: t ∨ f (s ++ ')' :: t) <:+ t ∧ f s = []

/-- What the scanner reads off a text in front of a closing parenthesis it also reads off the text
alone, or it goes beyond the parenthesis, or it fails on the text alone and leaves a pending rest in
front of the parenthesis. -/
structure LocalBut {α : Type} (pending : α → List Char → Prop)
    (f : List Char → Option (α × List Char)) : Prop where
  suffix {s : List Char} {x : α} {rest : List Char} : f s = some (x, rest) → rest <:+ s
  split {s t : List Char} {x : α} {u : List Char} : f (s ++ ')' :: t) = some (x, u) →
    (∃ rest, f s = some (x, rest) ∧ u = rest ++ ')' :: t) ∨ u <:+ t ∨
      f s = none ∧ ∃ rest, u = rest ++ ')' :: t ∧ pending x rest

/-- The scanner is local without exception. -/
abbrev Local {α : Type} (f : List Char → Option (α × List Char)) : Prop :=
  LocalBut (fun _ _ => False) f

section Combinators

variable {α β : Type} {pending : α → List Char → Prop} {pending' : β → List Char → Prop}
  {f f₀ f₁ f₂ : List Char → Option (α × List Char)} {g : α → List Char → Option (β × List Char)}
  {d : List Char → List Char}

theorem Drops.comp {d' : List Char → List Char} (h : Drops d) (h' : Drops d') : Drops (d ∘ d') where
  suffix s := (h.suffix _).trans (h'.suffix s)
  split s t := by
    rcases h'.split s t with hsame | ⟨hbeyond, hnil⟩
    · rw [Function.comp_apply, hsame]
      exact h.split (d' s) t
    · refine .inr ⟨(h.suffix _).trans hbeyond, ?_⟩
      rw [Function.comp_apply, hnil]
      exact List.suffix_nil.1 (h.suffix [])

theorem drops_id : Drops id where
  suffix := List.suffix_refl
  split _ _ := .inl rfl

theorem drops_drop (count : Nat) : Drops (List.drop count) where
  suffix := List.drop_suffix count
  split s t := by
    rcases Nat.lt_or_ge s.length count with hlt | hle
    · refine .inr ⟨?_, List.drop_eq_nil_of_le hlt.le⟩
      obtain ⟨more, rfl⟩ := Nat.exists_eq_add_of_lt hlt
      rw [Nat.add_assoc, List.drop_length_add_append, List.drop_succ_cons]
      exact List.drop_suffix more t
    · exact .inl (List.drop_append_of_le_length hle)

theorem Drops.local_some (h : Drops d) (x : α) : LocalBut pending fun s => some (x, d s) where
  suffix := by
    rintro s _ _ ⟨⟩
    exact h.suffix s
  split := by
    rintro s t _ _ ⟨⟩
    rcases h.split s t with hsame | ⟨hbeyond, -⟩
    · exact .inl ⟨d s, rfl, hsame⟩
    · exact .inr (.inl hbeyond)

theorem local_some (x : α) : LocalBut pending fun s => some (x, s) := drops_id.local_some x

theorem local_none : LocalBut pending fun _ => (none : Option (α × List Char)) where
  suffix := nofun
  split := nofun

theorem LocalBut.localBut (h : Local f) : LocalBut pending f where
  suffix := h.suffix
  split hf := (h.split hf).imp_right fun hrest => .inl (hrest.resolve_right fun hfalse => by
    obtain ⟨-, _, -, hpending⟩ := hfalse
    exact hpending)

theorem LocalBut.congr (h : LocalBut pending f₁) (heq : ∀ s, f₁ s = f s) : LocalBut pending f := by
  rwa [← funext heq]

theorem LocalBut.drop (h : LocalBut pending f) (hd : Drops d) :
    LocalBut pending fun s => f (d s) where
  suffix hf := (h.suffix hf).trans (hd.suffix _)
  split {s t x u} hf := by
    rcases hd.split s t with hsame | ⟨hbeyond, -⟩
    · rw [hsame] at hf
      exact h.split hf
    · exact .inr (.inl ((h.suffix hf).trans hbeyond))

theorem LocalBut.bind_of_pending (h : LocalBut pending f) (hg : ∀ a, LocalBut pending' (g a))
    (hpending : ∀ {a rest t y u}, pending a rest → g a (rest ++ ')' :: t) = some (y, u) → u <:+ t) :
    LocalBut pending' (fun s => do
      let (a, rest) ← f s
      g a rest) where
  suffix {s y rest} hs := by
    obtain ⟨⟨a, between⟩, ha, hy⟩ := Option.bind_eq_some_iff.1 hs
    exact ((hg a).suffix hy).trans (h.suffix ha)
  split {s t y u} hs := by
    obtain ⟨⟨a, between⟩, ha, hy⟩ := Option.bind_eq_some_iff.1 hs
    rcases h.split ha with ⟨rest, halone, rfl⟩ | hbeyond | ⟨-, rest, rfl, hrest⟩
    · rw [halone]
      exact (hg a).split hy
    · exact .inr (.inl (((hg a).suffix hy).trans hbeyond))
    · exact .inr (.inl (hpending hrest hy))

theorem LocalBut.bind (h : Local f) (hg : ∀ a, LocalBut pending' (g a)) :
    LocalBut pending' (fun s => do
      let (a, rest) ← f s
      g a rest) :=
  h.bind_of_pending hg fun hfalse => hfalse.elim

/-- What was read is turned into something else, or refused. -/
theorem LocalBut.choose_of_pending {k : α → Option β} (h : LocalBut pending f)
    (hpending : ∀ {a b rest}, pending a rest → k a = some b → pending' b rest) :
    LocalBut pending' (fun s => do
      let (a, rest) ← f s
      let b ← k a
      return (b, rest)) where
  suffix {s y rest} hs := by
    obtain ⟨⟨a, between⟩, ha, hy⟩ := Option.bind_eq_some_iff.1 hs
    obtain ⟨b, -, hb⟩ := Option.bind_eq_some_iff.1 hy
    cases hb
    exact h.suffix ha
  split {s t y u} hs := by
    obtain ⟨⟨a, between⟩, ha, hy⟩ := Option.bind_eq_some_iff.1 hs
    obtain ⟨b, hk, hb⟩ := Option.bind_eq_some_iff.1 hy
    cases hb
    rcases h.split ha with ⟨rest, halone, rfl⟩ | hbeyond | ⟨hnone, rest, rfl, hrest⟩
    · refine .inl ⟨rest, ?_, rfl⟩
      rw [halone]
      show (k a).bind (fun b => some (b, rest)) = some (y, rest)
      rw [hk]
      rfl
    · exact .inr (.inl hbeyond)
    · refine .inr (.inr ⟨?_, rest, rfl, hpending hrest hk⟩)
      rw [hnone]
      rfl

theorem LocalBut.choose {k : α → Option β} (h : Local f) :
    Local (fun s => do
      let (a, rest) ← f s
      let b ← k a
      return (b, rest)) :=
  h.choose_of_pending fun hfalse => hfalse.elim

theorem LocalBut.map {k : α → β} (h : Local f) :
    Local (fun s => do
      let (a, rest) ← f s
      return (k a, rest)) :=
  h.choose (k := fun a => some (k a))

/-- Something that does not hang on the text is worked out first. -/
theorem local_option_bind (o : Option α) (h : ∀ a, LocalBut pending' (g a)) :
    LocalBut pending' (fun s => do
      let a ← o
      g a s) := by
  cases o with
  | none => exact local_none
  | some a => exact h a

/-- A scanner goes one of two ways, by something that shows in front of the parenthesis. -/
theorem local_cases {p : List Char → Prop} (hp : ∀ s t, p (s ++ ')' :: t) ↔ p s)
    (h₁ : LocalBut pending f₁) (h₂ : LocalBut pending f₂) (hf₁ : ∀ s, p s → f s = f₁ s)
    (hf₂ : ∀ s, ¬ p s → f s = f₂ s) : LocalBut pending f where
  suffix {s x rest} hs := by
    by_cases hshows : p s
    · rw [hf₁ s hshows] at hs
      exact h₁.suffix hs
    · rw [hf₂ s hshows] at hs
      exact h₂.suffix hs
  split {s t x u} hs := by
    by_cases hshows : p s
    · rw [hf₁ _ ((hp s t).2 hshows)] at hs
      rw [hf₁ s hshows]
      exact h₁.split hs
    · rw [hf₂ _ (mt (hp s t).1 hshows)] at hs
      rw [hf₂ s hshows]
      exact h₂.split hs

/-- A word without a parenthesis stands in front as a whole or not at all. -/
theorem prefix_append_parenthesis {word : List Char} (hword : ')' ∉ word) (s t : List Char) :
    word <+: s ++ ')' :: t ↔ word <+: s := by
  induction word generalizing s with
  | nil => simp
  | cons c word ih =>
    have hc : c ≠ ')' := (List.ne_of_not_mem_cons hword).symm
    have hword : ')' ∉ word := List.not_mem_of_not_mem_cons hword
    cases s with
    | nil => simp [List.cons_prefix_cons, hc]
    | cons first s => simp only [List.cons_append, List.cons_prefix_cons, ih hword s]

/-- A scanner goes a way of its own behind each of several words, and another way without any. -/
theorem local_of_words (hd : Drops d) (words : List (List Char))
    (hwords : ∀ word ∈ words, ')' ∉ word)
    (h : ∀ word ∈ words, ∃ f', LocalBut pending f' ∧ ∀ s r, d s = word ++ r → f s = f' r)
    (h₀ : LocalBut pending f₀) (hf₀ : ∀ s, (∀ word ∈ words, ¬ word <+: d s) → f s = f₀ (d s)) :
    LocalBut pending f := by
  have hways (s : List Char) : (∃ word ∈ words, ∃ r, d s = word ++ r) ∨
      ∀ word ∈ words, ¬ word <+: d s := by
    by_cases hword : ∃ word ∈ words, word <+: d s
    · obtain ⟨word, hmem, r, hr⟩ := hword
      exact .inl ⟨word, hmem, r, hr.symm⟩
    · exact .inr fun word hmem hprefix => hword ⟨word, hmem, hprefix⟩
  have hsuffix {s : List Char} {x : α} {rest : List Char} (hs : f s = some (x, rest)) :
      rest <:+ d s := by
    rcases hways s with ⟨word, hmem, r, hr⟩ | hnone
    · obtain ⟨f', hlocal, hf'⟩ := h word hmem
      rw [hf' s r hr] at hs
      rw [hr]
      exact (hlocal.suffix hs).trans (List.suffix_append word r)
    · rw [hf₀ s hnone] at hs
      exact h₀.suffix hs
  refine ⟨fun hs => (hsuffix hs).trans (hd.suffix _), fun {s t x u} hs => ?_⟩
  rcases hd.split s t with hsame | ⟨hbeyond, -⟩
  · rcases hways s with ⟨word, hmem, r, hr⟩ | hnone
    · obtain ⟨f', hlocal, hf'⟩ := h word hmem
      rw [hf' _ (r ++ ')' :: t) (by rw [hsame, hr, List.append_assoc])] at hs
      rw [hf' s r hr]
      exact hlocal.split hs
    · have hnone' : ∀ word ∈ words, ¬ word <+: d (s ++ ')' :: t) := fun word hmem hprefix => by
        rw [hsame, prefix_append_parenthesis (hwords word hmem)] at hprefix
        exact hnone word hmem hprefix
      rw [hf₀ _ hnone', hsame] at hs
      rw [hf₀ s hnone]
      exact h₀.split hs
  · exact .inr (.inl ((hsuffix hs).trans hbeyond))

/-- A scanner goes one way behind a word and another way without it. -/
theorem local_of_word (hd : Drops d) (word : List Char) (hword : ')' ∉ word)
    (h₁ : LocalBut pending f₁) (h₀ : LocalBut pending f₀)
    (hf₁ : ∀ s r, d s = word ++ r → f s = f₁ r) (hf₀ : ∀ s, ¬ word <+: d s → f s = f₀ (d s)) :
    LocalBut pending f := by
  refine local_of_words hd [word] ?_ ?_ h₀ ?_
  · rwa [List.forall_mem_singleton]
  · rw [List.forall_mem_singleton]
    exact ⟨f₁, h₁, hf₁⟩
  · intro s hs
    rw [List.forall_mem_singleton] at hs
    exact hf₀ s hs

/-- The word stands in front of the text as it is. -/
theorem local_branch (word : List Char) (hword : ')' ∉ word) (h₁ : LocalBut pending f₁)
    (h₀ : LocalBut pending f₀) (hf₁ : ∀ r, f (word ++ r) = f₁ r)
    (hf₀ : ∀ s, ¬ word <+: s → f s = f₀ s) : LocalBut pending f := by
  refine local_of_word drops_id word hword h₁ h₀ ?_ hf₀
  rintro _ r rfl
  exact hf₁ r

/-- A scanner that fails on the empty text is looked at behind each character. -/
theorem local_of_cons (hnil : f [] = none) (h : ∀ c, LocalBut pending fun s => f (c :: s)) :
    LocalBut pending f where
  suffix {s x rest} hs := by
    cases s with
    | nil =>
      rw [hnil] at hs
      cases hs
    | cons c s => exact ((h c).suffix hs).trans (List.suffix_cons c s)
  split {s t x u} hs := by
    cases s with
    | nil => exact .inr (.inl ((h ')').suffix hs))
    | cons c s => exact (h c).split hs

end Combinators

/-! ### Blanks -/

theorem isBlank_parenthesis : Text.isBlank ')' = false := by decide

theorem dropSpacing_suffix (inComment : Bool) (s : List Char) : dropSpacing inComment s <:+ s := by
  induction s generalizing inComment with
  | nil => exact List.suffix_refl _
  | cons c s ih =>
    rw [dropSpacing]
    split_ifs
    · exact (ih _).trans (List.suffix_cons c s)
    · exact (ih _).trans (List.suffix_cons c s)
    · exact (ih _).trans (List.suffix_cons c s)
    · exact List.suffix_refl _

theorem drops_dropSpacing (inComment : Bool) : Drops (dropSpacing inComment) where
  suffix := dropSpacing_suffix inComment
  split s t := by
    induction s generalizing inComment with
    | nil =>
      cases inComment with
      | false => exact .inl (by simp [dropSpacing, isBlank_parenthesis])
      | true => exact .inr ⟨dropSpacing_suffix _ t, rfl⟩
    | cons c s ih =>
      rw [List.cons_append, dropSpacing, dropSpacing]
      split_ifs
      · exact ih _
      · exact ih _
      · exact ih _
      · exact .inl rfl

theorem Flags.skip_cons (flags : Flags) {c : Char} (hblank : Text.isBlank c = false)
    (hmark : c ≠ '#') (s : List Char) : flags.skip (c :: s) = c :: s := by
  unfold skip
  split_ifs
  · simp [dropSpacing, hblank, hmark]
  · rfl

theorem Flags.drops_skip (flags : Flags) : Drops flags.skip := by
  obtain hfree | hfree := Bool.eq_false_or_eq_true flags.freeSpacing
  · have hskip : flags.skip = dropSpacing false := by
      funext s
      rw [skip, if_pos hfree]
    rw [hskip]
    exact drops_dropSpacing false
  · have hskip : flags.skip = id := by
      funext s
      rw [skip, hfree]
      rfl
    rw [hskip]
    exact drops_id

theorem dropWhile_isBlank_append (s t : List Char) :
    (s ++ ')' :: t).dropWhile Text.isBlank = s.dropWhile Text.isBlank ++ ')' :: t := by
  induction s with
  | nil => rfl
  | cons c s ih =>
    rw [List.cons_append, List.dropWhile_cons, List.dropWhile_cons, ih]
    split_ifs
    · rfl
    · rfl

theorem drops_dropWhile_isBlank : Drops (List.dropWhile Text.isBlank) where
  suffix _ := List.dropWhile_suffix Text.isBlank
  split s t := .inl (dropWhile_isBlank_append s t)

theorem drops_dropLazy : Drops dropLazy where
  suffix s := by
    unfold dropLazy
    split
    · exact List.suffix_cons _ _
    · exact List.suffix_refl _
  split s t := by
    refine .inl ?_
    cases s with
    | nil => rfl
    | cons c s =>
      by_cases hc : c = '?'
      · subst hc
        rfl
      · simp [dropLazy, hc]

/-! ### Runs of characters -/

theorem Flags.takeWhile_cons (flags : Flags) (test : Char → Bool) (c : Char) (s : List Char) :
    flags.takeWhile test (c :: s) = if test c then
      (c :: (flags.takeWhile test (flags.skip s)).1, (flags.takeWhile test (flags.skip s)).2)
      else ([], c :: s) := by
  rw [takeWhile]

theorem Flags.takeWhile_suffix (flags : Flags) (test : Char → Bool) (s : List Char) :
    (flags.takeWhile test s).2 <:+ s := by
  fun_induction Flags.takeWhile flags test s with
  | case1 => exact List.suffix_refl _
  | case2 c s hc taken rest hrest ih =>
    rw [hrest] at ih
    exact (ih.trans (flags.drops_skip.suffix s)).trans (List.suffix_cons c s)
  | case3 => exact List.suffix_refl _

theorem Flags.takeWhile_split (flags : Flags) (test : Char → Bool) (s t : List Char) :
    flags.takeWhile test (s ++ ')' :: t) =
        ((flags.takeWhile test s).1, (flags.takeWhile test s).2 ++ ')' :: t) ∨
      (flags.takeWhile test (s ++ ')' :: t)).2 <:+ t := by
  fun_induction Flags.takeWhile flags test s with
  | case1 =>
    rw [List.nil_append, takeWhile_cons]
    split_ifs
    · exact .inr ((flags.takeWhile_suffix test _).trans (flags.drops_skip.suffix t))
    · exact .inl rfl
  | case2 c s hc taken rest hrest ih =>
    rw [List.cons_append, takeWhile_cons, if_pos hc]
    rcases flags.drops_skip.split s t with hsame | ⟨hbeyond, -⟩
    · rw [hsame]
      refine ih.imp_left fun hread => ?_
      rw [hread, hrest]
    · exact .inr ((flags.takeWhile_suffix test _).trans hbeyond)
  | case3 c s hc =>
    rw [List.cons_append, takeWhile_cons, if_neg hc]
    exact .inl rfl

theorem Flags.local_takeWhile (flags : Flags) (test : Char → Bool) :
    Local fun s => some (flags.takeWhile test s) where
  suffix {s x rest} hs := by
    have hrest := flags.takeWhile_suffix test s
    rw [Option.some.inj hs] at hrest
    exact hrest
  split {s t x u} hs := by
    have hread := Option.some.inj hs
    rcases flags.takeWhile_split test s t with hsame | hbeyond
    · obtain ⟨rfl, rfl⟩ := Prod.mk.inj (hsame.symm.trans hread)
      exact .inl ⟨_, rfl, rfl⟩
    · rw [hread] at hbeyond
      exact .inr (.inl hbeyond)

theorem takeWhile_default (test : Char → Bool) (s : List Char) :
    ({} : Flags).takeWhile test s = (s.takeWhile test, s.dropWhile test) := by
  induction s with
  | nil => rw [Flags.takeWhile, List.takeWhile_nil, List.dropWhile_nil]
  | cons c s ih =>
    have hskip : ({} : Flags).skip s = s := rfl
    rw [Flags.takeWhile_cons, hskip, ih, List.takeWhile_cons, List.dropWhile_cons]
    split_ifs
    · rfl
    · rfl

theorem local_span (test : Char → Bool) :
    Local fun s => some (s.takeWhile test, s.dropWhile test) := by
  have hspan := ({} : Flags).local_takeWhile test
  simp only [takeWhile_default] at hspan
  exact hspan

theorem Flags.local_takeCount? (flags : Flags) (count : Nat) : Local (flags.takeCount? count) := by
  induction count with
  | zero => exact local_some []
  | succ count ih =>
    exact local_of_cons rfl fun c => (ih.drop flags.drops_skip).map (k := (c :: ·))

/-! ### Escapes -/

/-- Goes on behind the brace that closes the code of a character. -/
def Flags.closeCode? (flags : Flags) (c : Char) : List Char → Option (Char × List Char)
  | [] => none
  | _ :: rest => some (c, flags.skip rest)

theorem Flags.local_readHex? (flags : Flags) (count : Nat) : Local (flags.readHex? count) := by
  have hclosed (c : Char) : Local (flags.closeCode? c) :=
    local_of_cons rfl fun _ => flags.drops_skip.local_some c
  have htext := (flags.local_takeWhile (· ≠ '\x7d')).drop flags.drops_skip
  have hbraces := htext.bind fun digits => local_option_bind (charOfHex? digits) hclosed
  have hdigits := (flags.local_takeCount? count).choose (k := charOfHex?)
  refine local_of_word flags.drops_skip ['\x7b'] (by decide) hbraces hdigits ?_ ?_
  · intro s r hs
    rw [readHex?, hs]
    rfl
  · intro s hs
    rw [readHex?]
    split
    · next r hr => exact absurd ⟨r, hr.symm⟩ hs
    · rfl

/-- A brace behind which only blanks are left. -/
def Flags.IsStrayBrace (flags : Flags) (rest : List Char) : Prop :=
  ∃ inside, rest = '\x7b' :: inside ∧ flags.skip inside = []

/-- Reads the name of an assertion and the brace that closes it. -/
def Flags.readWordLook? (flags : Flags) (s : List Char) : Option (Look × List Char) := do
  let (name, rest) ← some (flags.takeWhile (fun c => c.isAlpha || c = '-') s)
  match rest with
  | '\x7d' :: rest => do return (← wordLook? name, rest)
  | _ => none

theorem Flags.local_readWordLook? (flags : Flags) : Local flags.readWordLook? := by
  have hclosed (name : List Char) : Local (fun s => match s with
      | '\x7d' :: rest => do return (← wordLook? name, rest)
      | _ => none) := by
    refine local_branch ['\x7d'] (by decide) (local_option_bind (wordLook? name) local_some)
      local_none (fun _ => rfl) fun s hs => ?_
    split
    · next r => exact absurd ⟨r, rfl⟩ hs
    · rfl
  exact (flags.local_takeWhile _).bind hclosed

theorem Flags.readBoundary?_brace (flags : Flags) (inside : List Char) :
    flags.readBoundary? ('\x7b' :: inside) = match flags.skip inside with
      | [] => none
      | c :: r => if c.isAlpha || c = '-' then flags.readWordLook? (c :: r)
          else some (.wordBoundary, '\x7b' :: inside) := rfl

theorem Flags.readBoundary?_other (flags : Flags) {s : List Char} (hs : ¬ ['\x7b'] <+: s) :
    flags.readBoundary? s = some (.wordBoundary, s) := by
  unfold readBoundary?
  split
  · next r => exact absurd ⟨r, rfl⟩ hs
  · rfl

/-- Whether the brace belongs to the assertion is told by the character behind it.  Where there is
none, the assertion is refused, but with a parenthesis there it stands for itself. -/
theorem Flags.localBut_readBoundary? (flags : Flags) :
    LocalBut (fun _ => flags.IsStrayBrace) flags.readBoundary? := by
  have hname : LocalBut (fun _ => flags.IsStrayBrace) flags.readWordLook? :=
    flags.local_readWordLook?.localBut
  have hinside (inside : List Char) := flags.drops_skip.suffix inside
  refine ⟨fun {s x rest} hs => ?_, fun {s t x u} hs => ?_⟩
  · by_cases hbrace : ['\x7b'] <+: s
    · obtain ⟨inside, rfl⟩ := hbrace
      rw [List.singleton_append, readBoundary?_brace] at hs
      split at hs
      · cases hs
      · next c r hr =>
        split_ifs at hs with hc
        · have hrest := (hname.suffix hs).trans (hr ▸ hinside inside)
          exact hrest.trans (List.suffix_cons _ inside)
        · cases hs
          exact List.suffix_refl _
    · rw [flags.readBoundary?_other hbrace] at hs
      cases hs
      exact List.suffix_refl _
  · by_cases hbrace : ['\x7b'] <+: s
    · obtain ⟨inside, rfl⟩ := hbrace
      rw [List.singleton_append, List.cons_append, readBoundary?_brace] at hs
      rw [List.singleton_append, readBoundary?_brace]
      rcases flags.drops_skip.split inside t with hsame | ⟨hbeyond, hnil⟩
      · rw [hsame] at hs
        rcases hr : flags.skip inside with _ | ⟨c, r⟩
        · rw [hr] at hs
          cases hs
          exact .inr (.inr ⟨rfl, _, rfl, inside, rfl, hr⟩)
        · rw [hr, List.cons_append] at hs
          dsimp only at hs ⊢
          split_ifs at hs ⊢
          · exact hname.split (s := c :: r) hs
          · cases hs
            exact .inl ⟨_, rfl, rfl⟩
      · split at hs
        · cases hs
        · next c r hr =>
          rw [hr] at hbeyond
          split_ifs at hs
          · exact .inr (.inl ((hname.suffix hs).trans hbeyond))
          · cases hs
            exact .inr (.inr ⟨by rw [hnil], _, rfl, inside, rfl, hnil⟩)
    · have hbrace' : ¬ ['\x7b'] <+: s ++ ')' :: t := by
        rwa [prefix_append_parenthesis (by decide)]
      rw [flags.readBoundary?_other hbrace'] at hs
      cases hs
      exact .inl ⟨s, flags.readBoundary?_other hbrace, rfl⟩

/-- What may be left behind an escape that a parenthesis saves from being refused. -/
def Flags.IsPendingEscape (flags : Flags) : Escape → List Char → Prop
  | .look _, rest => flags.IsStrayBrace rest
  | _, _ => False

theorem Flags.readEscape?_letter (flags : Flags) {c : Char}
    (hc : c ≠ 'x' ∧ c ≠ 'u' ∧ c ≠ 'U' ∧ c ≠ 'b') :
    ∃ escape : Option Escape, ∀ s, flags.readEscape? (c :: s) = escape.map fun e => (e, s) := by
  obtain ⟨hx, hu, hU, hb⟩ := hc
  by_cases hsign : isEscapable c
  · exact ⟨some (.char c), fun s => by simp [readEscape?, hsign]⟩
  rcases hset : namedSet? c with _ | ranges
  · rcases hcontrol : controlEscape? c with _ | control
    · rcases hlook : lookEscape? c with _ | assertion
      · exact ⟨none, fun s => by simp [readEscape?, hsign, hset, hcontrol, hlook]⟩
      · exact ⟨some (.look assertion), fun s => by
          simp [readEscape?, hsign, hset, hcontrol, hlook]⟩
    · exact ⟨some (.char control), fun s => by
        simp [readEscape?, hsign, hset, hcontrol]⟩
  · exact ⟨some (.set ranges), fun s => by simp [readEscape?, hsign, hset]⟩

theorem Flags.localBut_readEscape?_cons (flags : Flags) (c : Char) :
    LocalBut flags.IsPendingEscape fun s => flags.readEscape? (c :: s) := by
  have hhex (count : Nat) := (flags.local_readHex? count).map (k := flags.ofCode)
  by_cases hx : c = 'x'
  · subst hx
    exact (hhex 2).localBut
  by_cases hu : c = 'u'
  · subst hu
    exact (hhex 4).localBut
  by_cases hU : c = 'U'
  · subst hU
    exact (hhex 8).localBut
  by_cases hb : c = 'b'
  · subst hb
    refine flags.localBut_readBoundary?.choose_of_pending
      (k := fun assertion => some (Escape.look assertion)) ?_
    rintro assertion _ rest hrest ⟨⟩
    exact hrest
  obtain ⟨escape, hescape⟩ := flags.readEscape?_letter ⟨hx, hu, hU, hb⟩
  simp only [hescape]
  cases escape with
  | none => exact local_none
  | some e => exact local_some e

theorem Flags.localBut_readEscape? (flags : Flags) :
    LocalBut flags.IsPendingEscape flags.readEscape? :=
  local_of_cons rfl flags.localBut_readEscape?_cons

/-! ### Classes -/

/-- Reads what closes the name of a set. -/
def closePosix? (negated : Bool) (name : List Char) : List Char → Option (Text.Ranges × List Char)
  | ':' :: ']' :: rest => do
    let ranges ← posixSet? name
    return (if negated then ranges.complement else ranges, rest)
  | _ => none

theorem local_readPosix? : Local readPosix? := by
  have hclosed (negated : Bool) (name : List Char) : Local (closePosix? negated name) := by
    refine local_branch [':', ']'] (by decide) (local_option_bind (posixSet? name) fun ranges =>
      local_some (if negated then ranges.complement else ranges)) local_none (fun _ => rfl)
      fun s hs => ?_
    unfold closePosix?
    split
    · next r => exact absurd ⟨r, rfl⟩ hs
    · rfl
  have hnamed (negated : Bool) := (local_span (· ≠ ':')).bind (hclosed negated)
  have hbehind : Local fun s => readPosix? (':' :: s) := by
    refine local_branch ['^'] (by decide) (hnamed true) (hnamed false) (fun _ => rfl)
      fun s hs => ?_
    rw [readPosix?]
    · rfl
    · rintro r rfl
      exact hs ⟨r, rfl⟩
  refine local_branch [':'] (by decide) hbehind local_none (fun _ => rfl) fun s hs => ?_
  rw [readPosix?]
  rintro r rfl
  exact hs ⟨r, rfl⟩

theorem Flags.local_readMember?_cons (flags : Flags) (c : Char) :
    Local fun s => flags.readMember? (c :: s) := by
  by_cases hc : c = '\\'
  · subst hc
    let member? : Escape → Option (Char ⊕ Text.Ranges)
      | .char c => some (.inl c)
      | .set ranges => some (.inr ranges)
      | .look _ => none
    have hmember (s : List Char) : flags.readMember? ('\\' :: s) = (do
        let (escape, rest) ← flags.readEscape? s
        let member ← member? escape
        return (member, rest)) := by
      rw [readMember?]
      rcases flags.readEscape? s with _ | ⟨_ | _ | _, rest⟩
      · rfl
      · rfl
      · rfl
      · rfl
    simp only [hmember]
    refine flags.localBut_readEscape?.choose_of_pending ?_
    rintro (c | ranges | assertion) member rest hrest hescape
    · exact hrest
    · exact hrest
    · cases hescape
  · have hother (s : List Char) : flags.readMember? (c :: s) = some (.inl c, s) := by
      rw [readMember?]
      exact hc
    simp only [hother]
    exact local_some (Sum.inl c)

theorem Flags.local_readMember? (flags : Flags) : Local flags.readMember? :=
  local_of_cons rfl flags.local_readMember?_cons

/-- The text behind blanks and the mark of a comment. -/
def lookAhead (s : List Char) : List Char :=
  match s.dropWhile Text.isBlank with
  | '#' :: rest => rest.dropWhile Text.isBlank
  | rest => rest

theorem lookAhead_append (s t : List Char) :
    lookAhead (s ++ ')' :: t) = lookAhead s ++ ')' :: t := by
  rw [lookAhead, lookAhead, dropWhile_isBlank_append]
  rcases s.dropWhile Text.isBlank with _ | ⟨c, rest⟩
  · rfl
  · by_cases hc : c = '#'
    · subst hc
      exact dropWhile_isBlank_append rest t
    · simp [hc]

theorem lookAhead_cons {c : Char} (hblank : Text.isBlank c = false) (hmark : c ≠ '#')
    (s : List Char) : lookAhead (c :: s) = c :: s := by
  have hdrop : (c :: s).dropWhile Text.isBlank = c :: s := by
    rw [List.dropWhile_cons, hblank]
    rfl
  rw [lookAhead, hdrop]
  split
  · next heq => exact absurd (List.cons.inj heq).1 hmark
  · rfl

theorem Flags.peek?_eq_some_iff (flags : Flags) {c : Char} (hblank : Text.isBlank c = false)
    (hmark : c ≠ '#') (s : List Char) : flags.peek? s = some c ↔
      (if flags.freeSpacing then lookAhead s else s).head? = some c := by
  rw [peek?]
  cases flags.freeSpacing with
  | false => rfl
  | true =>
    show (lookAhead s).head?.or s.head? = some c ↔ (lookAhead s).head? = some c
    rcases hahead : lookAhead s with _ | ⟨first, rest⟩
    · refine iff_of_false (fun hhead => ?_) nofun
      obtain ⟨s', rfl⟩ := List.head?_eq_some_iff.1 hhead
      rw [lookAhead_cons hblank hmark] at hahead
      cases hahead
    · rfl

/-- A look ahead for something else than a parenthesis does not see beyond one. -/
theorem Flags.peek?_append (flags : Flags) {c : Char} (hblank : Text.isBlank c = false)
    (hmark : c ≠ '#') (hc : c ≠ ')') (s t : List Char) :
    flags.peek? (s ++ ')' :: t) = some c ↔ flags.peek? s = some c := by
  have hhead (s : List Char) : (s ++ ')' :: t).head? = some c ↔ s.head? = some c := by
    cases s with
    | nil => simpa using hc.symm
    | cons first s => rfl
  rw [flags.peek?_eq_some_iff hblank hmark, flags.peek?_eq_some_iff hblank hmark, lookAhead_append]
  split_ifs
  · exact hhead (lookAhead s)
  · exact hhead s

/-- The set of a member that no hyphen joins to another. -/
def alone : Char ⊕ Text.Ranges → Text.Ranges
  | .inl c => Text.Ranges.single c
  | .inr ranges => ranges

/-- The set of two members with a hyphen between them. -/
def joined? : Char ⊕ Text.Ranges → Char ⊕ Text.Ranges → Option Text.Ranges
  | .inl a, .inl b => if a ≤ b then some [(a.toNat, b.toNat)] else none
  | _, _ => none

/-- Whether the text starts with a hyphen that joins two members. -/
def Flags.joins (flags : Flags) : List Char → Bool
  | '-' :: behind => flags.peek? behind ≠ some ']' && flags.peek? behind ≠ some '-'
  | _ => false

theorem Flags.joins_append (flags : Flags) (s t : List Char) :
    flags.joins (s ++ ')' :: t) = flags.joins s := by
  cases s with
  | nil => rfl
  | cons c s =>
    have hbracket := flags.peek?_append (c := ']') (by decide) (by decide) (by decide) s t
    have hhyphen := flags.peek?_append (c := '-') (by decide) (by decide) (by decide) s t
    by_cases hc : c = '-'
    · subst hc
      simp only [List.cons_append, joins, ne_eq, hbracket, hhyphen]
    · simp [joins, hc]

/-- Reads on behind the first member: the last one behind a hyphen, or nothing. -/
def Flags.readLast? (flags : Flags) (first : Char ⊕ Text.Ranges) (s : List Char) :
    Option (Text.Ranges × List Char) :=
  if s = [] then none
  else if flags.joins s then do
    let (last, rest) ← flags.readMember? (flags.skip (s.drop 1))
    let ranges ← joined? first last
    return (ranges, rest)
  else some (alone first, s)

theorem Flags.readRange?_eq (flags : Flags) (s : List Char) : flags.readRange? s = (do
    let (first, rest) ← flags.readMember? s
    flags.readLast? first (flags.skip rest)) := by
  rw [readRange?]
  rcases flags.readMember? s with _ | ⟨first, rest⟩
  · rfl
  simp only [Option.bind_eq_bind, Option.bind_some]
  rcases flags.skip rest with _ | ⟨c, behind⟩
  · rfl
  rw [readLast?, if_neg (List.cons_ne_nil _ _)]
  by_cases hc : c = '-'
  · subst hc
    by_cases hnext : flags.peek? behind = some ']' ∨ flags.peek? behind = some '-'
    · have hjoins : ¬ flags.joins ('-' :: behind) := by
        simpa [joins, imp_iff_not_or] using hnext
      rw [if_neg hjoins]
      refine (if_pos hnext).trans ?_
      cases first <;> rfl
    · have hjoins : flags.joins ('-' :: behind) := by
        simpa [joins] using hnext
      rw [if_pos hjoins]
      refine (if_neg hnext).trans ?_
      rw [List.drop_one, List.tail_cons]
      rcases flags.readMember? (flags.skip behind) with _ | ⟨last, rest⟩
      · rfl
      rcases first with a | _
      · rcases last with b | _
        · show (if a ≤ b then _ else none) = (if a ≤ b then _ else none : Option _).bind _
          split_ifs <;> rfl
        · rfl
      · rfl
  · have hjoins : ¬ flags.joins (c :: behind) := by
      simp [joins, hc]
    rw [if_neg hjoins]
    cases first <;> simp [hc, alone]

/-- A class that stops where its text does is refused, but a parenthesis there goes into it. -/
theorem Flags.localBut_readLast? (flags : Flags) (first : Char ⊕ Text.Ranges) :
    LocalBut (fun _ rest => rest = []) (flags.readLast? first) := by
  have hlast : Local (fun s => do
      let (last, rest) ← flags.readMember? (flags.skip (s.drop 1))
      let ranges ← joined? first last
      return (ranges, rest)) :=
    ((flags.local_readMember?.drop flags.drops_skip).drop (drops_drop 1)).choose
  have hend : LocalBut (fun _ rest => rest = []) fun s =>
      if s = [] then none else some (alone first, s) := by
    refine ⟨fun {s x rest} hs => ?_, fun {s t x u} hs => ?_⟩
    · split_ifs at hs
      cases hs
      exact List.suffix_refl _
    · rw [if_neg (by simp)] at hs
      cases hs
      by_cases hnil : s = []
      · exact .inr (.inr ⟨if_pos hnil, s, rfl, hnil⟩)
      · exact .inl ⟨s, if_neg hnil, rfl⟩
  refine local_cases (p := fun s => flags.joins s) (fun s t => by rw [joins_append]) hlast.localBut
    hend (fun s hjoins => ?_) fun s hjoins => ?_
  · have hnil : s ≠ [] := by
      rintro rfl
      cases hjoins
    rw [readLast?, if_neg hnil, if_pos hjoins]
  · rw [readLast?, if_neg hjoins]

theorem Flags.localBut_readRange?_cons (flags : Flags) (c : Char) :
    LocalBut (fun _ rest => rest = []) fun s => flags.readRange? (c :: s) := by
  simp only [readRange?_eq]
  exact (flags.local_readMember?_cons c).bind fun first =>
    (flags.localBut_readLast? first).drop flags.drops_skip

theorem Flags.localBut_readRange? (flags : Flags) :
    LocalBut (fun _ rest => rest = []) flags.readRange? :=
  local_of_cons rfl flags.localBut_readRange?_cons

theorem Flags.local_readMembers?_succ (flags : Flags) {turns : Nat}
    (ih : ∀ ranges, Local (flags.readMembers? turns ranges))
    (hpending : ∀ {ranges t all u},
      flags.readMembers? turns ranges (')' :: t) = some (all, u) → u <:+ t)
    (ranges : Text.Ranges) : Local (flags.readMembers? (turns + 1) ranges) := by
  have hmember := flags.localBut_readRange?.bind_of_pending
    (fun range => ih (ranges ++ range)) (by
      rintro range _ t all u rfl hall
      exact hpending hall)
  refine local_of_words flags.drops_skip [[']'], ['['], ['&', '&'], ['-', '-'], ['~', '~']]
    (by decide) ?_ hmember ?_
  · simp only [List.forall_mem_cons]
    refine ⟨⟨_, local_some ranges, fun s r hs => ?_⟩,
      ⟨_, local_readPosix?.bind fun named => ih (ranges ++ named), fun s r hs => ?_⟩,
      ⟨_, local_none, fun s r hs => ?_⟩, ⟨_, local_none, fun s r hs => ?_⟩,
      ⟨_, local_none, fun s r hs => ?_⟩, nofun⟩
    all_goals
      rw [readMembers?, hs]
      rfl
  · intro s hs
    simp only [List.forall_mem_cons] at hs
    obtain ⟨hbracket, hposix, hand, hminus, htilde, -⟩ := hs
    rw [readMembers?]
    split
    · next heq =>
      rw [heq]
      rfl
    · next r heq => exact absurd ⟨r, heq.symm⟩ hbracket
    · next r heq => exact absurd ⟨r, heq.symm⟩ hposix
    · next r heq => exact absurd ⟨r, heq.symm⟩ hand
    · next r heq => exact absurd ⟨r, heq.symm⟩ hminus
    · next r heq => exact absurd ⟨r, heq.symm⟩ htilde
    · rfl

/-- Where the text of a class stops, the parenthesis behind it becomes the next member. -/
theorem Flags.local_readMembers? (flags : Flags) (turns : Nat) :
    (∀ ranges, Local (flags.readMembers? turns ranges)) ∧ ∀ {ranges t all u},
      flags.readMembers? turns ranges (')' :: t) = some (all, u) → u <:+ t := by
  induction turns with
  | zero => exact ⟨fun _ => local_none, nofun⟩
  | succ turns ih =>
    obtain ⟨ih, hpending⟩ := ih
    refine ⟨flags.local_readMembers?_succ ih hpending, fun {ranges t all u} h => ?_⟩
    rw [readMembers?, flags.skip_cons isBlank_parenthesis (by decide)] at h
    obtain ⟨⟨range, rest⟩, hrange, hall⟩ := Option.bind_eq_some_iff.1 h
    exact ((ih _).suffix hall).trans ((flags.localBut_readRange?_cons ')').suffix hrange)

/-- As many turns as there are characters are enough. -/
theorem Flags.readMembers?_of_length_le (flags : Flags) {turns turns' : Nat}
    {ranges all : Text.Ranges} {s rest : List Char}
    (h : flags.readMembers? turns ranges s = some (all, rest)) (hle : s.length ≤ turns') :
    flags.readMembers? turns' ranges s = some (all, rest) := by
  induction turns generalizing turns' ranges s with
  | zero => cases h
  | succ turns ih =>
    have hskip := (flags.drops_skip.suffix s).length_le
    obtain _ | turns' := turns'
    · obtain rfl := List.length_eq_zero_iff.1 (Nat.le_zero.1 hle)
      rw [readMembers?, List.suffix_nil.1 (flags.drops_skip.suffix [])] at h
      cases h
    rw [readMembers?] at h ⊢
    split at h
    · cases h
    · exact h
    · next r heq =>
      obtain ⟨⟨named, between⟩, hposix, hall⟩ := Option.bind_eq_some_iff.1 h
      have hlength := (local_readPosix?.suffix hposix).length_le
      refine Option.bind_eq_some_iff.2 ⟨⟨named, between⟩, hposix, ih hall ?_⟩
      rw [heq, List.length_cons] at hskip
      omega
    · cases h
    · cases h
    · cases h
    · obtain ⟨⟨range, between⟩, hrange, hall⟩ := Option.bind_eq_some_iff.1 h
      refine Option.bind_eq_some_iff.2 ⟨⟨range, between⟩, hrange, ih hall ?_⟩
      have hnone : flags.readRange? [] = none := rfl
      rcases heq : flags.skip s with _ | ⟨c, r⟩
      · rw [heq, hnone] at hrange
        cases hrange
      · rw [heq] at hrange hskip
        have hlength := ((flags.localBut_readRange?_cons c).suffix hrange).length_le
        rw [List.length_cons] at hskip
        omega

theorem Flags.local_readMembers?_length (flags : Flags) (ranges : Text.Ranges) :
    Local fun s => flags.readMembers? s.length ranges s where
  suffix hs := ((flags.local_readMembers? _).1 ranges).suffix hs
  split {s t all u} hs := by
    have hlocal := (flags.local_readMembers? (s ++ ')' :: t).length).1 ranges
    rcases hlocal.split hs with ⟨rest, halone, hu⟩ | hbeyond | hfalse
    · exact .inl ⟨rest, flags.readMembers?_of_length_le halone le_rfl, hu⟩
    · exact .inr (.inl hbeyond)
    · obtain ⟨-, _, -, hfalse⟩ := hfalse
      exact hfalse.elim

/-- Reads the members of a class behind its first hyphens. -/
def Flags.readBehindHyphens? (flags : Flags) (negated : Bool) (hyphens s : List Char) :
    Option (Regex × List Char) := do
  let (start, s) := match hyphens, s with
    | [], ']' :: s => (Text.Ranges.single ']', flags.skip s)
    | _, s => (hyphens.flatMap Text.Ranges.single, s)
  let (ranges, rest) ← flags.readMembers? s.length start s
  let ranges := if flags.ignoreCase then ranges.foldCase else ranges.normalize
  return (set (if negated then ranges.complement else ranges), rest)

theorem Flags.local_readClass? (flags : Flags) : Local flags.readClass? := by
  have hmembers (negated : Bool) (start : Text.Ranges) :=
    (flags.local_readMembers?_length start).map (k := fun ranges =>
      let ranges := if flags.ignoreCase then ranges.foldCase else ranges.normalize
      set (if negated then ranges.complement else ranges))
  have hstart (negated : Bool) (hyphens : List Char) :
      Local (flags.readBehindHyphens? negated hyphens) := by
    cases hyphens with
    | cons c hyphens => exact hmembers negated ((c :: hyphens).flatMap Text.Ranges.single)
    | nil =>
      refine local_branch [']'] (by decide)
        ((hmembers negated (Text.Ranges.single ']')).drop flags.drops_skip)
        (hmembers negated []) (fun _ => rfl) fun s hs => ?_
      rcases s with _ | ⟨c, s⟩
      · rfl
      · have hc : c ≠ ']' := by
          rintro rfl
          exact hs ⟨s, rfl⟩
        simp [readBehindHyphens?, hc]
  have hsigned (negated : Bool) := (flags.local_takeWhile (· = '-')).bind (hstart negated)
  refine local_of_word flags.drops_skip ['^'] (by decide) ((hsigned true).drop flags.drops_skip)
    (hsigned false) ?_ ?_
  · intro s r hs
    rw [readClass?, hs]
    rfl
  · intro s hs
    rw [readClass?]
    split
    next negated rest heq =>
    split at heq
    · next r hr => exact absurd ⟨r, hr.symm⟩ hs
    · obtain ⟨rfl, rfl⟩ := Prod.mk.inj heq
      rfl

end OpenSound.Regex
