import OpenSound.Proofs.Locality

/-!
# Constructs in front of a parenthesis

Counts, flags, names and the start of a group are local as well, and with them each construct of an
expression (`Reading.localBut_step?`).  Flags end at a parenthesis, and the reader looks whether
another one follows; in both cases it goes beyond the parenthesis.
-/

namespace OpenSound.Regex

variable {flags : Flags}

/-! ### Repetitions -/

theorem Flags.local_readCount? (flags : Flags) : Local flags.readCount? := by
  have hcount (digits : List Char) : Local (fun rest =>
      let count := digits.foldl (fun n c => n * 10 + (c.toNat - '0'.toNat)) 0
      if digits.isEmpty || greatestCount < count then none
      else some (count, flags.skip (rest.dropWhile Text.isBlank))) := by
    dsimp only
    split_ifs
    · exact local_none
    · exact (flags.drops_skip.comp drops_dropWhile_isBlank).local_some _
  exact ((flags.local_takeWhile Char.isDigit).drop drops_dropWhile_isBlank).bind hcount

/-- Reads the greatest count behind the least. -/
def Flags.readMost? (flags : Flags) (least : Nat) (s : List Char) :
    Option (Option Nat × List Char) :=
  match s with
  | ',' :: s => match flags.skip s with
    | '\x7d' :: s => some (none, '\x7d' :: s)
    | s => do
      let (most, s) ← flags.readCount? s
      return (some most, s)
  | s => some (some least, s)

theorem Flags.local_readMost? (flags : Flags) (least : Nat) : Local (flags.readMost? least) := by
  have hmost := flags.local_readCount?.map (k := some)
  have hbrace : Local (fun s => match s with
      | '\x7d' :: s => some (none, '\x7d' :: s)
      | s => do
        let (most, s) ← flags.readCount? s
        return (some most, s)) := by
    refine local_cases (p := fun s => ['\x7d'] <+: s) (prefix_append_parenthesis (by decide))
      (local_some none) hmost ?_ ?_
    · rintro _ ⟨s, rfl⟩
      rfl
    · intro s hs
      split
      · next r => exact absurd ⟨r, rfl⟩ hs
      · rfl
  refine local_branch [','] (by decide) (hbrace.drop flags.drops_skip) (local_some (some least))
    (fun _ => rfl) fun s hs => ?_
  unfold readMost?
  split
  · next r => exact absurd ⟨r, rfl⟩ hs
  · rfl

/-- Goes on behind the brace that closes the counts. -/
def Flags.closeCounts? (flags : Flags) (least : Nat) (most : Option Nat) :
    List Char → Option (Nat × Option Nat × List Char)
  | '\x7d' :: s =>
    if most.any (· < least) then none else return (least, most, dropLazy (flags.skip s))
  | _ => none

theorem Flags.local_closeCounts? (flags : Flags) (least : Nat) (most : Option Nat) :
    Local (fun s => do
      let (least, most, rest) ← flags.closeCounts? least most s
      return ((least, most), rest)) := by
  have hbehind : Local (fun s => if most.any (· < least) then none
      else some ((least, most), dropLazy (flags.skip s))) := by
    split_ifs
    · exact local_none
    · exact (drops_dropLazy.comp flags.drops_skip).local_some (least, most)
  refine local_branch ['\x7d'] (by decide) hbehind local_none (fun s => ?_) fun s hs => ?_
  · rw [List.singleton_append, closeCounts?]
    split_ifs
    · rfl
    · rfl
  · have hnone : flags.closeCounts? least most s = none := by
      unfold closeCounts?
      split
      · next r => exact absurd ⟨r, rfl⟩ hs
      · rfl
    rw [hnone]
    rfl

theorem Flags.local_readCounts? (flags : Flags) : Local (fun s => do
    let (least, most, rest) ← flags.readCounts? s
    return ((least, most), rest)) := by
  have hcounts := (flags.local_readCount?.drop flags.drops_skip).bind fun least =>
    (flags.local_readMost? least).bind (flags.local_closeCounts? least)
  have heq (s : List Char) : flags.readCounts? s = (do
      let least ← flags.readCount? (flags.skip s)
      let most ← flags.readMost? least.1 least.2
      flags.closeCounts? least.1 most.1 most.2) := rfl
  refine hcounts.congr fun s => ?_
  rw [heq]
  rcases flags.readCount? (flags.skip s) with _ | ⟨least, rest⟩
  · rfl
  simp only [Option.bind_eq_bind, Option.bind_some]
  rcases flags.readMost? least rest with _ | ⟨most, rest⟩
  · rfl
  · rfl

/-! ### Groups -/

theorem Flags.read?_suffix {clearing dangling : Bool} {seen s rest : List Char} {read : Flags}
    {isGroup : Bool} (h : flags.read? clearing dangling seen s = some (read, isGroup, rest)) :
    rest <:+ s := by
  induction s generalizing flags clearing dangling seen with
  | nil => cases h
  | cons c s ih =>
    refine List.IsSuffix.trans ?_ (List.suffix_cons c s)
    rw [read?] at h
    split_ifs at h
    · cases h
      exact List.suffix_refl _
    · exact ih h
    · obtain ⟨set, -, h⟩ := Option.bind_eq_some_iff.1 h
      exact ih h

theorem Flags.read?_split {clearing dangling : Bool} {seen s t u : List Char} {read : Flags}
    {isGroup : Bool}
    (h : flags.read? clearing dangling seen (s ++ ')' :: t) = some (read, isGroup, u)) :
    (∃ rest, flags.read? clearing dangling seen s = some (read, isGroup, rest) ∧
      u = rest ++ ')' :: t) ∨ u <:+ t := by
  induction s generalizing flags clearing dangling seen with
  | nil =>
    rw [List.nil_append, read?, if_pos (.inr rfl)] at h
    split_ifs at h
    cases h
    exact .inr (List.suffix_refl _)
  | cons c s ih =>
    rw [List.cons_append, read?] at h
    rw [read?]
    split_ifs at h ⊢
    · cases h
      exact .inl ⟨s, rfl, rfl⟩
    · exact ih h
    · obtain ⟨set, hset, h⟩ := Option.bind_eq_some_iff.1 h
      rw [hset]
      exact ih h

theorem Flags.local_read? (flags : Flags) : Local (fun s => do
    let (read, isGroup, rest) ← flags.read? false false [] s
    return ((read, isGroup), rest)) where
  suffix {s x rest} h := by
    obtain ⟨⟨read, isGroup, rest⟩, hread, ⟨⟩⟩ := Option.bind_eq_some_iff.1 h
    exact read?_suffix hread
  split {s t x u} h := by
    obtain ⟨⟨read, isGroup, u⟩, hread, ⟨⟩⟩ := Option.bind_eq_some_iff.1 h
    rcases read?_split hread with ⟨rest, halone, rfl⟩ | hbeyond
    · refine .inl ⟨rest, ?_, rfl⟩
      rw [halone]
      rfl
    · exact .inr (.inl hbeyond)

/-- Goes on behind the angle bracket that closes a name. -/
def closeName? (name : List Char) : List Char → Option (List Char × List Char)
  | [] => none
  | _ :: rest => match name with
    | [] => none
    | first :: others =>
      if (first = '_' || Text.isLetter first) && others.all fun c =>
          c = '_' || c = '.' || c = '[' || c = ']' || Text.isLetterOrDigit c then
        some (name, rest)
      else none

theorem local_readName? : Local readName? := by
  have hname (name : List Char) : Local (closeName? name) := by
    refine local_of_cons rfl fun _ => ?_
    rcases name with _ | ⟨first, others⟩
    · exact local_none
    · dsimp only [closeName?]
      split_ifs
      · exact local_some (first :: others)
      · exact local_none
  exact (local_span (· ≠ '>')).bind hname

namespace Reading

theorem local_enterNamed? (r : Reading) : Local r.enterNamed? := by
  have hname := local_readName?.choose (k := fun chars =>
    if r.captures.any (·.name = some (String.ofList chars)) then none
    else r.enterCapture? (some (String.ofList chars)))
  refine hname.congr fun s => ?_
  rw [enterNamed?]
  rcases readName? s with _ | ⟨chars, rest⟩
  · rfl
  simp only [Option.bind_eq_bind, Option.bind_some]
  split_ifs
  · rfl
  · rfl

/-- A scanner that refuses a parenthesis in front need only be looked at where there is none. -/
theorem local_of_not_parenthesis {α : Type} {f f' : List Char → Option (α × List Char)}
    (h : Local f') (hparenthesis : ∀ s, f (')' :: s) = none)
    (hother : ∀ s, s.head? ≠ some ')' → f s = f' s) : Local f where
  suffix {s x rest} hs := by
    by_cases hhead : s.head? = some ')'
    · obtain ⟨s, rfl⟩ := List.head?_eq_some_iff.1 hhead
      rw [hparenthesis] at hs
      cases hs
    · rw [hother s hhead] at hs
      exact h.suffix hs
  split {s t x u} hs := by
    rcases s with _ | ⟨c, s⟩
    · rw [List.nil_append, hparenthesis] at hs
      cases hs
    by_cases hc : c = ')'
    · subst hc
      rw [List.cons_append, hparenthesis] at hs
      cases hs
    · rw [hother _ (by simpa using hc)] at hs
      rw [hother _ (by simpa using hc)]
      exact h.split hs

/-- Flags in front of a group, or for the rest of the group around. -/
theorem local_group?_flags (r : Reading) : Local (fun s => do
    let (flags, isGroup, rest) ← r.flags.read? false false [] s
    if isGroup then
      let r ← r.enter? none flags
      return (r, rest)
    else if s.head? = some ')' then none
    else return ({ r with flags }, rest)) := by
  have hread := r.flags.local_read?.choose (k := fun (flags, isGroup) =>
    if isGroup then r.enter? none flags else some { r with flags })
  refine local_of_not_parenthesis hread (fun s => ?_) fun s hs => ?_
  · simp [Flags.read?]
  · rcases r.flags.read? false false [] s with _ | ⟨flags, isGroup, rest⟩
    · rfl
    simp only [Option.bind_eq_bind, Option.bind_some, pure, if_neg hs]
    split_ifs
    · rfl
    · rfl

/-- Reads what follows an opening angle bracket: the name of a group, unless one asks for a look
behind. -/
def groupBehindAngle? (r : Reading) : List Char → Option (Reading × List Char)
  | '=' :: _ => none
  | '!' :: _ => none
  | s => r.enterNamed? s

theorem local_group? (r : Reading) : Local r.group? := by
  have hangle : Local r.groupBehindAngle? := by
    refine local_of_words drops_id [['='], ['!']] (by decide) ?_ r.local_enterNamed? ?_
    · simp only [List.forall_mem_cons]
      refine ⟨⟨_, local_none, ?_⟩, ⟨_, local_none, ?_⟩, nofun⟩
      · rintro _ s rfl
        rfl
      · rintro _ s rfl
        rfl
    · intro s hs
      simp only [List.forall_mem_cons] at hs
      unfold groupBehindAngle?
      split
      · next s => exact absurd ⟨s, rfl⟩ hs.1
      · next s => exact absurd ⟨s, rfl⟩ hs.2.1
      · rfl
  have hquestion (s : List Char) : r.flags.skip ('?' :: s) = '?' :: s :=
    r.flags.skip_cons (by decide) (by decide) s
  have hbehind : Local fun s => r.group? ('?' :: s) := by
    refine local_of_words drops_id [['='], ['!'], ['<'], ['P', '<']] (by decide) ?_
      r.local_group?_flags ?_
    · simp only [List.forall_mem_cons]
      refine ⟨⟨_, local_none, ?_⟩, ⟨_, local_none, ?_⟩, ⟨_, hangle, ?_⟩,
        ⟨_, r.local_enterNamed?, ?_⟩, nofun⟩
      · rintro _ s rfl
        rw [group?, hquestion]
        rfl
      · rintro _ s rfl
        rw [group?, hquestion]
        rfl
      · rintro _ s rfl
        rw [group?, hquestion]
        rcases s with _ | ⟨c, s⟩
        · rfl
        by_cases hequal : c = '='
        · subst hequal
          rfl
        by_cases hbang : c = '!'
        · subst hbang
          rfl
        simp [groupBehindAngle?, hequal, hbang]
      · rintro _ s rfl
        rw [group?, hquestion]
        rfl
    · intro s hs
      simp only [List.forall_mem_cons] at hs
      obtain ⟨hequal, hbang, hangle, hname, -⟩ := hs
      rw [group?, hquestion]
      split
      · next heq => exact absurd ⟨_, (List.cons.inj heq).2.symm⟩ hequal
      · next heq => exact absurd ⟨_, (List.cons.inj heq).2.symm⟩ hbang
      · next heq => exact absurd ⟨_, (List.cons.inj heq).2.symm⟩ hangle
      · next heq => exact absurd ⟨_, (List.cons.inj heq).2.symm⟩ hangle
      · next heq => exact absurd ⟨_, (List.cons.inj heq).2.symm⟩ hname
      · next heq => exact absurd ⟨_, (List.cons.inj heq).2.symm⟩ hangle
      · next heq =>
        obtain rfl := (List.cons.inj heq).2
        rfl
      · next hother => exact absurd rfl (hother s)
  have hcapture : Local (fun s => do
      let r ← r.enterCapture? none
      return (r, s)) :=
    local_option_bind (r.enterCapture? none) local_some
  refine local_of_word r.flags.drops_skip ['?'] (by decide) hbehind hcapture ?_ ?_
  · intro s t hs
    rw [group?, group?, hs, hquestion]
    rfl
  · intro s hs
    rw [group?]
    rcases heq : r.flags.skip s with _ | ⟨c, t⟩
    · rfl
    · have hc : c ≠ '?' := by
        rintro rfl
        exact hs ⟨t, heq.symm⟩
      simp [hc]

/-! ### The step -/

theorem localBut_step?_escape (r : Reading) : LocalBut (fun (r' : Reading) => r'.flags.IsStrayBrace)
    (r.step? '\\') := by
  let part : Escape → Regex
    | .char c => r.flags.char c
    | .set ranges => .set ranges
    | .look assertion => .look assertion
  have hescape : LocalBut (fun (r' : Reading) => r'.flags.IsStrayBrace) (fun s => do
      let (escape, rest) ← r.flags.readEscape? s
      let r' ← some (r.push (part escape))
      return (r', rest)) := by
    refine r.flags.localBut_readEscape?.choose_of_pending
      (k := fun escape => some (r.push (part escape))) ?_
    rintro (c | ranges | assertion) _ rest hrest ⟨⟩
    · exact hrest.elim
    · exact hrest.elim
    · exact hrest
  refine hescape.congr fun s => ?_
  rw [step?]
  rcases r.flags.readEscape? s with _ | ⟨_ | _ | _, rest⟩
  · rfl
  · rfl
  · rfl
  · rfl

/-- Each construct is local, but for a brace that may be left behind `\b` and is refused at the end
of a text. -/
theorem localBut_step? (r : Reading) (c : Char) :
    LocalBut (fun (r' : Reading) => r'.flags.IsStrayBrace) (r.step? c) := by
  have hrepeat (least : Nat) (most : Option Nat) :
      LocalBut (fun (r' : Reading) => r'.flags.IsStrayBrace) (fun s => do
        let r' ← r.repeat? least most
        return (r', dropLazy s)) :=
    local_option_bind (r.repeat? least most) fun r' => drops_dropLazy.local_some r'
  by_cases hopen : c = '('
  · subst hopen
    exact r.local_group?.localBut
  by_cases hclose : c = ')'
  · subst hclose
    exact local_option_bind r.leave? local_some
  by_cases hbar : c = '|'
  · subst hbar
    exact local_some _
  by_cases hclass : c = '['
  · subst hclass
    exact (r.flags.local_readClass?.map (k := r.push)).localBut
  by_cases hquestion : c = '?'
  · subst hquestion
    exact hrepeat 0 (some 1)
  by_cases hstar : c = '*'
  · subst hstar
    exact hrepeat 0 none
  by_cases hplus : c = '+'
  · subst hplus
    exact hrepeat 1 none
  by_cases hbrace : c = '\x7b'
  · subst hbrace
    have hcounts := r.flags.local_readCounts?.choose
      (k := fun (least, most) => r.repeat? least most)
    refine hcounts.localBut.congr fun s => ?_
    rw [step?]
    rcases r.flags.readCounts? s with _ | ⟨least, most, rest⟩
    · rfl
    · rfl
  by_cases hescape : c = '\\'
  · subst hescape
    exact r.localBut_step?_escape
  by_cases hdot : c = '.'
  · subst hdot
    exact local_some _
  by_cases hcaret : c = '^'
  · subst hcaret
    exact local_some _
  by_cases hdollar : c = '$'
  · subst hdollar
    exact local_some _
  have hother (s : List Char) : r.step? c s = some (r.push (r.flags.char c), s) := by
    rw [step?]
    all_goals assumption
  exact (local_some _).congr fun s => (hother s).symm

end Reading

end OpenSound.Regex
