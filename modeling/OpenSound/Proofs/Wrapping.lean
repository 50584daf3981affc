import OpenSound.Proofs.Constructs

/-!
# A source inside a group

When the source of an expression is put into a group, it is read as if the group were not there, up
to the parenthesis at which no other group is open (`Reading.step?_inside`).  Nobody says that this
is the parenthesis behind the source: it may be one of the source.  So the group comes to hold what
reads as an expression in front of some parenthesis (`Closes.run?_eq`).  If that parenthesis is one
of the source, the source is no expression by itself (`Closes.run?_eq_none`).
-/

namespace OpenSound.Regex.Reading

variable {r r' R : Reading} {g : Group} {c : Char} {s t rest : List Char}

/-! ### The stack of groups -/

/-- The reading as it goes on inside a further group. -/
def inside (r : Reading) (g : Group) : Reading := { r with outer := r.outer ++ [g] }

/-- What the further group is left with when it is closed. -/
def leaveLast (r : Reading) (g : Group) : Reading :=
  { r with group := g.push r.group.close, outer := [], flags := r.group.outerFlags }

/-- The flags in front of the outermost group. -/
def bottomFlags (r : Reading) : Flags := (r.outer.getLast?.getD r.group).outerFlags

theorem bottomFlags_eq (houter : r'.outer = r.outer)
    (hgroup : r'.group.outerFlags = r.group.outerFlags) : r'.bottomFlags = r.bottomFlags := by
  rw [bottomFlags, bottomFlags, houter]
  cases r.outer.getLast? with
  | none => exact hgroup
  | some bottom => rfl

/-- The step `f` without the group leads from `r` to the reading that `R` is inside the group, with
the same flags at the bottom. -/
def IsInside (g : Group) (r : Reading) (f : Option (Reading × List Char)) (R : Reading)
    (rest : List Char) : Prop :=
  ∃ r', f = some (r', rest) ∧ r'.bottomFlags = r.bottomFlags ∧ R = r'.inside g

theorem enter?_inside {capture : Option Capture} {flags : Flags}
    (h : (r.inside g).enter? capture flags = some R) :
    ∃ r', r.enter? capture flags = some r' ∧ r'.bottomFlags = r.bottomFlags ∧ R = r'.inside g := by
  unfold enter? at h ⊢
  split_ifs at h with hdeep
  cases h
  rw [inside, List.length_append] at hdeep
  rw [if_neg fun hle => hdeep (Nat.le_add_right_of_le hle)]
  refine ⟨_, rfl, ?_, rfl⟩
  rw [bottomFlags, bottomFlags, List.getLast?_cons]
  rfl

theorem enterCapture?_inside {name : Option String}
    (h : (r.inside g).enterCapture? name = some R) : ∃ r',
      r.enterCapture? name = some r' ∧ r'.bottomFlags = r.bottomFlags ∧ R = r'.inside g :=
  enter?_inside (r := { r with captures := _ :: r.captures }) h

theorem enterNamed?_inside (h : (r.inside g).enterNamed? s = some (R, rest)) :
    IsInside g r (r.enterNamed? s) R rest := by
  have hcaptures : (r.inside g).captures = r.captures := rfl
  rw [enterNamed?, hcaptures] at h
  obtain ⟨⟨chars, behind⟩, hname, h⟩ := Option.bind_eq_some_iff.1 h
  dsimp only at h
  split_ifs at h with hany
  obtain ⟨R, henter, ⟨⟩⟩ := Option.bind_eq_some_iff.1 h
  obtain ⟨r', hr', hinside⟩ := enterCapture?_inside henter
  refine ⟨r', ?_, hinside⟩
  rw [enterNamed?, hname]
  simp only [Option.bind_eq_bind, Option.bind_some, if_neg hany, hr']
  rfl

theorem group?_inside (h : (r.inside g).group? s = some (R, rest)) :
    IsInside g r (r.group? s) R rest := by
  have hflags : (r.inside g).flags = r.flags := rfl
  rw [group?, hflags] at h
  rw [group?]
  split at h
  · cases h
  · cases h
  · cases h
  · cases h
  · exact enterNamed?_inside h
  · exact enterNamed?_inside h
  · obtain ⟨⟨flags, isGroup, behind⟩, hread, h⟩ := Option.bind_eq_some_iff.1 h
    dsimp only at h
    rw [hread, Option.bind_eq_bind, Option.bind_some]
    dsimp only
    split_ifs at h ⊢
    · obtain ⟨R, henter, ⟨⟩⟩ := Option.bind_eq_some_iff.1 h
      obtain ⟨r', hr', hinside⟩ := enter?_inside henter
      refine ⟨r', ?_, hinside⟩
      rw [hr']
      rfl
    · cases h
      exact ⟨_, rfl, rfl, rfl⟩
  · obtain ⟨R, henter, ⟨⟩⟩ := Option.bind_eq_some_iff.1 h
    obtain ⟨r', hr', hinside⟩ := enterCapture?_inside henter
    refine ⟨r', ?_, hinside⟩
    rw [hr']
    rfl

theorem leave?_inside (h : (r.inside g).leave? = some R) :
    (∃ r', r.leave? = some r' ∧ r'.bottomFlags = r.bottomFlags ∧ R = r'.inside g) ∨
      r.outer = [] ∧ R = r.leaveLast g := by
  obtain ⟨group, _ | ⟨around, outer⟩, flags, captures⟩ := r
  · cases h
    exact .inr ⟨rfl, rfl⟩
  · cases h
    refine .inl ⟨_, rfl, ?_, rfl⟩
    rw [bottomFlags, bottomFlags, List.getLast?_cons]
    cases outer.getLast? <;> rfl

theorem repeat?_inside {least : Nat} {most : Option Nat}
    (h : (do return (← (r.inside g).repeat? least most, s)) = some (R, rest)) :
    IsInside g r (do return (← r.repeat? least most, s)) R rest := by
  obtain ⟨R, hrepeated, ⟨⟩⟩ := Option.bind_eq_some_iff.1 h
  obtain ⟨group, hgroup, ⟨⟩⟩ := Option.bind_eq_some_iff.1 hrepeated
  have hgroup : r.group.repeat? least most = some group := hgroup
  have hflags : group.outerFlags = r.group.outerFlags := by
    unfold Group.repeat? at hgroup
    split at hgroup
    · cases hgroup
    · cases hgroup
      rfl
  refine ⟨{ r with group }, ?_, bottomFlags_eq rfl hflags, rfl⟩
  rw [repeat?, hgroup]
  rfl

theorem push_inside (part : Regex) :
    IsInside g r (some (r.push part, s)) ((r.inside g).push part) s :=
  ⟨_, rfl, bottomFlags_eq rfl rfl, rfl⟩

/-- A step inside a further group is the step without it, until a parenthesis closes that group. -/
theorem step?_inside (h : (r.inside g).step? c s = some (R, rest)) :
    IsInside g r (r.step? c s) R rest ∨
      c = ')' ∧ r.outer = [] ∧ R = r.leaveLast g ∧ rest = s := by
  have hflags : (r.inside g).flags = r.flags := rfl
  unfold step? at h
  rw [hflags] at h
  split at h
  · exact .inl (group?_inside h)
  · obtain ⟨R, hleave, ⟨⟩⟩ := Option.bind_eq_some_iff.1 h
    rcases leave?_inside hleave with ⟨r', hr', hinside⟩ | ⟨houter, rfl⟩
    · refine .inl ⟨r', ?_, hinside⟩
      rw [step?, hr']
      rfl
    · exact .inr ⟨rfl, houter, rfl, rfl⟩
  · cases h
    exact .inl ⟨_, rfl, bottomFlags_eq rfl rfl, rfl⟩
  · obtain ⟨⟨part, behind⟩, hclass, ⟨⟩⟩ := Option.bind_eq_some_iff.1 h
    rw [step?, hclass]
    exact .inl (push_inside part)
  · exact .inl (repeat?_inside h)
  · exact .inl (repeat?_inside h)
  · exact .inl (repeat?_inside h)
  · obtain ⟨⟨least, most, behind⟩, hcounts, h⟩ := Option.bind_eq_some_iff.1 h
    rw [step?, hcounts]
    exact .inl (repeat?_inside h)
  · obtain ⟨⟨escape, behind⟩, hescape, h⟩ := Option.bind_eq_some_iff.1 h
    rw [step?, hescape]
    rcases escape with _ | _ | _
    · cases h
      exact .inl (push_inside _)
    · cases h
      exact .inl (push_inside _)
    · cases h
      exact .inl (push_inside _)
  · cases h
    exact .inl (push_inside _)
  · cases h
    exact .inl (push_inside _)
  · cases h
    exact .inl (push_inside _)
  · cases h
    have hother : r.step? c s = some (r.push (r.flags.char c), s) := by
      rw [step?]
      all_goals assumption
    rw [hother]
    exact .inl (push_inside _)

/-! ### Where the group is closed -/

/-- Reading on from `r` in the text `u` comes to a parenthesis with no group open.  By then the
reading is `last`, and the text `t` is left behind the parenthesis. -/
inductive Closes : Reading → List Char → Reading → List Char → Prop where
  | here {r : Reading} {u t : List Char} (houter : r.outer = [])
      (hskip : r.flags.skip u = ')' :: t) : Closes r u r t
  | step {r r' last : Reading} {u s rest t : List Char} {c : Char}
      (hskip : r.flags.skip u = c :: s) (hstep : r.step? c s = some (r', rest))
      (hcloses : Closes r' rest last t) : Closes r u last t

variable {u : List Char} {last : Reading} {turns : Nat} {x : Regex}

theorem run?_of_skip_eq_cons (hskip : r.flags.skip u = c :: s) :
    run? (turns + 1) r u = (do
      let (r, rest) ← r.step? c s
      run? turns r rest) := by
  rw [run?, hskip]

theorem run?_of_skip_eq_nil (hskip : r.flags.skip u = []) :
    run? (turns + 1) r u = if r.outer.isEmpty then some r.group.close else none := by
  rw [run?, hskip]

/-- A text that is read to its end inside a further group closes that group somewhere. -/
theorem exists_closes_of_run? (h : run? turns (r.inside g) u = some x) :
    ∃ last t turns', Closes r u last t ∧ last.bottomFlags = r.bottomFlags ∧ last.outer = [] ∧
      run? turns' (last.leaveLast g) t = some x := by
  induction turns generalizing r u with
  | zero => cases h
  | succ turns ih =>
    rcases hskip : r.flags.skip u with _ | ⟨c, s⟩
    · rw [run?_of_skip_eq_nil (r := r.inside g) hskip] at h
      simp [inside] at h
    · rw [run?_of_skip_eq_cons (r := r.inside g) hskip] at h
      obtain ⟨⟨R, rest⟩, hstep, hrun⟩ := Option.bind_eq_some_iff.1 h
      rcases step?_inside hstep with ⟨r', hr', hflags, rfl⟩ | ⟨rfl, houter, rfl, rfl⟩
      · obtain ⟨last, t, turns', hcloses, hbottom, hlast⟩ := ih hrun
        exact ⟨last, t, turns', .step hskip hr' hcloses, hbottom.trans hflags, hlast⟩
      · exact ⟨r, rest, turns, .here houter hskip, rfl, houter, hrun⟩

theorem length_lt_of_skip (hskip : r.flags.skip u = c :: s) : s.length < u.length := by
  have hlength := (r.flags.drops_skip.suffix u).length_le
  rw [hskip, List.length_cons] at hlength
  exact hlength

theorem not_suffix_of_length_lt {s t : List Char} (h : t.length < s.length) : ¬ s <:+ t :=
  fun hsuffix => absurd hsuffix.length_le (Nat.not_le.2 h)

theorem length_step?_le (h : r.step? c s = some (r', rest)) : rest.length ≤ s.length :=
  ((r.localBut_step? c).suffix h).length_le

/-- As many turns as there are characters, and one for the end, are enough. -/
theorem run?_of_length_lt {turns' : Nat} (h : run? turns r u = some x) (hlt : u.length < turns') :
    run? turns' r u = some x := by
  induction turns generalizing turns' r u with
  | zero => cases h
  | succ turns ih =>
    obtain _ | turns' := turns'
    · exact absurd hlt (Nat.not_lt_zero _)
    rcases hskip : r.flags.skip u with _ | ⟨c, s⟩
    · rwa [run?_of_skip_eq_nil hskip] at h ⊢
    · rw [run?_of_skip_eq_cons hskip] at h ⊢
      obtain ⟨⟨r', rest⟩, hstep, h⟩ := Option.bind_eq_some_iff.1 h
      have hlength := length_lt_of_skip hskip
      have hrest := length_step?_le hstep
      exact Option.bind_eq_some_iff.2 ⟨(r', rest), hstep, ih h (by omega)⟩

theorem run?_unique {turns' : Nat} {y : Regex} (h : run? turns r u = some x)
    (h' : run? turns' r u = some y) : x = y := by
  have hx := run?_of_length_lt h (Nat.lt_succ_self _)
  have hy := run?_of_length_lt h' (Nat.lt_succ_self _)
  exact Option.some.inj (hx.symm.trans hy)

theorem Closes.length_lt (h : Closes r u last t) : t.length < u.length := by
  induction h with
  | here houter hskip => exact length_lt_of_skip hskip
  | step hskip hstep hcloses ih =>
    have hlength := length_lt_of_skip hskip
    have hrest := length_step?_le hstep
    omega

/-- In front of a parenthesis that is still to come, a text starts as it does alone. -/
theorem skip_of_skip_append (hskip : r.flags.skip (s ++ ')' :: t) = c :: u)
    (hlength : t.length < u.length) : ∃ s', r.flags.skip s = c :: s' ∧ u = s' ++ ')' :: t := by
  rcases r.flags.drops_skip.split s t with hsame | ⟨hbeyond, -⟩
  · rw [hskip] at hsame
    rcases hs : r.flags.skip s with _ | ⟨first, s'⟩
    · rw [hs] at hsame
      cases hsame
      exact absurd hlength (lt_irrefl _)
    · rw [hs] at hsame
      cases hsame
      exact ⟨s', rfl, rfl⟩
  · rw [hskip] at hbeyond
    have hle := hbeyond.length_le
    rw [List.length_cons] at hle
    omega

/-- A brace that is left behind `\b` is the start of a count, and there is none. -/
theorem run?_strayBrace (h : r.flags.IsStrayBrace rest) : run? turns r rest = none := by
  obtain ⟨inside, rfl, hinside⟩ := h
  have hbrace : r.flags.skip ('\x7b' :: inside) = '\x7b' :: inside :=
    r.flags.skip_cons (by decide) (by decide) inside
  have hcount : r.flags.readCount? [] = none := by
    rw [Flags.readCount?, List.dropWhile_nil, Flags.takeWhile]
    rfl
  obtain _ | turns := turns
  · rfl
  · rw [run?_of_skip_eq_cons hbrace, step?, Flags.readCounts?, hinside, hcount]
    rfl

/-- The text in front of the parenthesis is an expression, and what it reads as goes into the group.
-/
theorem Closes.run?_eq (h : Closes r u last t) : ∃ before,
    u = before ++ ')' :: t ∧ run? (before.length + 1) r before = some last.group.close := by
  -- Each step in front of the parenthesis can be taken without it.  It did not go beyond it, as it
  -- would have left too little, nor did it leave a brace alone, as the rest is read to its end.
  induction h with
  | @here r u t houter hskip =>
    obtain ⟨before, hbefore⟩ := r.flags.drops_skip.suffix u
    rw [hskip] at hbefore
    subst hbefore
    refine ⟨before, rfl, ?_⟩
    have hnil : r.flags.skip before = [] := by
      rcases r.flags.drops_skip.split before t with hsame | ⟨hbeyond, -⟩
      · exact List.append_cancel_right (hsame.symm.trans hskip)
      · rw [hskip] at hbeyond
        exact absurd hbeyond (not_suffix_of_length_lt (Nat.lt_succ_self _))
    rw [run?_of_skip_eq_nil hnil, houter]
    rfl
  | @step r r' last u s rest t c hskip hstep hcloses ih =>
    obtain ⟨before', rfl, hrun⟩ := ih
    have hrest : before' ++ ')' :: t <:+ u := by
      have hs : s <:+ u := (List.suffix_cons c s).trans (hskip ▸ r.flags.drops_skip.suffix u)
      exact ((r.localBut_step? c).suffix hstep).trans hs
    obtain ⟨front, rfl⟩ := hrest
    refine ⟨front ++ before', by rw [List.append_assoc], ?_⟩
    have hlength := length_step?_le hstep
    rw [List.length_append, List.length_cons] at hlength
    rw [← List.append_assoc] at hskip
    obtain ⟨s', hs', rfl⟩ := skip_of_skip_append hskip (by omega)
    rw [run?_of_skip_eq_cons hs']
    rcases (r.localBut_step? c).split hstep with
      ⟨rest, halone, heq⟩ | hbeyond | ⟨-, rest, heq, hstray⟩
    · obtain rfl := List.append_cancel_right heq
      rw [halone]
      refine run?_of_length_lt hrun ?_
      have hs := length_lt_of_skip hs'
      have hbefore := length_step?_le halone
      omega
    · exact absurd hbeyond (not_suffix_of_length_lt (by simp; omega))
    · obtain rfl := List.append_cancel_right heq
      rw [run?_strayBrace hstray] at hrun
      cases hrun

/-- A text with that parenthesis in it is no expression: alone it is read in the same way as far as
the parenthesis, where no group is open to be closed. -/
theorem Closes.run?_eq_none (h : Closes r (s ++ ')' :: t) last (rest ++ ')' :: t)) :
    run? turns r s = none := by
  generalize hu : s ++ ')' :: t = u at h
  generalize hbehind : rest ++ ')' :: t = behind at h
  have hlength : t.length < behind.length := by
    simp only [← hbehind, List.length_append, List.length_cons]
    omega
  clear hbehind
  induction h generalizing s turns with
  | @here r u behind houter hskip =>
    subst hu
    obtain ⟨s', hs', -⟩ := skip_of_skip_append hskip hlength
    obtain _ | turns := turns
    · rfl
    · rw [run?_of_skip_eq_cons hs', step?, leave?, houter]
      rfl
  | @step r r' last u s₁ rest₁ behind c hskip hstep hcloses ih =>
    subst hu
    have hrest := hcloses.length_lt
    have hle := length_step?_le hstep
    obtain ⟨s', hs', rfl⟩ := skip_of_skip_append hskip (by omega)
    obtain _ | turns := turns
    · rfl
    rw [run?_of_skip_eq_cons hs']
    rcases (r.localBut_step? c).split hstep with ⟨rest, halone, rfl⟩ | hbeyond | ⟨hnone, -⟩
    · rw [halone]
      exact ih rfl hlength
    · exact absurd hbeyond (not_suffix_of_length_lt (by omega))
    · rw [hnone]
      rfl

end OpenSound.Regex.Reading
