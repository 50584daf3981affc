import OpenSound.Proofs.Spans
import OpenSound.Proofs.Wrapping
import OpenSound.Selector

/-!
# Anchored expressions

A selector of whole texts reads its source as a group between two anchors.  Between them the source
is read as it is read alone, and the anchored expression matches somewhere in a text exactly if the
expression of the source matches the whole of it (`Regex.isMatch_anchored_iff`); this holds whatever
flags, options and groups the source has.  It goes wrong in one way only: as the source is put
between the anchors as text, a parenthesis of the source may close the group (`Regex.BreaksOut`),
and then each anchor belongs to a part of the source.  Apart from such sources, a selector that is
made selects whole texts (`Selector.selects_whole_unless_breaksOut`).
-/

namespace OpenSound

namespace Regex

/-! ### What is read -/

/-- The expression between the two ends of the text. -/
def anchored (body : Regex) : Regex := sequence [look .textStart, body, look .textEnd]

/-- Whether the text is an expression, however deep or large. -/
def IsExpression (text : List Char) : Prop :=
  ∃ r, Reading.run? (text.length + 1) {} text = some r

/-- Whether the text is no expression, because behind an expression there is a parenthesis in it
that closes nothing. -/
def BreaksOut (text : List Char) : Prop :=
  ¬ IsExpression text ∧ ∃ before behind, text = before ++ ')' :: behind ∧ IsExpression before

/-- What stands around the group: so far, the first anchor. -/
def openGroup : Group := ({} : Group).push (look .textStart)

theorem run?_opening (turns : Nat) (text : List Char) :
    Reading.run? (turns + 2) {} ('^' :: '(' :: '?' :: ':' :: text) =
      Reading.run? turns (({} : Reading).inside openGroup) text := by
  rfl

/-- Behind the group, the flags are those in front of it again, so that the last anchor stands for
the end of the text. -/
theorem run?_closing {last : Reading} (hflags : last.bottomFlags = {}) (houter : last.outer = [])
    {turns : Nat} {r : Regex}
    (h : Reading.run? turns (last.leaveLast openGroup) ['$'] = some r) :
    r = anchored last.group.close := by
  have hlast : Reading.run? 2 (last.leaveLast openGroup) ['$'] =
      some (anchored last.group.close) := by
    rw [Reading.bottomFlags, houter] at hflags
    have hgroup : last.group.outerFlags = {} := hflags
    rw [Reading.leaveLast, hgroup]
    rfl
  exact Reading.run?_unique h hlast

/-- What is read between the anchors stands between the two ends of the text, unless the source
breaks out. -/
theorem run?_anchored {turns : Nat} {text : List Char} {r : Regex}
    (h : Reading.run? turns {} ('^' :: '(' :: '?' :: ':' :: (text ++ [')', '$'])) = some r) :
    (∃ body, Reading.run? (text.length + 1) {} text = some body ∧ r = anchored body) ∨
      BreaksOut text := by
  have hopened : Reading.run? (text.length + 7 + 2) {} _ = some r :=
    Reading.run?_of_length_lt h (by simp)
  rw [run?_opening] at hopened
  obtain ⟨last, t, turns', hcloses, hflags, houter, hrun⟩ := Reading.exists_closes_of_run? hopened
  obtain ⟨before, hbefore, hbody⟩ := hcloses.run?_eq
  by_cases ht : t = ['$']
  · subst ht
    obtain rfl := List.append_cancel_right hbefore
    exact .inl ⟨last.group.close, hbody, run?_closing hflags houter hrun⟩
  · right
    have hbehind : ∃ behind, text = before ++ ')' :: behind ∧ t = behind ++ [')', '$'] := by
      rcases List.append_eq_append_iff.1 hbefore with ⟨more, rfl, hmore⟩ | ⟨more, rfl, hmore⟩
      · rcases more with _ | ⟨c, _ | ⟨d, more⟩⟩
        · exact absurd (List.cons.inj hmore).2.symm ht
        · simp at hmore
        · simp at hmore
      · rcases more with _ | ⟨c, behind⟩
        · exact absurd (List.cons.inj hmore).2 ht
        · obtain ⟨rfl, rfl⟩ := List.cons.inj hmore
          exact ⟨behind, rfl, rfl⟩
    obtain ⟨behind, htext, rfl⟩ := hbehind
    refine ⟨?_, before, behind, htext, last.group.close, hbody⟩
    rintro ⟨r, hr⟩
    rw [hcloses.run?_eq_none] at hr
    cases hr

/-! ### Limits

The anchors make an expression deeper and larger, so that what keeps within the limits between them
does so by itself. -/

mutual

theorem isWithin_mono {a b : Nat} (hle : a ≤ b) : (r : Regex) → isWithin a r → isWithin b r
  | .char _ => id
  | .set _ => id
  | .look _ => id
  | .sequence parts => areWithin_mono hle parts
  | .choice options => areWithin_mono hle options
  | .repeated body _ _ => by
    intro h
    obtain _ | a := a
    · cases h
    obtain _ | b := b
    · omega
    exact isWithin_mono (Nat.le_of_succ_le_succ hle) body h
  | .capture _ body => by
    intro h
    obtain _ | a := a
    · cases h
    obtain _ | b := b
    · omega
    exact isWithin_mono (Nat.le_of_succ_le_succ hle) body h

theorem areWithin_mono {a b : Nat} (hle : a ≤ b) :
    (parts : List Regex) → areWithin a parts → areWithin b parts
  | [] => id
  | part :: parts => by
    intro h
    obtain _ | a := a
    · cases h
    obtain _ | b := b
    · omega
    obtain ⟨hpart, hparts⟩ := Bool.and_eq_true_iff.1 h
    exact Bool.and_eq_true_iff.2 ⟨isWithin_mono (Nat.le_of_succ_le_succ hle) part hpart,
      areWithin_mono hle parts hparts⟩

end

theorem isWithin_of_anchored {body : Regex} {levels : Nat} (h : (anchored body).isWithin levels) :
    body.isWithin levels := by
  obtain _ | levels := levels
  · cases h
  have hbody : body.isWithin levels := by
    simp only [anchored, isWithin, areWithin, Bool.and_eq_true] at h
    exact h.2.1
  exact isWithin_mono (Nat.le_succ levels) body hbody

theorem totalSize_le_anchored (body : Regex) : body.totalSize ≤ (anchored body).totalSize := by
  have hsize : body.size ≤ (anchored body).size := by
    simp only [anchored, size, sizes]
    omega
  have hcaptures : (anchored body).captures = body.captures := by
    simp [anchored, captures, capturesOf]
  rw [totalSize, totalSize, hcaptures]
  omega

theorem parse?_anchored {source : String} {r : Regex}
    (h : parse? ("^(?:" ++ source ++ ")$") = some r) :
    (∃ body, parse? source = some body ∧ r = anchored body) ∨
      BreaksOut source.toList := by
  have htext : ("^(?:" ++ source ++ ")$").toList =
      '^' :: '(' :: '?' :: ':' :: (source.toList ++ [')', '$']) := by
    simp
  obtain ⟨r', hrun, hlimits⟩ := Option.bind_eq_some_iff.1 h
  split_ifs at hlimits with hwithin
  cases hlimits
  rw [htext] at hrun
  refine (run?_anchored hrun).imp_left ?_
  rintro ⟨body, hbody, rfl⟩
  refine ⟨body, ?_, rfl⟩
  rw [Bool.and_eq_true, decide_eq_true_iff] at hwithin
  have hsize := (totalSize_le_anchored body).trans hwithin.2
  refine Option.bind_eq_some_iff.2 ⟨body, hbody, if_pos ?_⟩
  rw [Bool.and_eq_true, decide_eq_true_iff]
  exact ⟨isWithin_of_anchored hwithin.1, hsize⟩

/-! ### What is matched -/

theorem charBefore?_eq_none_iff {text : Array Char} {i : Nat} (hi : i ≤ text.size) :
    charBefore? text i = none ↔ i = 0 := by
  cases i with
  | zero => exact iff_of_true rfl rfl
  | succ i =>
    refine iff_of_false ?_ (Nat.succ_ne_zero i)
    rw [charBefore?, Array.getElem?_eq_none_iff]
    omega

theorem spans_anchored_iff {text : Array Char} {body : Regex} {i j : Nat} (hi : i ≤ text.size) :
    (anchored body).Spans text i j ↔ i = 0 ∧ j = text.size ∧ body.Spans text 0 text.size := by
  have hunfold : (anchored body).Spans text i j ↔
      charBefore? text i = none ∧ body.Spans text i j ∧ text.size ≤ j := by
    simp only [anchored, Spans, SpansAll, Look.holds, Option.isNone_iff_eq_none,
      Array.getElem?_eq_none_iff]
    constructor
    · rintro ⟨_, ⟨hstart, rfl⟩, _, hbody, _, ⟨hend, rfl⟩, rfl⟩
      exact ⟨hstart, hbody, hend⟩
    · rintro ⟨hstart, hbody, hend⟩
      exact ⟨i, ⟨hstart, rfl⟩, j, hbody, j, ⟨hend, rfl⟩, rfl⟩
  rw [hunfold, charBefore?_eq_none_iff hi]
  constructor
  · rintro ⟨rfl, hbody, hend⟩
    have hj : j = text.size := by
      rcases movesOn_spans body 0 j hbody with rfl | ⟨-, hle⟩
      · omega
      · omega
    subst hj
    exact ⟨rfl, rfl, hbody⟩
  · rintro ⟨rfl, rfl, hbody⟩
    exact ⟨rfl, hbody, le_rfl⟩

theorem isMatch_anchored_iff (body : Regex) (text : String) :
    (anchored body).isMatch text = true ↔ body.MatchesWhole text := by
  have hsize : text.toList.toArray.size = text.toList.length := List.size_toArray
  rw [isMatch, Bool.not_eq_true', List.isEmpty_eq_false_iff_exists_mem, MatchesWhole, ← hsize]
  constructor
  · rintro ⟨j, hj⟩
    obtain ⟨i, hi, hspans⟩ := (follows_reach _ _ j).1 hj
    have hi := Nat.le_of_lt_succ (List.mem_range.1 hi)
    exact ((spans_anchored_iff hi).1 hspans).2.2
  · intro hbody
    refine ⟨text.toList.toArray.size, (follows_reach _ _ _).2 ⟨0, ?_, ?_⟩⟩
    · exact List.mem_range.2 (Nat.succ_pos _)
    · exact (spans_anchored_iff (Nat.zero_le _)).2 ⟨rfl, rfl, hbody⟩

end Regex

/-! ### The selectors -/

namespace WholeRegex

theorem source_ofSource {source : String} {w : WholeRegex} (h : ofSource source = .ok w) :
    w.source = source := by
  unfold ofSource at h
  split at h
  · cases h
    rfl
  · cases h

theorem matches_whole_or_breaksOut (w : WholeRegex) :
    (∃ r, Regex.parse? w.source = some r ∧ ∀ text, w.isMatch text = true ↔ r.MatchesWhole text) ∨
      Regex.BreaksOut w.source.toList := by
  refine (Regex.parse?_anchored w.reads).imp_left ?_
  rintro ⟨r, hr, hregex⟩
  refine ⟨r, hr, fun text => ?_⟩
  rw [isMatch, hregex, Regex.isMatch_anchored_iff]

end WholeRegex

namespace Selector

variable {tests : CustomTests} {source : String}

/-- Whether the source is an expression by itself, and the selector selects the messages of which it
matches the whole text. -/
def SelectsWhole (tests : CustomTests) (s : Selector) (source : String) (text : Message → String) :
    Prop :=
  ∃ r, Regex.parse? source = some r ∧
    ∀ m, s.selects tests m = true ↔ r.MatchesWhole (text m)

theorem selectsWhole_or_breaksOut {criterion : WholeRegex → Criterion} {s : Selector}
    {text : Message → String}
    (hmade : (do return leaf (criterion (← WholeRegex.ofSource source))) = .ok s)
    (hmet : ∀ w m, (criterion w).isMet tests m = w.isMatch (text m)) :
    s.SelectsWhole tests source text ∨ Regex.BreaksOut source.toList := by
  rcases hw : WholeRegex.ofSource source with e | w
  · rw [hw] at hmade
    cases hmade
  rw [hw] at hmade
  cases hmade
  have hwhole := w.matches_whole_or_breaksOut
  rw [WholeRegex.source_ofSource hw] at hwhole
  refine hwhole.imp_left ?_
  rintro ⟨r, hr, hmatch⟩
  exact ⟨r, hr, fun m => (Bool.eq_iff_iff.1 (hmet w m)).trans (hmatch (text m))⟩

theorem not_breaksOut_of_parse? {r : Regex} (h : Regex.parse? source = some r) :
    ¬ Regex.BreaksOut source.toList := by
  rintro ⟨hnone, -⟩
  obtain ⟨r, hr, -⟩ := Option.bind_eq_some_iff.1 h
  exact hnone ⟨r, hr⟩

/-- A selector that is made from a source selects the messages with a text that the source matches
as a whole, neither more nor less, unless the source is no expression by itself and breaks out of
the group that it is put into. -/
theorem selects_whole_unless_breaksOut (tests : CustomTests) (source : String) :
    (∀ s, regexAddress source = .ok s →
      s.SelectsWhole tests source Message.address ∨ Regex.BreaksOut source.toList) ∧
    ∀ s, regexTypeTags source = .ok s →
      s.SelectsWhole tests source Message.typeTags ∨ Regex.BreaksOut source.toList := by
  constructor
  · intro s hs
    exact selectsWhole_or_breaksOut hs fun _ _ => rfl
  · intro s hs
    exact selectsWhole_or_breaksOut hs fun _ _ => rfl

/-- No custom test says yes. -/
def noTests : CustomTests := fun _ => { verdict := fun _ => false }

/-- Of two options, the second one is tried where the first one stops short of the end. -/
theorem selects_whole_unless_breaksOut_options : ∃ s, regexAddress "/a|/ab" = .ok s ∧
    s.SelectsWhole noTests "/a|/ab" Message.address := by
  have hmade : (regexAddress "/a|/ab").toBool = true := by decide +kernel
  have hparses : (Regex.parse? "/a|/ab").isSome = true := by decide +kernel
  obtain ⟨r, hr⟩ := Option.isSome_iff_exists.1 hparses
  rcases hs : regexAddress "/a|/ab" with e | s
  · rw [hs] at hmade
    cases hmade
  · have hwhole := (selects_whole_unless_breaksOut noTests "/a|/ab").1 s hs
    exact ⟨s, rfl, hwhole.resolve_right (not_breaksOut_of_parse? hr)⟩

/-- A source that breaks out is no expression, and yet it makes a selector, which takes an address
for the part that it starts with. -/
theorem regexAddress_of_breaksOut : Regex.parse? "/a)|(?:/x" = none ∧
    ∃ s, regexAddress "/a)|(?:/x" = .ok s ∧ s.selects noTests { address := "/abc" } = true := by
  have hnone : (Regex.parse? "/a)|(?:/x").isNone = true := by decide +kernel
  have hselects : (regexAddress "/a)|(?:/x").toOption.any
      (fun s => s.selects noTests { address := "/abc" }) = true := by decide +kernel
  refine ⟨Option.isNone_iff_eq_none.1 hnone, ?_⟩
  rcases hs : regexAddress "/a)|(?:/x" with e | s
  · rw [hs] at hselects
    cases hselects
  · rw [hs] at hselects
    exact ⟨s, rfl, hselects⟩

end Selector

end OpenSound
