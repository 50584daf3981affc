import OpenSound.Packet

/-!
# Walking through bundles

A bundle that is due is taken apart: its messages are delivered under its time tag, a nested bundle
that is due is taken apart in its place, and one that is not due is put off as a whole.  `Walk.run`
does so with a stack of what is left of each bundle, so that the depth of the nesting does not
matter.  What delivering and putting off mean is up to the surroundings.
-/

namespace OpenSound

mutual

/-- The number of steps that a packet takes in a walk. -/
def Packet.stepCount : Packet → Nat
  | .message _ => 1
  | .bundle _ elements => 2 + Packet.stepCountAll elements

/-- The number of steps that packets take in a walk, one after the other. -/
def Packet.stepCountAll : List Packet → Nat
  | [] => 0
  | packet :: rest => packet.stepCount + Packet.stepCountAll rest

end

/-- What is left of a bundle: its time tag and the elements not yet seen. -/
abbrev Remainder := TimeTag × List Packet

/-- The number of steps that the remainders of bundles take. -/
def Remainder.stepCount (remainders : List Remainder) : Nat :=
  remainders.foldr (fun r steps => 1 + Packet.stepCountAll r.2 + steps) 0

/-- What a walk does to its surroundings. -/
structure Walk (m : Type → Type) where
  /-- How long a bundle with the time tag has to wait, if it is not due. -/
  delay? : TimeTag → m (Option Nat)
  /-- Hands over a message under the time tag of its bundle. -/
  deliver : TimeTag → Message → m Unit
  /-- Puts off a whole bundle for a while. -/
  defer : TimeTag → List Packet → (delay : Nat) → m Unit

namespace Walk

variable {m : Type → Type} [Monad m]

/-- Takes apart bundles that are due, the innermost one first. -/
def run (walk : Walk m) : List Remainder → m Unit
  | [] => pure ()
  | (_, []) :: outer => run walk outer
  | (time, .message content :: rest) :: outer => do
    walk.deliver time content
    run walk ((time, rest) :: outer)
  | (time, .bundle nested elements :: rest) :: outer => do
    match ← walk.delay? nested with
    | none => run walk ((nested, elements) :: (time, rest) :: outer)
    | some delay =>
      walk.defer nested elements delay
      run walk ((time, rest) :: outer)
termination_by remainders => Remainder.stepCount remainders
decreasing_by
  all_goals
    simp only [Remainder.stepCount, List.foldr_cons, Packet.stepCountAll,
      Packet.stepCount]
    omega

/-- Handles a packet on its arrival: a message by itself counts as immediate. -/
def packet (walk : Walk m) : Packet → m Unit
  | .message content => walk.deliver .immediate content
  | .bundle time elements => do
    match ← walk.delay? time with
    | none => walk.run [(time, elements)]
    | some delay => walk.defer time elements delay

end Walk

end OpenSound
