import OpenSound.Regex
import OpenSound.Text.Blank
import OpenSound.Text.Hex
import OpenSound.Text.Letter

/-!
# Reading regular expressions

`Regex.parse?` reads an expression from its text.  It keeps a stack of the groups that are open and
goes through the text once.  Flags such as `(?i)` hold until the group around them ends.  An
expression that nests too deeply or would grow too large is refused.
-/

namespace OpenSound.Regex

/-- How the text is to be read. -/
structure Flags where
  /-- Letters of ASCII stand for both of their cases. -/
  ignoreCase : Bool := false
  /-- `^` and `$` hold at every line. -/
  multiLine : Bool := false
  /-- `.` stands for every character. -/
  dotAll : Bool := false
  /-- A line may also end with a carriage return. -/
  crlf : Bool := false
  /-- Blanks and comments mean nothing. -/
  freeSpacing : Bool := false
deriving DecidableEq, Repr, Inhabited

namespace Flags

/-- Sets or clears the flag with the letter.  Two letters change nothing here: one asks which of
several matches to prefer, the other for characters beyond ASCII, which always count. -/
def set? (flags : Flags) (letter : Char) (on : Bool) : Option Flags :=
  match letter with
  | 'i' => some { flags with ignoreCase := on }
  | 'm' => some { flags with multiLine := on }
  | 's' => some { flags with dotAll := on }
  | 'R' => some { flags with crlf := on }
  | 'x' => some { flags with freeSpacing := on }
  | 'U' | 'u' => some flags
  | _ => none

/-- Reads flags up to a colon or a closing parenthesis.  The answer is the flags, whether a colon
ended them, and the text behind it.  No flag is named twice, and a minus sign, behind which flags
are cleared, is followed by one. -/
def read? (flags : Flags) (clearing dangling : Bool) (seen : List Char) :
    List Char → Option (Flags × Bool × List Char)
  | [] => none
  | c :: s =>
    if c = ':' ∨ c = ')' then if dangling then none else some (flags, c = ':', s)
    else if c = '-' then if clearing then none else read? flags true true seen s
    else if seen.contains c then none
    else do
      let flags ← flags.set? c !clearing
      read? flags clearing false (c :: seen) s

end Flags

/-! ### Blanks -/

/-- Drops blanks and comments; a comment goes from `#` to the end of its line. -/
def dropSpacing (inComment : Bool) : List Char → List Char
  | [] => []
  | c :: s =>
    if inComment then dropSpacing (c ≠ '\n') s
    else if Text.isBlank c then dropSpacing false s
    else if c = '#' then dropSpacing true s
    else c :: s

/-- Drops blanks and comments if the flags say that they mean nothing. -/
def Flags.skip (flags : Flags) (s : List Char) : List Char :=
  if flags.freeSpacing then dropSpacing false s else s

theorem length_dropSpacing_le (inComment : Bool) (s : List Char) :
    (dropSpacing inComment s).length ≤ s.length := by
  induction s generalizing inComment with
  | nil => simp [dropSpacing]
  | cons c s ih =>
    have := ih (c ≠ '\n')
    have := ih false
    have := ih true
    simp only [dropSpacing]
    split
    · simp only [List.length_cons]; omega
    · split
      · simp only [List.length_cons]; omega
      · split
        · simp only [List.length_cons]; omega
        · simp

theorem Flags.length_skip_le (flags : Flags) (s : List Char) :
    (flags.skip s).length ≤ s.length := by
  unfold Flags.skip
  split
  · exact length_dropSpacing_le _ _
  · simp

/-- The character that a look ahead finds.  It goes over blanks and the mark of a comment, but not
over the comment; where only those are left, it finds the first of them. -/
def Flags.peek? (flags : Flags) (s : List Char) : Option Char :=
  if !flags.freeSpacing then s.head?
  else
    let ahead := match s.dropWhile Text.isBlank with
      | '#' :: rest => rest.dropWhile Text.isBlank
      | rest => rest
    ahead.head?.or s.head?

/-- Takes the characters that pass the test, with blanks between them. -/
def Flags.takeWhile (flags : Flags) (test : Char → Bool) (s : List Char) : List Char × List Char :=
  match s with
  | [] => ([], [])
  | c :: s =>
    if test c then
      let (taken, rest) := flags.takeWhile test (flags.skip s)
      (c :: taken, rest)
    else ([], c :: s)
termination_by s.length
decreasing_by
  have := flags.length_skip_le s
  grind

/-! ### Characters and escapes -/

/-- One character, in both of its cases if it has two and the flags say so. -/
def Flags.char (flags : Flags) (c : Char) : Regex :=
  if flags.ignoreCase && c.isAlpha then .set (Text.Ranges.single c).foldCase else .char c

/-- Every character, or every one but those that end a line. -/
def Flags.dot (flags : Flags) : Regex :=
  .set (if flags.dotAll then Text.Ranges.complement []
    else if flags.crlf then Text.Ranges.complement [(0xa, 0xa), (0xd, 0xd)]
    else Text.Ranges.complement [(0xa, 0xa)])

def Flags.caret (flags : Flags) : Regex :=
  .look (if flags.multiLine then if flags.crlf then .lineStartCrlf else .lineStart else .textStart)

def Flags.dollar (flags : Flags) : Regex :=
  .look (if flags.multiLine then if flags.crlf then .lineEndCrlf else .lineEnd else .textEnd)

/-- The set that a letter behind a backslash names. -/
def namedSet? : Char → Option Text.Ranges
  | 'd' => some digits
  | 'D' => some (Text.Ranges.complement digits)
  | 's' => some blanks
  | 'S' => some (Text.Ranges.complement blanks)
  | 'w' => some wordCharacters
  | 'W' => some (Text.Ranges.complement wordCharacters)
  | _ => none

/-- The control characters that have a letter of their own. -/
def controlEscape? : Char → Option Char
  | 'a' => some '\x07'
  | 'f' => some '\x0c'
  | 't' => some '\t'
  | 'n' => some '\n'
  | 'r' => some '\r'
  | 'v' => some '\x0b'
  | _ => none

/-- The assertions that have a letter or sign of their own. -/
def lookEscape? : Char → Option Look
  | 'A' => some .textStart
  | 'z' => some .textEnd
  | 'b' => some .wordBoundary
  | 'B' => some .noWordBoundary
  | '<' => some .wordStart
  | '>' => some .wordEnd
  | _ => none

/-- The assertions that are named in braces behind `\b`. -/
def wordLook? (name : List Char) : Option Look :=
  if name = "start".toList then some .wordStart
  else if name = "end".toList then some .wordEnd
  else if name = "start-half".toList then some .wordStartHalf
  else if name = "end-half".toList then some .wordEndHalf
  else none

/-- Whether a backslash in front of the character makes it stand for itself: every character of
ASCII but letters, digits and the two angle brackets. -/
def isEscapable (c : Char) : Bool := c.toNat < 128 && !c.isAlphanum && c ≠ '<' && c ≠ '>'

/-- The character with the code that hexadecimal digits spell, if there is one. -/
def charOfHex? (digits : List Char) : Option Char := do
  let values ← digits.mapM Text.hexValue?
  let code := values.foldl (fun n d => n * 16 + d) 0
  if values.isEmpty then none
  else if 0xD800 ≤ code ∧ code < 0xE000 ∨ Text.Ranges.lastCode < code then none
  else some (Char.ofNat code)

/-- What an escape stands for, and the text behind it. -/
inductive Escape where
  | char (c : Char)
  | set (ranges : Text.Ranges)
  | look (assertion : Look)

/-- What a code in hexadecimal stands for: a set, if the flags ask for both cases of a letter. -/
def Flags.ofCode (flags : Flags) (c : Char) : Escape :=
  if flags.ignoreCase && c.isAlpha then .set (Text.Ranges.single c).foldCase else .char c

/-- Takes `count` characters, with blanks between them. -/
def Flags.takeCount? (flags : Flags) : (count : Nat) → List Char → Option (List Char × List Char)
  | 0, s => some ([], s)
  | _ + 1, [] => none
  | count + 1, c :: s => do
    let (taken, rest) ← flags.takeCount? count (flags.skip s)
    return (c :: taken, rest)

/-- Reads a code in hexadecimal: in braces, or with a fixed count of digits. -/
def Flags.readHex? (flags : Flags) (count : Nat) (s : List Char) : Option (Char × List Char) :=
  match flags.skip s with
  | '\x7b' :: s => do
    let (digits, rest) := flags.takeWhile (· ≠ '\x7d') (flags.skip s)
    let c ← charOfHex? digits
    match rest with
    | [] => none
    | _ :: rest => some (c, flags.skip rest)
  | s => do
    let (digits, rest) ← flags.takeCount? count s
    let c ← charOfHex? digits
    some (c, rest)

/-- Reads what stands in braces behind `\b`.  What cannot be a name is left alone, to be read as a
count; a name has to be one that is known. -/
def Flags.readBoundary? (flags : Flags) (s : List Char) : Option (Look × List Char) :=
  match s with
  | '\x7b' :: inside =>
    let isNameChar := fun (c : Char) => c.isAlpha || c = '-'
    match flags.skip inside with
    | [] => none
    | c :: inside =>
      if isNameChar c then
        let (name, rest) := flags.takeWhile isNameChar (c :: inside)
        match rest with
        | '\x7d' :: rest => do return (← wordLook? name, rest)
        | _ => none
      else some (.wordBoundary, s)
  | s => some (.wordBoundary, s)

/-- Reads an escape behind its backslash. -/
def Flags.readEscape? (flags : Flags) : List Char → Option (Escape × List Char)
  | [] => none
  | 'x' :: s => do let (c, rest) ← flags.readHex? 2 s; return (flags.ofCode c, rest)
  | 'u' :: s => do let (c, rest) ← flags.readHex? 4 s; return (flags.ofCode c, rest)
  | 'U' :: s => do let (c, rest) ← flags.readHex? 8 s; return (flags.ofCode c, rest)
  | 'b' :: s => do let (assertion, rest) ← flags.readBoundary? s; return (.look assertion, rest)
  | c :: s =>
    if isEscapable c then some (.char c, s)
    else match namedSet? c, controlEscape? c, lookEscape? c with
      | some ranges, _, _ => some (.set ranges, s)
      | _, some c, _ => some (.char c, s)
      | _, _, some assertion => some (.look assertion, s)
      | _, _, _ => none

/-! ### Classes -/

/-- The sets with a name between colons. -/
def posixSet? (name : List Char) : Option Text.Ranges :=
  let sets : List (String × Text.Ranges) := [
    ("alnum", [(0x30, 0x39), (0x41, 0x5a), (0x61, 0x7a)]), ("alpha", [(0x41, 0x5a), (0x61, 0x7a)]),
    ("ascii", [(0x0, 0x7f)]), ("blank", [(0x9, 0x9), (0x20, 0x20)]),
    ("cntrl", [(0x0, 0x1f), (0x7f, 0x7f)]), ("digit", digits), ("graph", [(0x21, 0x7e)]),
    ("lower", [(0x61, 0x7a)]), ("print", [(0x20, 0x7e)]),
    ("punct", [(0x21, 0x2f), (0x3a, 0x40), (0x5b, 0x60), (0x7b, 0x7e)]), ("space", blanks),
    ("upper", [(0x41, 0x5a)]), ("word", wordCharacters),
    ("xdigit", [(0x30, 0x39), (0x41, 0x46), (0x61, 0x66)])]
  (sets.find? (·.1.toList = name)).map (·.2)

/-- Reads a set such as `[:alpha:]` behind its first bracket. -/
def readPosix? : List Char → Option (Text.Ranges × List Char)
  | ':' :: s =>
    let (negated, s) := match s with
      | '^' :: s => (true, s)
      | s => (false, s)
    match s.dropWhile (· ≠ ':') with
    | ':' :: ']' :: rest => do
      let ranges ← posixSet? (s.takeWhile (· ≠ ':'))
      return (if negated then ranges.complement else ranges, rest)
    | _ => none
  | _ => none

/-- A member of a class: one character or a set.  An assertion is none. -/
def Flags.readMember? (flags : Flags) : List Char → Option ((Char ⊕ Text.Ranges) × List Char)
  | [] => none
  | '\\' :: s => do
    match ← flags.readEscape? s with
    | (.char c, rest) => return (.inl c, rest)
    | (.set ranges, rest) => return (.inr ranges, rest)
    | (.look _, _) => none
  | c :: s => some (.inl c, s)

/-- Reads a member of a class, or two characters with a hyphen between them.  A hyphen in front of
the closing bracket or of another hyphen joins nothing. -/
def Flags.readRange? (flags : Flags) (s : List Char) : Option (Text.Ranges × List Char) := do
  let (first, rest) ← flags.readMember? s
  let rest := flags.skip rest
  let alone : Text.Ranges := match first with
    | .inl c => Text.Ranges.single c
    | .inr ranges => ranges
  match rest with
  | [] => none
  | '-' :: behind =>
    let next := flags.peek? behind
    if next = some ']' ∨ next = some '-' then return (alone, rest)
    else
      let (last, rest) ← flags.readMember? (flags.skip behind)
      match first, last with
      | .inl a, .inl b => if a ≤ b then return ([(a.toNat, b.toNat)], rest) else none
      | _, _ => none
  | _ => return (alone, rest)

/-- Reads the rest of a class, after the ranges read so far.  Every turn takes up some of the text,
so as many turns as there are characters are enough. -/
def Flags.readMembers? (flags : Flags) : (turns : Nat) → (ranges : Text.Ranges) → List Char →
    Option (Text.Ranges × List Char)
  | 0, _, _ => none
  | turns + 1, ranges, s =>
    match flags.skip s with
    | [] => none
    | ']' :: rest => some (ranges, rest)
    | '[' :: s => do
      let (named, rest) ← readPosix? s
      flags.readMembers? turns (ranges ++ named) rest
    | '&' :: '&' :: _ => none
    | '-' :: '-' :: _ => none
    | '~' :: '~' :: _ => none
    | s => do
      let (range, rest) ← flags.readRange? s
      flags.readMembers? turns (ranges ++ range) rest

/-- Reads a class behind its bracket.  Hyphens that come first are members, and so is a closing
bracket that comes first of all. -/
def Flags.readClass? (flags : Flags) (s : List Char) : Option (Regex × List Char) := do
  let s := flags.skip s
  let (negated, s) := match s with
    | '^' :: s => (true, flags.skip s)
    | s => (false, s)
  let (hyphens, s) := flags.takeWhile (· = '-') s
  let start := hyphens.flatMap Text.Ranges.single
  let (start, s) := match hyphens, s with
    | [], ']' :: s => (Text.Ranges.single ']', flags.skip s)
    | _, s => (start, s)
  let (ranges, rest) ← flags.readMembers? s.length start s
  let ranges := if flags.ignoreCase then ranges.foldCase else ranges.normalize
  return (.set (if negated then ranges.complement else ranges), rest)

/-! ### Repetitions -/

/-- The greatest count that can be written. -/
def greatestCount : Nat := 4294967295

/-- Reads a count with blanks around it. -/
def Flags.readCount? (flags : Flags) (s : List Char) : Option (Nat × List Char) :=
  let (digits, rest) := flags.takeWhile Char.isDigit (s.dropWhile Text.isBlank)
  let count := digits.foldl (fun n c => n * 10 + (c.toNat - '0'.toNat)) 0
  if digits.isEmpty || greatestCount < count then none
  else some (count, flags.skip (rest.dropWhile Text.isBlank))

/-- Drops the sign that asks for few repetitions rather than many. -/
def dropLazy : List Char → List Char
  | '?' :: s => s
  | s => s

/-- Reads counts behind the opening brace: the least, and the greatest if there is one. -/
def Flags.readCounts? (flags : Flags) (s : List Char) : Option (Nat × Option Nat × List Char) := do
  let (least, s) ← flags.readCount? (flags.skip s)
  let (most, s) ← (match s with
    | ',' :: s => match flags.skip s with
      | '\x7d' :: s => some (none, '\x7d' :: s)
      | s => do let (most, s) ← flags.readCount? s; return (some most, s)
    | s => some (some least, s) : Option (Option Nat × List Char))
  match s with
  | '\x7d' :: s =>
    if most.any (· < least) then none else return (least, most, dropLazy (flags.skip s))
  | _ => none

/-! ### Groups -/

/-- A group that is open. -/
structure Group where
  /-- The options before the last bar, the last one first. -/
  options : List Regex := []
  /-- The parts behind the last bar, the last one first. -/
  parts : List Regex := []
  capture : Option Capture := none
  /-- The flags in front of the group, which hold again behind it. -/
  outerFlags : Flags := {}

namespace Group

def push (g : Group) (part : Regex) : Group := { g with parts := part :: g.parts }

/-- A bar: the parts so far become an option. -/
def bar (g : Group) : Group :=
  { g with options := ofParts g.parts.reverse :: g.options, parts := [] }

/-- The expression of the whole group. -/
def close (g : Group) : Regex :=
  let body := ofOptions g.bar.options.reverse
  match g.capture with
  | some group => .capture group body
  | none => body

/-- Repeats the last part. -/
def repeat? (g : Group) (least : Nat) (most : Option Nat) : Option Group :=
  match g.parts with
  | [] => none
  | part :: parts => some { g with parts := part.times least most :: parts }

end Group

/-- The innermost group, those around it, the flags that hold, and the groups that capture so
far. -/
structure Reading where
  group : Group := {}
  outer : List Group := []
  flags : Flags := {}
  captures : List Capture := []

/-- The deepest nesting of groups, and of the parts of an expression in each other. -/
def deepest : Nat := 50

/-- Reads the name of a group up to its closing angle bracket. -/
def readName? (s : List Char) : Option (List Char × List Char) :=
  let isNameChar := fun (c : Char) =>
    c = '_' || c = '.' || c = '[' || c = ']' || Text.isLetterOrDigit c
  match s.dropWhile (· ≠ '>') with
  | [] => none
  | _ :: rest =>
    let name := s.takeWhile (· ≠ '>')
    match name with
    | [] => none
    | first :: others =>
      if (first = '_' || Text.isLetter first) && others.all isNameChar then some (name, rest)
      else none

namespace Reading

/-- Opens a group inside the innermost one. -/
def enter? (r : Reading) (capture : Option Capture) (flags : Flags) : Option Reading :=
  if deepest ≤ r.outer.length then none
  else some { r with
    group := { capture, outerFlags := r.flags }, outer := r.group :: r.outer, flags }

/-- Opens a group that captures. -/
def enterCapture? (r : Reading) (name : Option String) : Option Reading :=
  let capture : Capture := { index := r.captures.length + 1, name }
  { r with captures := capture :: r.captures }.enter? (some capture) r.flags

/-- Opens a group with a name. -/
def enterNamed? (r : Reading) (s : List Char) : Option (Reading × List Char) := do
  let (chars, rest) ← readName? s
  let name := String.ofList chars
  if r.captures.any (·.name = some name) then none
  else return (← r.enterCapture? (some name), rest)

/-- Reads what follows an opening parenthesis: a group of one kind or another, or flags for the rest
of the group around. -/
def group? (r : Reading) (s : List Char) : Option (Reading × List Char) :=
  match r.flags.skip s with
  | '?' :: '=' :: _ => none
  | '?' :: '!' :: _ => none
  | '?' :: '<' :: '=' :: _ => none
  | '?' :: '<' :: '!' :: _ => none
  | '?' :: 'P' :: '<' :: s => r.enterNamed? s
  | '?' :: '<' :: s => r.enterNamed? s
  | '?' :: s => do
    let (flags, isGroup, rest) ← r.flags.read? false false [] s
    if isGroup then
      let r ← r.enter? none flags
      return (r, rest)
    else if s.head? = some ')' then none
    else return ({ r with flags }, rest)
  | s => do return (← r.enterCapture? none, s)

/-- Closes the innermost group. -/
def leave? (r : Reading) : Option Reading :=
  match r.outer with
  | [] => none
  | around :: outer =>
    some { r with group := around.push r.group.close, outer, flags := r.group.outerFlags }

/-- Adds a part to the innermost group. -/
def push (r : Reading) (part : Regex) : Reading := { r with group := r.group.push part }

/-- Repeats the last part of the innermost group. -/
def repeat? (r : Reading) (least : Nat) (most : Option Nat) : Option Reading := do
  let group ← r.group.repeat? least most
  return { r with group }

/-- Reads one construct that starts with the character `c`. -/
def step? (r : Reading) (c : Char) (s : List Char) : Option (Reading × List Char) :=
  match c with
  | '(' => r.group? s
  | ')' => do return (← r.leave?, s)
  | '|' => some ({ r with group := r.group.bar }, s)
  | '[' => do let (part, rest) ← r.flags.readClass? s; return (r.push part, rest)
  | '?' => do return (← r.repeat? 0 (some 1), dropLazy s)
  | '*' => do return (← r.repeat? 0 none, dropLazy s)
  | '+' => do return (← r.repeat? 1 none, dropLazy s)
  | '\x7b' => do
    let (least, most, rest) ← r.flags.readCounts? s
    return (← r.repeat? least most, rest)
  | '\\' => do
    match ← r.flags.readEscape? s with
    | (.char c, rest) => return (r.push (r.flags.char c), rest)
    | (.set ranges, rest) => return (r.push (.set ranges), rest)
    | (.look assertion, rest) => return (r.push (.look assertion), rest)
  | '.' => some (r.push r.flags.dot, s)
  | '^' => some (r.push r.flags.caret, s)
  | '$' => some (r.push r.flags.dollar, s)
  | c => some (r.push (r.flags.char c), s)

/-- Reads the rest of the text.  Every turn takes up some of it, so one turn for each character and
one for the end are enough. -/
def run? : (turns : Nat) → Reading → List Char → Option Regex
  | 0, _, _ => none
  | turns + 1, r, s =>
    match r.flags.skip s with
    | [] => if r.outer.isEmpty then some r.group.close else none
    | c :: s => do
      let (r, rest) ← r.step? c s
      run? turns r rest

end Reading

/-! ### Limits -/

mutual

/-- Whether no part lies more than `levels` parts deep. -/
def isWithin (levels : Nat) : Regex → Bool
  | .char _ => true
  | .set _ => true
  | .look _ => true
  | .sequence parts => areWithin levels parts
  | .choice options => areWithin levels options
  | .repeated body _ _ => match levels with
    | 0 => false
    | levels + 1 => isWithin levels body
  | .capture _ body => match levels with
    | 0 => false
    | levels + 1 => isWithin levels body

def areWithin (levels : Nat) : List Regex → Bool
  | [] => true
  | part :: parts => match levels with
    | 0 => false
    | below + 1 => isWithin below part && areWithin levels parts

end

mutual

/-- Whether the expression may match the empty text, as far as its form tells. -/
def matchesEmpty : Regex → Bool
  | .char _ => false
  | .set _ => false
  | .look _ => true
  | .sequence parts => allMatchEmpty parts
  | .choice options => someMatchesEmpty options
  | .repeated body least _ => least = 0 || matchesEmpty body
  | .capture _ body => matchesEmpty body

def allMatchEmpty : List Regex → Bool
  | [] => true
  | part :: parts => matchesEmpty part && allMatchEmpty parts

def someMatchesEmpty : List Regex → Bool
  | [] => false
  | option :: options => matchesEmpty option || someMatchesEmpty options

end

mutual

/-- The groups that capture, from left to right. -/
def captures : Regex → List Capture
  | .char _ => []
  | .set _ => []
  | .look _ => []
  | .sequence parts => capturesOf parts
  | .choice options => capturesOf options
  | .repeated body _ _ => captures body
  | .capture group body => group :: captures body

def capturesOf : List Regex → List Capture
  | [] => []
  | part :: parts => captures part ++ capturesOf parts

end

/-- What a node of an automaton takes up in memory. -/
def nodeSize : Nat := 32

/-- What an edge takes up besides, at a node that may have several. -/
def edgeSize : Nat := 4

/-- What a node takes up at which there are two ways to go on. -/
def forkSize : Nat := nodeSize + 2 * edgeSize

/-- What a repetition takes up, given the size of its body. -/
def repeatedSize (body : Nat) (bodyMatchesEmpty : Bool) (least : Nat) : (most : Option Nat) → Nat
  | none =>
    if least ≠ 0 then least * body + forkSize
    else if bodyMatchesEmpty then body + 2 * forkSize + nodeSize
    else body + forkSize
  | some most =>
    if most = least then most * body
    else if least = 0 ∧ most = 1 then body + forkSize + nodeSize
    else max nodeSize (least * body) + (most - least) * (body + forkSize) + nodeSize

mutual

/-- What the automaton of the expression takes up, with its repetitions written out. -/
def size : Regex → Nat
  | .char _ => nodeSize
  | .set ranges => nodeSize + 8 * ranges.length
  | .look _ => nodeSize
  | .sequence parts => max nodeSize (sizes parts)
  | .choice options => 2 * nodeSize + edgeSize * options.length + sizes options
  | .repeated body least most => repeatedSize (size body) (matchesEmpty body) least most
  | .capture _ body => size body + 2 * nodeSize

def sizes : List Regex → Nat
  | [] => 0
  | part :: parts => size part + sizes parts

end

/-- What the table of the groups that capture takes up: a place for the whole match and for each
group up to the last, and the names. -/
def captureTableSize (groups : List Capture) : Nat :=
  16 * (groups.foldl (fun greatest group => max greatest group.index) 0 + 1)
    + groups.foldl
      (fun size group => size + group.name.elim 0 fun name => name.utf8ByteSize + 4) 0

/-- What the expression takes up in memory: the automaton between the two ends of the whole match
and a final node, and the table of its groups. -/
def totalSize (r : Regex) : Nat := r.size + 3 * nodeSize + captureTableSize r.captures

/-- The greatest size allowed. -/
def greatestSize : Nat := 10485760

/-- Reads a regular expression. -/
def parse? (source : String) : Option Regex := do
  let s := source.toList
  let r ← Reading.run? (s.length + 1) {} s
  if r.isWithin deepest && r.totalSize ≤ greatestSize then return r else none

end OpenSound.Regex
