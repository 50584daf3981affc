import OpenSound.Command

/-!
# Command lines

What the words of a command line ask for.  The first word that is no option names the command.
Options may stand anywhere in front of a `--`, with their value as the next word or behind an equals
sign.
-/

namespace OpenSound

/-- What the program is asked to do, and the files it is told to read. -/
structure Request where
  command : Command
  /-- A file with settings. -/
  settingsFile : Option String := none
  /-- A file with the packet to be shown. -/
  packetFile : Option String := none
deriving Repr

namespace Request

/-- An option by its name, with its value if it takes one. -/
structure Choice where
  name : String
  value : String := ""
deriving DecidableEq, Repr

/-- The options that take a value, each with its short form. -/
def valued : List (String × String) :=
  [("--config", "-c"), ("--log-level", "-l"), ("--file", "-f"), ("--bundle-in", ""),
    ("--pattern", "-p"), ("--type-tags", "-t"), ("--wait-ms", "-w")]

/-- The options without a value. -/
def plain : List String := ["--compact", "--json-logs"]

/-- The options that go with a command, and those that go with all of them. -/
def allowed (command : String) : List String :=
  let common := ["--config", "--log-level", "--json-logs"]
  match command with
  | "decode" => "--file" :: "--compact" :: common
  | "encode" => "--bundle-in" :: common
  | "route" => "--pattern" :: "--type-tags" :: "--wait-ms" :: common
  | _ => common

/-- The full name of an option that takes a value. -/
def valuedName? (word : String) : Option String :=
  (valued.find? fun (long, short) => word = long || (word = short && short ≠ "")).map (·.1)

/-- An option with its value behind an equals sign. -/
def joined? (word : String) : Option Choice :=
  match word.toList.dropWhile (· ≠ '=') with
  | _ :: value =>
    (valuedName? (String.ofList (word.toList.takeWhile (· ≠ '=')))).map fun name =>
      { name, value := String.ofList value }
  | [] => none

/-- Sorts words into options and others.  A word that looks like an option but is none is taken only
among the values of the command `encode`. -/
def sort? (command : Option String) : List String → Option (List Choice × List String)
  | [] => some ([], [])
  | "--" :: words => some ([], words)
  | word :: words =>
    if plain.contains word then do
      let (choices, others) ← sort? command words
      return ({ name := word } :: choices, others)
    else
      match valuedName? word, joined? word, words with
      | some name, _, value :: words => do
        let (choices, others) ← sort? command words
        return ({ name, value } :: choices, others)
      | some _, _, [] => none
      | none, some choice, words => do
        let (choices, others) ← sort? command words
        return (choice :: choices, others)
      | none, none, words =>
        if word.startsWith "-" && word ≠ "-" && command ≠ some "encode" then none
        else do
          let (choices, others) ← sort? (command.or (some word)) words
          return (choices, word :: others)

/-- The value of an option, if it is chosen. -/
def chosen? (choices : List Choice) (name : String) : Option String :=
  (choices.find? (·.name = name)).map (·.value)

/-- The number that an option is given, or what it is if the option is not chosen. -/
def number? (choices : List Choice) (name : String) : Option (Option Nat) :=
  match chosen? choices name with
  | none => some none
  | some value =>
    match Text.readInteger 0 (UInt64.size - 1) value.toList with
    | .ok n => some (some n.toNat)
    | .error _ => none

/-- The command that the words ask for. -/
def command? (choices : List Choice) : (words : List String) → Option Command
  | ["decode"] => some (.decode none (chosen? choices "--compact").isSome)
  | ["decode", hex] =>
    if (chosen? choices "--file").isSome then none
    else some (.decode (some (.hex hex)) (chosen? choices "--compact").isSome)
  | "encode" :: address :: arguments => do
    return .encode address arguments (← number? choices "--bundle-in")
  | "match" :: pattern :: address :: addresses => some (.test pattern (address :: addresses))
  | "route" :: packet :: packets => do
    return .route ((chosen? choices "--pattern").getD "//") (chosen? choices "--type-tags")
      (packet :: packets) ((← number? choices "--wait-ms").getD 0)
  | _ => none

/-- What a command line asks for.  No option is chosen twice, and every one goes with the
command. -/
def ofWords? (words : List String) : Option Request := do
  let (choices, words) ← sort? none words
  let command ← command? choices words
  let names := choices.map (·.name)
  if names.Nodup ∧ names.all (allowed (words.headD "")).contains then
    return {
      command, settingsFile := chosen? choices "--config"
      packetFile := chosen? choices "--file" }
  else none

/-- How the program is to be called. -/
def usage : String :=
  "usage: decode [HEX | --file FILE] [--compact]\n" ++
  "       encode ADDRESS [ARGUMENT...] [--bundle-in MILLISECONDS]\n" ++
  "       match PATTERN ADDRESS...\n" ++
  "       route HEX... [--pattern PATTERN] [--type-tags PATTERN] [--wait-ms MILLISECONDS]\n" ++
  "options for all of them: --config FILE, --log-level LEVEL, --json-logs"

end Request

end OpenSound
