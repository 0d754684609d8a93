import PathSort.Settings

/-!
# Command-line arguments

Arguments are a command with its sort tokens, and flags before or after the command. A flag with a
value takes the next argument, or what follows an equals sign, or what follows its letter; switches
without values may share one dash. A flag may be given once before the command and once after it,
where the later one counts. Two dashes end the flags. Arguments are read from the left, and the
first misuse, or the first question for help or for the version, ends the reading.
-/

namespace PathSort.CommandLine

set_option autoImplicit false

inductive Verb where
  | explain
  | plan
deriving DecidableEq, Repr

def Verb.ofName? (name : String) : Option Verb :=
  if name = "explain" then some .explain
  else if name = "plan" then some .plan
  else none

inductive Place where
  | before
  | after (verb : Verb)
deriving DecidableEq, Repr

inductive Flag where
  | config
  | defaultOrder
  | ignoreUnsupported
  | verbose
  | table
  | help
  | version
deriving DecidableEq, Repr

namespace Flag

def ofName? (name : String) : Option Flag :=
  if name = "config" then some config
  else if name = "default-order" then some defaultOrder
  else if name = "ignore-unsupported" then some ignoreUnsupported
  else if name = "verbose" then some verbose
  else if name = "table" then some table
  else if name = "help" then some help
  else if name = "version" then some version
  else none

def ofLetter? (letter : Char) : Option Flag :=
  if letter = 'c' then some config
  else if letter = 'v' then some verbose
  else if letter = 't' then some table
  else if letter = 'h' then some help
  else if letter = 'V' then some version
  else none

def takesValue : Flag → Bool
  | config => true
  | defaultOrder => true
  | table => true
  | _ => false

/-- Whether a flag may stand at a place. Only `explain` has a table, and the version is asked for
before the verb. -/
def isAllowed (place : Place) : Flag → Bool
  | table => place = .after .explain
  | version => place = .before
  | _ => true

end Flag

inductive Halt where
  | misused
  | help
  | version
deriving DecidableEq, Repr

structure Given where
  config : Option String
  defaultOrder : Option Direction
  ignoreUnsupported : Bool
  verbose : Bool
  table : Option String
deriving DecidableEq, Repr

namespace Given

def nothing : Given := ⟨none, none, false, false, none⟩

/-- The flags with a value for one of them, which must not have one yet. A path must not be empty,
and a direction must be one. -/
def setValue (given : Given) (flag : Flag) (value : String) : Except Halt Given :=
  match flag with
  | .config =>
      if given.config.isSome ∨ value = "" then .error .misused
      else .ok { given with config := some value }
  | .defaultOrder =>
      match given.defaultOrder, Direction.ofWord? value with
      | none, some direction => .ok { given with defaultOrder := some direction }
      | _, _ => .error .misused
  | .table =>
      if given.table.isSome then .error .misused else .ok { given with table := some value }
  | _ => .error .misused

def setSwitch (given : Given) (flag : Flag) : Except Halt Given :=
  match flag with
  | .ignoreUnsupported =>
      if given.ignoreUnsupported then .error .misused
      else .ok { given with ignoreUnsupported := true }
  | .verbose => if given.verbose then .error .misused else .ok { given with verbose := true }
  | .help => .error .help
  | .version => .error .version
  | _ => .error .misused

/-- Flags over other flags: a value goes over a value, and a switch is on if it is on in either. -/
def onTopOf (later earlier : Given) : Given where
  config := later.config.or earlier.config
  defaultOrder := later.defaultOrder.or earlier.defaultOrder
  ignoreUnsupported := later.ignoreUnsupported || earlier.ignoreUnsupported
  verbose := later.verbose || earlier.verbose
  table := later.table.or earlier.table

end Given

inductive Form where
  | endOfFlags
  | long (body : List Char)
  | short (body : List Char)
  /-- No flag. A dash alone is none either. -/
  | word

def Form.of (argument : String) : Form :=
  match argument.toList with
  | ['-', '-'] => .endOfFlags
  | '-' :: '-' :: body => .long body
  | ['-'] => .word
  | '-' :: body => .short body
  | _ => .word

def allowed (place : Place) (flag? : Option Flag) : Except Halt Flag :=
  match flag?.filter (Flag.isAllowed place) with
  | some flag => .ok flag
  | none => .error .misused

/-- Reads a flag by its long name. Gives the flag that still needs its value, if it does. -/
def readLong (place : Place) (given : Given) (body : List Char) :
    Except Halt (Given × Option Flag) := do
  let flag ← allowed place (Flag.ofName? (String.ofList (body.takeWhile (· ≠ '='))))
  match body.dropWhile (· ≠ '=') with
  | [] =>
      if flag.takesValue then .ok (given, some flag)
      else .ok (← given.setSwitch flag, none)
  | _ :: value =>
      if flag.takesValue then .ok (← given.setValue flag (String.ofList value), none)
      else .error .misused

def readShort (place : Place) : Given → List Char → Except Halt (Given × Option Flag)
  | given, [] => .ok (given, none)
  | given, letter :: rest => do
      let flag ← allowed place (Flag.ofLetter? letter)
      if flag.takesValue then
        match rest with
        | [] => .ok (given, some flag)
        | '=' :: value => .ok (← given.setValue flag (String.ofList value), none)
        | value => .ok (← given.setValue flag (String.ofList value), none)
      else readShort place (← given.setSwitch flag) rest

def readAfter (verb : Verb) : Given → Option Flag → List String → Except Halt (Given × List String)
  | given, none, [] => .ok (given, [])
  | _, some _, [] => .error .misused
  | given, pending, argument :: rest =>
      match pending, Form.of argument with
      | some flag, .word => do readAfter verb (← given.setValue flag argument) none rest
      | some _, _ => .error .misused
      | none, .endOfFlags => .ok (given, rest)
      | none, .long body => do
          let (given, pending) ← readLong (.after verb) given body
          readAfter verb given pending rest
      | none, .short body => do
          let (given, pending) ← readShort (.after verb) given body
          readAfter verb given pending rest
      | none, .word => do
          let (given, tokens) ← readAfter verb given none rest
          .ok (given, argument :: tokens)

/-- Why reading ends at the word `help`, which may be followed by what help is asked about. -/
def haltAtHelp : List String → Halt
  | [] => .help
  | [topic] => if (Verb.ofName? topic).isSome ∨ topic = "help" then .help else .misused
  | _ => .misused

/-- Reads arguments up to the verb. Gives the flags before it, the verb, and what follows it. -/
def readBefore : Given → Option Flag → List String → Except Halt (Given × Verb × List String)
  | _, _, [] => .error .misused
  | given, pending, argument :: rest =>
      match pending, Form.of argument with
      | some flag, .word => do readBefore (← given.setValue flag argument) none rest
      | some _, _ => .error .misused
      | none, .endOfFlags => .error .misused
      | none, .long body => do
          let (given, pending) ← readLong .before given body
          readBefore given pending rest
      | none, .short body => do
          let (given, pending) ← readShort .before given body
          readBefore given pending rest
      | none, .word =>
          match Verb.ofName? argument with
          | some verb => .ok (given, verb, rest)
          | none => .error (if argument = "help" then haltAtHelp rest else .misused)

structure Invocation where
  verb : Verb
  config : Option String
  overrides : Overrides
  verbose : Bool
  /-- The sort tokens. There is at least one. -/
  tokens : List String
deriving DecidableEq, Repr

def Invocation.of (given : Given) (verb : Verb) (tokens : List String) : Invocation where
  verb := verb
  config := given.config
  overrides := ⟨given.table, given.defaultOrder, given.ignoreUnsupported⟩
  verbose := given.verbose
  tokens := tokens

def parse (arguments : List String) : Except Halt Invocation := do
  let (earlier, verb, rest) ← readBefore .nothing none arguments
  let (later, tokens) ← readAfter verb .nothing none rest
  if tokens.isEmpty then .error .misused
  else .ok (.of (later.onTopOf earlier) verb tokens)

end PathSort.CommandLine
