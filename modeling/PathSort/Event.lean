import PathSort.Direction
import PathSort.Text.Quoted

/-!
# Trace events

What sorting reports about itself while it runs. An event has a level and a message, and its log
line names the part of the program that speaks, the message and the event's fields. A log shows the
events up to a level of detail.
-/

namespace PathSort

set_option autoImplicit false

inductive Level where
  | error
  | warn
  | info
  | debug
  | trace
deriving DecidableEq, Repr

namespace Level

def name : Level → String
  | error => "ERROR"
  | warn => "WARN"
  | info => "INFO"
  | debug => "DEBUG"
  | trace => "TRACE"

/-- The detail of a level: a log at one level shows the levels of no more detail. -/
def detail : Level → Nat
  | error => 1
  | warn => 2
  | info => 3
  | debug => 4
  | trace => 5

/-- The level with a name in lowercase, or no level for `off`. -/
def ofSetting? (setting : String) : Option (Option Level) :=
  if setting = "off" then some none
  else if setting = "error" then some (some error)
  else if setting = "warn" then some (some warn)
  else if setting = "info" then some (some info)
  else if setting = "debug" then some (some debug)
  else if setting = "trace" then some (some trace)
  else none

end Level

inductive JoinOutcome where
  | added
  | duplicate
deriving DecidableEq, Repr

def JoinOutcome.word : JoinOutcome → String
  | added => "added"
  | duplicate => "duplicate"

inductive Event where
  | directive (field : String) (order : Direction)
  | hook (field : String)
  | join (table : String) (outcome : JoinOutcome)
  | patternIgnored (field : String)
  /-- A SELECT was written for a table and a number of directives. -/
  | explained (table : String) (directives : Nat)
deriving DecidableEq, Repr

namespace Event

def level : Event → Level
  | directive .. => .debug
  | hook _ => .debug
  | join .. => .trace
  | patternIgnored _ => .warn
  | explained .. => .debug

def message : Event → String
  | directive .. => "drizzle.sort.directive"
  | hook _ => "drizzle.sort.hook"
  | join .. => "drizzle.sort.join"
  | patternIgnored _ => "drizzle.sort.unsupported_pattern_ignored"
  | explained .. => "explain"

def target : Event → String
  | directive .. => "drizzle_sort_core::directive"
  | hook _ => "drizzle_sort_core::resolver"
  | join .. => "drizzle_sort_core::resolver"
  | patternIgnored _ => "drizzle_sort_core::resolver"
  | explained .. => "drizzle_sort_cli::commands::explain"

/-- The fields of an event as a log shows them. Words of the program's own are quoted. -/
def details : Event → String
  | directive field order => "field=" ++ field ++ " order=" ++ order.word
  | hook field => "field=" ++ field
  | join table outcome => "table=" ++ table ++ " outcome=" ++ Text.quoted outcome.word
  | patternIgnored field => "field=" ++ field
  | explained table directives =>
      "table=" ++ Text.quoted table ++ " directives=" ++ Nat.repr directives

/-- The line of an event in a log, without the time and the line feed that ends it. -/
def logLine (event : Event) : String :=
  event.level.name ++ " " ++ event.target ++ ": " ++ event.message ++ " " ++ event.details

/-- What an event writes to a log: its line and a line feed. A line feed within a field is written
as it is, so that an event may take up several lines. -/
def logText (event : Event) : String := event.logLine ++ "\n"

/-- The first line that an event writes to a log, which begins with the level. -/
def logHead (event : Event) : String :=
  String.ofList (event.logText.toList.takeWhile (· ≠ '\n'))

def logRest (event : Event) : String :=
  String.ofList ((event.logText.toList.dropWhile (· ≠ '\n')).drop 1)

def isShown (limit : Option Level) (event : Event) : Bool :=
  match limit with
  | none => false
  | some limit => event.level.detail ≤ limit.detail

end Event

end PathSort
