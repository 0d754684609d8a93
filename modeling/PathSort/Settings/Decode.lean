import PathSort.Settings

/-!
# Settings from structured values

A settings file and a JSON document hold structured values: texts, numbers, lists and tables.
Numbers and dates are kept as they were spelled, since no setting is a number or a date.

Sort options are two entries of a table, each a word. An entry that is missing takes its standard
value, and entries of other names are passed over. A word may also be given as a table whose only
key is the word and whose value is empty: JSON writes empty as null, TOML as a table without
entries. JSON may list the options by position instead, as many as are given.
-/

namespace PathSort.Settings

set_option autoImplicit false

inductive Value where
  | null
  | boolean (value : Bool)
  | number (spelling : String)
  | moment (spelling : String)
  | text (text : String)
  | list (items : List Value)
  /-- The entries are in order, each key once. -/
  | table (entries : List (String × Value))
deriving Repr, Inhabited

def Value.entry? (entries : List (String × Value)) (key : String) : Option Value :=
  (entries.find? (·.1 = key)).map Prod.snd

inductive Format where
  | json
  | toml
deriving DecidableEq, Repr

/-- Whether a value is the format's way to say that nothing follows a word. -/
def Format.isEmpty : Format → Value → Bool
  | json, .null => true
  | toml, .table [] => true
  | _, _ => false

namespace Value

def word? (format : Format) : Value → Option String
  | text word => some word
  | table [(word, rest)] => if format.isEmpty rest then some word else none
  | _ => none

def direction? (format : Format) (value : Value) : Option Direction :=
  (value.word? format).bind Direction.ofWord?

def policy? (format : Format) (value : Value) : Option UnsupportedPolicy :=
  (value.word? format).bind UnsupportedPolicy.ofWord?

end Value

def defaultOrderKey : String := "default-order"

def unsupportedKey : String := "unsupported"

def tableKey : String := "table"

/-- Options from values for each of them. A value that is not given is standard, and one that names
nothing spoils the whole. -/
def options? (format : Format) (order policy : Option Value) : Option SortOptions := do
  let order ← match order with
    | none => some SortOptions.standard.defaultOrder
    | some value => value.direction? format
  let policy ← match policy with
    | none => some SortOptions.standard.unsupported
    | some value => value.policy? format
  some ⟨order, policy⟩

def optionsOfEntries? (format : Format) (entries : List (String × Value)) : Option SortOptions :=
  options? format (Value.entry? entries defaultOrderKey) (Value.entry? entries unsupportedKey)

def optionsOfJson? : Value → Option SortOptions
  | .table entries => optionsOfEntries? .json entries
  | .list [] => options? .json none none
  | .list [order] => options? .json (some order) none
  | .list [order, policy] => options? .json (some order) (some policy)
  | _ => none

def optionEntries (options : SortOptions) : List (String × String) :=
  [(defaultOrderKey, options.defaultOrder.word), (unsupportedKey, options.unsupported.word)]

def ofEntries? (entries : List (String × Value)) : Option Settings := do
  let table ← match Value.entry? entries tableKey with
    | none => some none
    | some (.text table) => some (some table)
    | some _ => none
  some ⟨table, ← optionsOfEntries? .toml entries⟩

end PathSort.Settings
