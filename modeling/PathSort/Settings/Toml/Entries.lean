import PathSort.Settings.Decode

/-!
# Tables of a TOML document

While a document is read, its tables remember how they came about, because that decides what may be
added to them later. A table is implied when a header names it only on the way to another table, and
it is dotted when a dotted key made it. A header opens an implied table or a new one, never the same
table twice. A dotted key adds to tables that dotted keys made. What a key has been given as a value
is closed.
-/

namespace PathSort.Settings.Toml

set_option autoImplicit false

inductive Origin where
  | implied
  | header
  | dotted
deriving DecidableEq, Repr

inductive Node where
  /-- A value, closed to additions. -/
  | value (value : Value)
  | table (origin : Origin) (entries : List (String × Node))
  /-- A list of tables, the latest first and not empty. -/
  | tables (latest : List (String × Node)) (earlier : List (List (String × Node)))

/-- The keys of a table with what they stand for, in order. -/
abbrev Entries : Type := List (String × Node)

namespace Entries

def find? (entries : Entries) (key : String) : Option Node :=
  (List.find? (·.1 = key) entries).map Prod.snd

/-- Gives a key its meaning, in its place or at the end. -/
def set (entries : Entries) (key : String) (node : Node) : Entries :=
  if (entries.find? key).isSome then
    List.map (fun entry => if entry.1 = key then (key, node) else entry) entries
  else entries ++ [(key, node)]

/-- Changes the entries of the table that a key stands for, if it may be entered on the way to
another. A new key becomes a table of the given origin. -/
def enter (entries : Entries) (created : Origin) (key : String)
    (change : Entries → Option Entries) : Option Entries :=
  match entries.find? key with
  | none => do some (entries.set key (.table created (← change [])))
  | some (.table origin inner) =>
      if created = .dotted ∧ origin = .header then none
      else do some (entries.set key (.table origin (← change inner)))
  | some (.tables latest earlier) => do
      some (entries.set key (.tables (← change latest) earlier))
  | some (.value _) => none

/-- Gives a key a value, once. -/
def define (entries : Entries) (key : String) (value : Value) : Option Entries :=
  if (entries.find? key).isSome then none else some (entries.set key (.value value))

/-- Whether a dotted key may add its last part to what a key stands for. -/
def isExtensible (entries : Entries) (key : String) : Bool :=
  match entries.find? key with
  | none => true
  | some (.table origin _) => origin = .dotted
  | _ => false

def insert (value : Value) : List String → Entries → Option Entries
  | [], _ => none
  | [key], entries => entries.define key value
  | [outer, key], entries =>
      if entries.isExtensible outer then
        entries.enter .dotted outer fun inner => inner.define key value
      else none
  | outer :: path, entries => entries.enter .dotted outer (insert value path)

def openTable : List String → Entries → Option Entries
  | [], _ => none
  | [key], entries =>
      match entries.find? key with
      | none => some (entries.set key (.table .header []))
      | some (.table .implied inner) => some (entries.set key (.table .header inner))
      | some _ => none
  | outer :: path, entries => entries.enter .implied outer (openTable path)

def appendTable : List String → Entries → Option Entries
  | [], _ => none
  | [key], entries =>
      match entries.find? key with
      | none => some (entries.set key (.tables [] []))
      | some (.tables latest earlier) => some (entries.set key (.tables [] (latest :: earlier)))
      | some _ => none
  | outer :: path, entries => entries.enter .implied outer (appendTable path)

/-- Changes the entries of the table that the latest header opened. -/
def changeAt (change : Entries → Option Entries) : List String → Entries → Option Entries
  | [], entries => change entries
  | key :: path, entries => entries.enter .implied key (changeAt change path)

end Entries

mutual

def Node.toValue : Node → Value
  | .value value => value
  | .table _ entries => .table (entryValues entries)
  | .tables latest earlier => .list (tableValues earlier ++ [.table (entryValues latest)])

def entryValues : List (String × Node) → List (String × Value)
  | [] => []
  | (key, node) :: rest => (key, node.toValue) :: entryValues rest

/-- The values of tables that are listed latest first, in order. -/
def tableValues : List (List (String × Node)) → List Value
  | [] => []
  | entries :: rest => tableValues rest ++ [.table (entryValues entries)]

end

end PathSort.Settings.Toml
