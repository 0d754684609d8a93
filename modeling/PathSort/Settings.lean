import PathSort.Sorting

/-!
# Settings

The base table, if one is set, and the sort options. Flags of the command line go over the settings
of a file one by one. A file that cannot be loaded is an error that names its path as it was given.
-/

namespace PathSort

set_option autoImplicit false

structure Settings where
  table : Option String
  options : SortOptions
deriving DecidableEq, Repr

/-- What the command line sets. A flag that is not given changes nothing. -/
structure Overrides where
  table : Option String
  defaultOrder : Option Direction
  ignoreUnsupported : Bool
deriving DecidableEq, Repr

namespace Settings

def standard : Settings := ⟨none, .standard⟩

def override (settings : Settings) (flags : Overrides) : Settings where
  table := flags.table.or settings.table
  options :=
    { defaultOrder := flags.defaultOrder.getD settings.options.defaultOrder
      unsupported := if flags.ignoreUnsupported then .ignore else settings.options.unsupported }

inductive LoadError where
  | notFound (path : String)
  | unreadable (path reason : String)
  | invalid (path : String)
deriving DecidableEq, Repr

/-- The text shown for an error. An invalid file is named, without the place where it goes wrong. -/
def LoadError.message : LoadError → String
  | notFound path => "config not found: " ++ path
  | unreadable path reason => "failed to read " ++ path ++ ": " ++ reason
  | invalid path => "invalid config " ++ path ++ ":"

end Settings

end PathSort
