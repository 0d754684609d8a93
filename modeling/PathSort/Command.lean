import PathSort.Query.Select
import PathSort.Report.PlanReport
import PathSort.Settings

/-!
# Commands

Two commands show what a list of tokens resolves to under given settings. `plan` reports on each
token by itself. `explain` applies them all to a query over the base table and writes the SELECT,
which needs a table.
-/

namespace PathSort

set_option autoImplicit false

inductive CommandError where
  | settings (error : Settings.LoadError)
  | sort (error : SortError)
  | missingTable
deriving DecidableEq, Repr

def CommandError.message : CommandError → String
  | settings error => "Configuration error: " ++ error.message
  | sort error => error.message
  | missingTable => "No table given: pass --table or set `table` in the config file"

namespace Settings

def plan (settings : Settings) (palette : Report.Palette) (raws : List String) :
    Run Unit CommandError String := do
  let lines ← (Report.lines settings.options raws).mapError CommandError.sort
  pure (Report.text palette lines)

def selectFrom (settings : Settings) (table : String) (raws : List String) :
    Run SelectQuery SortError String := do
  let directives ← settings.options.sortAll Model.plain raws
  Run.report (.explained table directives.length)
  Run.read SelectQuery.sql

def explain (settings : Settings) (raws : List String) : Run Unit CommandError String :=
  match settings.table with
  | none => Run.fail .missingTable
  | some table => fun _ =>
      let outcome := (settings.selectFrom table raws).mapError CommandError.sort (.ofTable table)
      ⟨(), outcome.events, outcome.result⟩

end Settings

end PathSort
