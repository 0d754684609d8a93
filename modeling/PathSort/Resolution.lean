import PathSort.JoinPlan.Path
import PathSort.Query.Builder
import PathSort.Run

/-!
# Resolving directives

A directive is applied in one of two ways. If the data model has a handler for its field, the
handler takes over completely. Otherwise the field is classified and its plan applied: each join is
made unless its table is joined already, the projection is restricted to the main table, and the
plan's column is ordered by.

Directives that are applied one after another to the same query see each other's joins.
-/

namespace PathSort

set_option autoImplicit false

abbrev Handler (Q : Type) : Type := Direction → Run Q SortError Unit

/-- A data model: for each field, the handler that replaces the resolver, if there is one. -/
abbrev Model (Q : Type) : Type := String → Option (Handler Q)

variable {Q : Type}

def Model.plain : Model Q := fun _ => none

variable [QueryBuilder Q]

/-- Makes a join unless its table is joined already, and reports which. -/
def addJoin {ε : Type} (clause : JoinClause) : Run Q ε Unit := do
  if ← Run.read (QueryBuilder.hasJoin · clause.table) then
    Run.report (.join clause.table .duplicate)
  else
    Run.update (QueryBuilder.leftJoin · clause)
    Run.report (.join clause.table .added)

def addJoins {ε : Type} : List JoinClause → Run Q ε Unit
  | [] => pure ()
  | clause :: rest => do
      addJoin clause
      addJoins rest

def project {ε : Type} : Option String → Run Q ε Unit
  | none => pure ()
  | some columns => Run.update (QueryBuilder.select · columns)

/-- Applies a plan: its joins, then its projection, then its ordering. -/
def applyPlan {ε : Type} (plan : JoinPlan) (order : Direction) : Run Q ε Unit := do
  addJoins plan.joins
  project plan.projection?
  Run.update (QueryBuilder.orderBy · ⟨plan.orderColumn, order⟩)

/-- Applies a directive, asking the model for a handler first. -/
def resolve (model : Model Q) (directive : Directive) : Run Q SortError Unit :=
  match model directive.field with
  | some handler => do
      Run.report (.hook directive.field)
      handler directive.order
  | none => do
      let plan ← Run.ofExcept (JoinPlan.classify directive.field)
      applyPlan plan directive.order

end PathSort
