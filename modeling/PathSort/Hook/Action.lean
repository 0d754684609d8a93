import PathSort.Hook.Script

/-!
# Handler actions

The plainest handlers are lists of actions that are carried out in order for the direction that is
asked for. The first action that fails ends the handler.
-/

namespace PathSort

set_option autoImplicit false

inductive ActionOrder where
  | given
  | reversed
  | always (direction : Direction)
deriving DecidableEq, Repr

def ActionOrder.resolve (asked : Direction) : ActionOrder → Direction
  | given => asked
  | reversed => asked.reverse
  | always direction => direction

/-- One step of a handler that needs no decisions. -/
inductive HookAction where
  | orderBy (column : String) (order : ActionOrder)
  | leftJoin (clause : JoinClause)
  | select (columns : String)
  | apply (field : String)
  /-- Sorts by a token that falls back to the direction asked for. -/
  | sort (raw : String)
  | fail (error : SortError)
deriving DecidableEq, Repr

namespace HookAction

def before (asked : Direction) (next : Script) : HookAction → Script
  | orderBy column order => .call (.orderBy ⟨column, order.resolve asked⟩) next
  | leftJoin clause => .call (.leftJoin clause) next
  | select columns => .call (.select columns) next
  | apply field =>
      match Directive.make field asked with
      | .ok directive => .apply .standard directive (Script.orFail next)
      | .error error => .fail error
  | sort raw => .sort ⟨asked, .error⟩ raw (Script.orFail next)
  | fail error => .fail error

def script (actions : List HookAction) (asked : Direction) : Script :=
  actions.foldr (fun action next => action.before asked next) .done

end HookAction

end PathSort
