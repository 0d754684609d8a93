import PathSort.Query.CallLog
import PathSort.Sorting

/-!
# Handler scripts

A handler that is written against the query operations alone is a script: it changes the query, asks
about its joins, applies further directives or tokens without any model, and ends or fails. What it
does next may depend on every answer. One script acts alike on every query type.
-/

namespace PathSort

set_option autoImplicit false

inductive Script where
  | done
  | fail (error : SortError)
  | call (made : QueryCall) (next : Script)
  | askJoin (table : String) (next : Bool → Script)
  | askTables (next : List String → Script)
  /-- Applies a directive under some options, and goes on with its result. -/
  | apply (options : SortOptions) (directive : Directive)
      (next : Except SortError Unit → Script)
  /-- Sorts by a token under some options, and goes on with its result. -/
  | sort (options : SortOptions) (raw : String) (next : Except SortError Directive → Script)

namespace Script

/-- Goes on with a script after a success, and fails with an error. -/
def orFail {α : Type} (next : Script) : Except SortError α → Script
  | .ok _ => next
  | .error error => .fail error

variable {Q : Type} [QueryBuilder Q]

def run : Script → Run Q SortError Unit
  | done => pure ()
  | fail error => Run.fail error
  | call made next => do
      Run.update (made.on ·)
      next.run
  | askJoin table next => do
      let answer ← Run.read (QueryBuilder.hasJoin · table)
      (next answer).run
  | askTables next => do
      let answer ← Run.read QueryBuilder.joinedTables
      (next answer).run
  | apply options directive next => do
      let result ← (options.apply Model.plain directive).attempt
      (next result).run
  | sort options raw next => do
      let result ← (options.sort Model.plain raw).attempt
      (next result).run

end Script

end PathSort
