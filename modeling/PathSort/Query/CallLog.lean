import PathSort.Query.Builder

/-!
# Calls on a query

What is done to a query is a list of calls, and calls can be made on any query type. A query builder
that builds nothing keeps the calls made on it. Tables joined before such a log started count as
joined.
-/

namespace PathSort

set_option autoImplicit false

inductive QueryCall where
  | orderBy (term : OrderTerm)
  | leftJoin (clause : JoinClause)
  | select (columns : String)
deriving DecidableEq, Repr

namespace QueryCall

def on {Q : Type} [QueryBuilder Q] (query : Q) : QueryCall → Q
  | orderBy term => QueryBuilder.orderBy query term
  | leftJoin clause => QueryBuilder.leftJoin query clause
  | select columns => QueryBuilder.select query columns

def target? : QueryCall → Option String
  | leftJoin clause => some clause.table
  | _ => none

def replay {Q : Type} [QueryBuilder Q] (query : Q) (calls : List QueryCall) : Q :=
  calls.foldl on query

end QueryCall

structure CallLog where
  /-- Tables that were joined before the first call. -/
  preset : List String
  calls : List QueryCall
deriving DecidableEq, Repr

namespace CallLog

def start (preset : List String) : CallLog := ⟨preset, []⟩

def record (log : CallLog) (call : QueryCall) : CallLog :=
  { log with calls := log.calls ++ [call] }

instance : QueryBuilder CallLog where
  orderBy log term := log.record (.orderBy term)
  leftJoin log clause := log.record (.leftJoin clause)
  select log columns := log.record (.select columns)
  joinedTables log := log.preset ++ log.calls.filterMap QueryCall.target?

end CallLog

end PathSort
