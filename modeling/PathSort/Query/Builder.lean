import PathSort.Direction

/-!
# Queries that can be sorted

Sorting adds two clauses to a query, each with its SQL text. Directives are applied to whatever
query type the host application uses. Such a type says how to add an ORDER BY term, how to add a
join, how to replace the projection, and which tables are joined. Asking for one joined table has a
default answer that searches the list; a type may answer from an index of its own. -/

namespace PathSort

set_option autoImplicit false

structure JoinClause where
  table : String
  first : String
  operator : String
  second : String
deriving DecidableEq, Repr

structure OrderTerm where
  column : String
  direction : Direction
deriving DecidableEq, Repr

/-- The comparison that every join of a plan uses. -/
def JoinClause.equals : String := "="

def JoinClause.sql (clause : JoinClause) : String :=
  "LEFT JOIN " ++ clause.table ++ " ON " ++ clause.first ++ " " ++ clause.operator ++ " " ++
    clause.second

def OrderTerm.sql (term : OrderTerm) : String := term.column ++ " " ++ term.direction.keyword

class QueryBuilder (Q : Type) where
  orderBy : Q → OrderTerm → Q
  leftJoin : Q → JoinClause → Q
  select : Q → String → Q
  /-- The target tables of the joins, in order and with repeats. -/
  joinedTables : Q → List String
  /-- Whether a table is the target of a join. -/
  hasJoin : Q → String → Bool := fun query table => (joinedTables query).contains table

end PathSort
