import PathSort.Query.Builder

/-!
# SELECT queries

A query over one base table: a projection, joins and ORDER BY terms in the order in which they
were added. Each joined table is also kept once in an index, from which the query answers whether
a table is joined.
-/

namespace PathSort

set_option autoImplicit false

structure SelectQuery where
  table : String
  projection : Option String
  joins : List JoinClause
  /-- Every joined table, once. -/
  joined : List String
  orderBy : List OrderTerm
deriving DecidableEq, Repr

namespace SelectQuery

def ofTable (table : String) : SelectQuery := ⟨table, none, [], [], []⟩

/-- The projected columns: all of them until others are selected. -/
def columns (query : SelectQuery) : String := query.projection.getD "*"

/-- The SQL text of the joins, each after a space. -/
def joinsSql (clauses : List JoinClause) : String := String.join (clauses.map (" " ++ ·.sql))

/-- The SQL text of the ordering, empty without terms. -/
def orderSql : List OrderTerm → String
  | [] => ""
  | terms => " ORDER BY " ++ ", ".intercalate (terms.map OrderTerm.sql)

def render (columns table : String) (joins : List JoinClause) (order : List OrderTerm) : String :=
  "SELECT " ++ columns ++ " FROM " ++ table ++ joinsSql joins ++ orderSql order

def sql (query : SelectQuery) : String :=
  render query.columns query.table query.joins query.orderBy

instance : QueryBuilder SelectQuery where
  orderBy query term := { query with orderBy := query.orderBy ++ [term] }
  leftJoin query clause :=
    { query with
      joins := query.joins ++ [clause]
      joined := query.joined.insert clause.table }
  select query columns := { query with projection := some columns }
  joinedTables query := query.joins.map JoinClause.table
  hasJoin query table := query.joined.contains table

theorem sql_of_table (table : String) : (ofTable table).sql = "SELECT * FROM " ++ table := by
  simp [sql, render, columns, ofTable, joinsSql, orderSql]

end SelectQuery

end PathSort
