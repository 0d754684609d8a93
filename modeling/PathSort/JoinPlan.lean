import PathSort.Query.Builder

/-!
# Join plans

A plan says how to reach the column that a field names: directly, or over one, two or three joins
from a main table. What a plan asks of a query are its joins in order, the table that the result
rows are restricted to, and the column to order by. Plans are plain data, so one may be built from
any parts.
-/

namespace PathSort

set_option autoImplicit false

inductive JoinPlan where
  | column (field : String)
  /-- The joined table holds the foreign key: `join.fk = main.id`. -/
  | normal (main join fk sort : String)
  /-- The main table holds the foreign key: `main.fk = join.id`. -/
  | flipped (main join fk sort : String)
  /-- Two hops over an intermediate table, each holding the key of the next. -/
  | polymorphic (main poly polyFk join fk sort : String)
  /-- Many to many over a pivot table. -/
  | pivot (main join fk sort pivotTable localKey : String)
  /-- Many to many over a pivot table, then a hop to the table that orders. -/
  | pivotFlipped (main join fk pivotTable localKey join2 fk2 sort2 : String)
deriving DecidableEq, Repr

namespace JoinPlan

/-- The column that every joined table is assumed to be keyed by. -/
def key : String := "id"

def qualify (table column : String) : String := table ++ "." ++ column

def joinOn (table first second : String) : JoinClause := ⟨table, first, JoinClause.equals, second⟩

def name : JoinPlan → String
  | column _ => "column"
  | normal .. => "normal"
  | flipped .. => "flipped"
  | polymorphic .. => "polymorphic"
  | pivot .. => "pivot"
  | pivotFlipped .. => "pivot-flipped"

/-- The table that the result rows are restricted to. A plain column restricts nothing. -/
def mainTable? : JoinPlan → Option String
  | column _ => none
  | normal main .. => some main
  | flipped main .. => some main
  | polymorphic main .. => some main
  | pivot main .. => some main
  | pivotFlipped main .. => some main

/-- The column to order by, qualified by the table that the plan ends at. -/
def orderColumn : JoinPlan → String
  | column field => field
  | normal _ join _ sort => qualify join sort
  | flipped _ join _ sort => qualify join sort
  | polymorphic _ _ _ join _ sort => qualify join sort
  | pivot _ join _ sort _ _ => qualify join sort
  | pivotFlipped _ _ _ _ _ join2 _ sort2 => qualify join2 sort2

/-- The joins that the plan needs, in the order in which they are made. -/
def joins : JoinPlan → List JoinClause
  | column _ => []
  | normal main join fk _ => [joinOn join (qualify join fk) (qualify main key)]
  | flipped main join fk _ => [joinOn join (qualify main fk) (qualify join key)]
  | polymorphic main poly polyFk join fk _ =>
      [ joinOn poly (qualify main polyFk) (qualify poly key),
        joinOn join (qualify poly fk) (qualify join key) ]
  | pivot main join fk _ pivotTable localKey =>
      [ joinOn pivotTable (qualify pivotTable localKey) (qualify main key),
        joinOn join (qualify pivotTable fk) (qualify join key) ]
  | pivotFlipped main join fk pivotTable localKey join2 fk2 _ =>
      [ joinOn pivotTable (qualify pivotTable localKey) (qualify main key),
        joinOn join (qualify pivotTable fk) (qualify join key),
        joinOn join2 (qualify join2 key) (qualify join fk2) ]

def projection? (plan : JoinPlan) : Option String := plan.mainTable?.map (· ++ ".*")

end JoinPlan

end PathSort
