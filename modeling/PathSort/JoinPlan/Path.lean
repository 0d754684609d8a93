import PathSort.Directive
import PathSort.JoinPlan

/-!
# Paths

A field is the spelling of a join plan. Without a dot it is a column. Otherwise the number of its
pieces and the markers `pivot` and `flip` at fixed places tell the shape:

* `main.join.fk.sort`
* `main.join.fk.sort.flip`
* `main.poly.poly_fk.join.fk.sort.flip`
* `main.join.fk.sort.pivot.table.local_key`
* `main.join.fk.sort.pivot.table.local_key.join2.fk2.flip`
* `main.join.fk._.pivot.table.local_key.join2.fk2.sort2.flip`

Seven pieces ending in `flip` are polymorphic even when `pivot` stands fifth. The ten-piece form
orders the last table by the fourth piece; the eleven-piece form names that column on its own and
leaves the fourth piece unused. No piece may be empty.
-/

namespace PathSort.JoinPlan

set_option autoImplicit false

def pivotMark : String := "pivot"

def flipMark : String := "flip"

/-- The plan that the pieces of a dotted path spell. -/
def ofSegments? : List String → Option JoinPlan
  | [main, join, fk, sort] => some (.normal main join fk sort)
  | [main, join, fk, sort, mark] =>
      if mark = flipMark then some (.flipped main join fk sort) else none
  | [s0, s1, s2, s3, s4, s5, s6] =>
      if s6 = flipMark then some (.polymorphic s0 s1 s2 s3 s4 s5)
      else if s4 = pivotMark then some (.pivot s0 s1 s2 s3 s5 s6)
      else none
  | [main, join, fk, sort, mark, pivotTable, localKey, join2, fk2, last] =>
      if mark = pivotMark ∧ last = flipMark then
        some (.pivotFlipped main join fk pivotTable localKey join2 fk2 sort)
      else none
  | [main, join, fk, _, mark, pivotTable, localKey, join2, fk2, sort2, last] =>
      if mark = pivotMark ∧ last = flipMark then
        some (.pivotFlipped main join fk pivotTable localKey join2 fk2 sort2)
      else none
  | _ => none

def unsupported (field : String) : SortError :=
  .unsupportedJoinPattern field (Text.segments field).length

def classify (field : String) : Except SortError JoinPlan :=
  if Text.isDotted field then
    let segments := Text.segments field
    if segments.contains "" then .error (unsupported field)
    else
      match ofSegments? segments with
      | some plan => .ok plan
      | none => .error (unsupported field)
  else .ok (.column field)

end PathSort.JoinPlan
