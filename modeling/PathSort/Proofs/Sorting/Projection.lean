import PathSort.Proofs.JoinPlan.Grammar
import PathSort.Proofs.Sorting.ClosedForm

/-!
# The projection of a sorted query

A query sorted without handlers has joins exactly when some dotted token was applied, and then it
selects all columns of one table: the first piece of the last such token. So its projection is
confined to the table that is queried exactly when that piece names this table. Nothing compares
the two, so a token that starts at a joined table selects the columns of that table instead.
-/

namespace PathSort

set_option autoImplicit false

inductive SortCall where
  | one (options : SortOptions) (raw : String)
  | all (options : SortOptions) (raws : List String)

namespace SortCall

/-- The query that a use without handlers leaves, whether it succeeds or fails. -/
def leave (query : SelectQuery) : SortCall → SelectQuery
  | one options raw => (options.sort Model.plain raw query).state
  | all options raws => (options.sortAll Model.plain raws query).state

def applied : SortCall → List (Directive × JoinPlan)
  | one options raw => options.applied [raw]
  | all options raws => options.applied raws

def sortedFrom (table : String) (calls : List SortCall) : SelectQuery :=
  calls.foldl leave (SelectQuery.ofTable table)

end SortCall

def Directive.main? (directive : Directive) : Option String :=
  if directive.isDotted then directive.segments.head? else none

def SortCall.lastMain? (calls : List SortCall) : Option String :=
  ((calls.flatMap SortCall.applied).filterMap (·.1.main?)).getLast?

namespace JoinPlan

theorem main_table_of_classified {directive : Directive} {plan : JoinPlan}
    (classified : classify directive.field = .ok plan) : plan.mainTable? = directive.main? := by
  rw [Directive.main?, Directive.isDotted, Directive.segments]
  by_cases dotted : '.' ∈ directive.field.toList
  · rw [if_pos ((Text.is_dotted_iff directive.field).mpr dotted)]
    have spelled := ((classify_dotted_ok_iff dotted plan).mp classified).2
    cases plan with
    | column field => exact spelled.elim
    | normal => rw [spelled]; rfl
    | flipped => rw [spelled]; rfl
    | polymorphic => rw [spelled]; rfl
    | pivot => rw [spelled.1]; rfl
    | pivotFlipped =>
        rcases spelled with ten | ⟨unused, eleven⟩
        · rw [ten]; rfl
        · rw [eleven]; rfl
  · rw [if_neg (mt (Text.is_dotted_iff directive.field).mp dotted)]
    rw [classify_of_dotless dotted] at classified
    cases classified
    rfl

theorem joins_eq_nil_iff (plan : JoinPlan) : plan.joins = [] ↔ plan.mainTable? = none := by
  cases plan <;> simp [joins, mainTable?]

end JoinPlan

namespace SortCall

theorem leave_eq (query : SelectQuery) (call : SortCall) :
    leave query call = ((applyPlans (call.applied.map Directive.step) :
      Run SelectQuery SortError Unit) query).state := by
  cases call with
  | one options raw =>
      rw [leave, SortOptions.sort_state_eq]
      exact options.sort_all_state_eq query [raw]
  | all options raws => exact options.sort_all_state_eq query raws

theorem calls_sorted {query : SelectQuery} (indexed : query.Indexed) (calls : List SortCall) :
    SelectQuery.SortedBy query ((calls.flatMap applied).map Directive.step)
      (calls.foldl leave query) := by
  induction calls generalizing query with
  | nil => exact SelectQuery.sorted_by_nil query
  | cons call rest ih =>
      obtain ⟨reached, events, ended, kept, sorted⟩ :=
        SelectQuery.apply_plans_closed (ε := SortError) indexed (call.applied.map Directive.step)
      have left : leave query call = reached := by
        rw [leave_eq, ended]
      rw [List.flatMap_cons, List.map_append, List.foldl_cons, left]
      exact SelectQuery.sorted_by_trans sorted (ih kept)

theorem classified_of_mem_applied {calls : List SortCall} {entry : Directive × JoinPlan}
    (member : entry ∈ calls.flatMap applied) :
    JoinPlan.classify entry.1.field = .ok entry.2 := by
  obtain ⟨call, _, used⟩ := List.mem_flatMap.mp member
  cases call with
  | one options raw => exact SortOptions.classified_of_mem_applied used
  | all options raws => exact SortOptions.classified_of_mem_applied used

theorem applied_main_tables (calls : List SortCall) :
    ((calls.flatMap applied).map Directive.step).filterMap (·.1.mainTable?) =
      (calls.flatMap applied).filterMap (·.1.main?) := by
  rw [List.filterMap_map]
  apply List.filterMap_congr
  intro entry member
  exact JoinPlan.main_table_of_classified (classified_of_mem_applied member)

theorem sorted_projection (table : String) (calls : List SortCall) :
    (sortedFrom table calls).projection = (lastMain? calls).map (· ++ ".*") := by
  have sorted := calls_sorted (SelectQuery.of_table_indexed table) calls
  have final := sorted.projection_eq
  rw [applied_main_tables] at final
  exact final.trans Option.or_none

theorem sorted_joins_eq_nil_iff (table : String) (calls : List SortCall) :
    (sortedFrom table calls).joins = [] ↔ lastMain? calls = none := by
  have sorted := calls_sorted (SelectQuery.of_table_indexed table) calls
  have final : (sortedFrom table calls).joins =
      keptJoins [] (((calls.flatMap applied).map Directive.step).flatMap (·.1.joins)) :=
    sorted.joins_eq
  rw [final, kept_joins_eq_nil_iff, lastMain?, ← applied_main_tables,
    List.getLast?_eq_none_iff, List.flatMap_eq_nil_iff, List.filterMap_eq_nil_iff]
  simp only [JoinPlan.joins_eq_nil_iff]

/-- The projection of a joined query is confined to the queried table exactly when the last dotted
token that was applied starts at this table; in any case the query is joined and selects all columns
of the table that this token starts at. -/
theorem projection_confined_iff (table : String) (calls : List SortCall) :
    let final := sortedFrom table calls
    ((final.joins ≠ [] → final.columns = table ++ ".*") ↔
      ∀ main, lastMain? calls = some main → main = table) ∧
    ∀ main, lastMain? calls = some main →
      final.joins ≠ [] ∧ final.columns = main ++ ".*" := by
  intro final
  have joined := sorted_joins_eq_nil_iff table calls
  have projected := sorted_projection table calls
  have selected : ∀ main, lastMain? calls = some main →
      final.joins ≠ [] ∧ final.columns = main ++ ".*" := by
    intro main last
    rw [last] at joined projected
    exact ⟨fun empty => Option.some_ne_none main (joined.mp empty), by
      rw [SelectQuery.columns, projected]
      rfl⟩
  refine ⟨⟨?_, ?_⟩, selected⟩
  · intro confined main last
    obtain ⟨some_join, columns⟩ := selected main last
    have same : main ++ ".*" = table ++ ".*" := columns.symm.trans (confined some_join)
    exact (String.append_left_inj ".*").mp same
  · intro starts some_join
    obtain ⟨main, last⟩ := Option.ne_none_iff_exists'.mp (mt joined.mpr some_join)
    rw [(selected main last).2, starts main last]

/-- The second token starts at a table that the first one joins, and selects its columns. -/
theorem joined_columns_selected :
    let final := sortedFrom "posts"
      [.all .standard ["posts.users.author_id.name.flip", "users.roles.user_id.name"]]
    final.targets = ["users", "roles"] ∧ final.columns = "users.*" ∧
      final.columns ≠ "posts" ++ ".*" := by
  decide +kernel

end SortCall

end PathSort
