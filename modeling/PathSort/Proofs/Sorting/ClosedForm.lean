import Mathlib.Data.List.Forall2
import PathSort.Proofs.Resolution.AppliedPlans
import PathSort.Proofs.Sorting.Tokens

/-!
# What a run of tokens comes to

Without handlers a run of tokens leaves what applying the plans of its applied tokens leaves. A
token is applied when it can be read and its field spells a plan, and neither it nor an earlier
token ended the run. If every token is applied, the run returns all directives and the query has the
closed form of the applied plans. -/

namespace PathSort

set_option autoImplicit false

def Directive.step (entry : Directive × JoinPlan) : JoinPlan × Direction :=
  (entry.2, entry.1.order)

namespace SortOptions

/-- The directives of a run that are applied, with their plans, when no field has a handler. A token
that cannot be read ends the run, and so does a field that spells no plan unless it is ignored. -/
def applied (options : SortOptions) : List String → List (Directive × JoinPlan)
  | [] => []
  | raw :: rest =>
      match options.reading raw with
      | .malformed _ => []
      | .refused _ _ => []
      | .skipped _ => options.applied rest
      | .planned directive plan => (directive, plan) :: options.applied rest

theorem planned_of_mem_applied {options : SortOptions} {raws : List String}
    {entry : Directive × JoinPlan} (member : entry ∈ options.applied raws) :
    ∃ raw ∈ raws, options.Planned raw entry := by
  induction raws with
  | nil => cases member
  | cons raw rest ih =>
      have behind : entry ∈ options.applied rest → ∃ token ∈ raw :: rest,
          options.Planned token entry := by
        intro later
        obtain ⟨token, listed, planned⟩ := ih later
        exact ⟨token, List.mem_cons_of_mem raw listed, planned⟩
      cases reading : options.reading raw with
      | malformed error => simp [applied, reading] at member
      | refused directive error => simp [applied, reading] at member
      | skipped directive =>
          simp only [applied, reading] at member
          exact behind member
      | planned directive plan =>
          simp only [applied, reading] at member
          rcases List.mem_cons.mp member with rfl | later
          · exact ⟨raw, List.mem_cons_self, reading_planned_iff.mp reading⟩
          · exact behind later

theorem classified_of_mem_applied {options : SortOptions} {raws : List String}
    {entry : Directive × JoinPlan} (member : entry ∈ options.applied raws) :
    JoinPlan.classify entry.1.field = .ok entry.2 := by
  obtain ⟨raw, -, -, classified⟩ := planned_of_mem_applied member
  exact classified

/-- A run without handlers changes the query by its applied plans alone, even if it fails. -/
theorem sort_all_state_eq {Q : Type} [QueryBuilder Q] (options : SortOptions) (query : Q)
    (raws : List String) :
    (options.sortAll Model.plain raws query).state =
      ((applyPlans ((options.applied raws).map Directive.step) : Run Q SortError Unit)
        query).state := by
  induction raws generalizing query with
  | nil => rfl
  | cons raw rest ih =>
      cases reading : options.reading raw with
      | malformed error =>
          rw [sort_all_of_failed_head rest (sort_of_malformed (reading_malformed_iff.mp reading))]
          simp only [applied, reading]
          rfl
      | refused directive error =>
          rw [sort_all_of_failed_head rest (sort_of_refused rfl reading)]
          simp only [applied, reading]
          rfl
      | skipped directive =>
          rw [sort_all_of_sorted_head rest (sort_of_skipped rfl reading query)]
          simp only [applied, reading]
          exact ih query
      | planned directive plan =>
          obtain ⟨reached, events, ended, sorted⟩ :=
            sort_of_planned (plain_unhandled directive) reading query
          rw [sort_all_of_sorted_head rest sorted]
          simp only [applied, reading]
          rw [List.map_cons, Directive.step, applyPlans, Run.bind_of_ok ended]
          exact ih reached

/-- On a query whose index is right, a run leaves the closed form of its applied plans. -/
theorem sort_all_sorted {query : SelectQuery} (indexed : query.Indexed) (options : SortOptions)
    (raws : List String) :
    SelectQuery.SortedBy query ((options.applied raws).map Directive.step)
      (options.sortAll Model.plain raws query).state := by
  obtain ⟨final, events, ended, -, sorted⟩ := SelectQuery.apply_plans_closed (ε := SortError)
    indexed ((options.applied raws).map Directive.step)
  rw [sort_all_state_eq, ended]
  exact sorted

theorem applied_of_planned {options : SortOptions} {raws : List String}
    {entries : List (Directive × JoinPlan)}
    (planned : List.Forall₂ options.Planned raws entries) : options.applied raws = entries := by
  induction planned with
  | nil => rfl
  | cons head rest ih => simp only [applied, reading_planned_iff.mpr head, ih]

theorem sort_all_result_of_planned {Q : Type} [QueryBuilder Q] {options : SortOptions}
    {raws : List String} {entries : List (Directive × JoinPlan)}
    (planned : List.Forall₂ options.Planned raws entries) (query : Q) :
    (options.sortAll Model.plain raws query).result = .ok (entries.map Prod.fst) := by
  induction planned generalizing query with
  | nil => rfl
  | @cons raw entry others entries head rest ih =>
      obtain ⟨reached, events, -, sorted⟩ :=
        sort_of_planned (plain_unhandled entry.1) (reading_planned_iff.mpr head) query
      rw [sort_all_of_sorted_head others sorted, ih reached]
      rfl

end SortOptions

namespace SelectQuery

/-- A run of tokens that can all be read and classified returns their directives, and leaves the
query that the plans in a row make of it. Applying any plans in a row leaves the same form, whether
a path spells them or not. -/
theorem sort_all_closed_form (table : String) (calls : List QueryCall) :
    let start := QueryCall.replay (ofTable table) calls
    (∀ (options : SortOptions) (raws : List String) (entries : List (Directive × JoinPlan)),
      List.Forall₂ options.Planned raws entries →
        (options.sortAll Model.plain raws start).result = .ok (entries.map Prod.fst) ∧
        SortedBy start (entries.map Directive.step)
          (options.sortAll Model.plain raws start).state) ∧
    ∀ steps : List (JoinPlan × Direction),
      ((applyPlans steps : Run SelectQuery SortError Unit) start).result = .ok () ∧
      SortedBy start steps ((applyPlans steps : Run SelectQuery SortError Unit) start).state := by
  intro start
  have indexed : start.Indexed := replay_indexed (of_table_indexed table) calls
  have closed : ∀ steps : List (JoinPlan × Direction),
      ((applyPlans steps : Run SelectQuery SortError Unit) start).result = .ok () ∧
      SortedBy start steps ((applyPlans steps : Run SelectQuery SortError Unit) start).state := by
    intro steps
    obtain ⟨final, events, ended, _, sorted⟩ := apply_plans_closed (ε := SortError) indexed steps
    rw [ended]
    exact ⟨rfl, sorted⟩
  refine ⟨?_, closed⟩
  intro options raws entries planned
  refine ⟨SortOptions.sort_all_result_of_planned planned start, ?_⟩
  rw [SortOptions.sort_all_state_eq, SortOptions.applied_of_planned planned]
  exact (closed _).2

/-- The pivot table is joined beforehand, the first plan is needed twice, and a plain column stands
between. -/
theorem sort_all_closed_form_shared :
    let start := QueryCall.replay (ofTable "users")
      [.leftJoin ⟨"role_user", "role_user.user_id", "=", "users.id"⟩]
    let options : SortOptions := ⟨.desc, .error⟩
    let raws := ["users.roles.role_id.name.pivot.role_user.user_id", " id,asc\n",
      "users.roles.role_id.slug.pivot.role_user.user_id,asc"]
    let entries : List (Directive × JoinPlan) :=
      [ (⟨"users.roles.role_id.name.pivot.role_user.user_id", .desc, by decide⟩,
          .pivot "users" "roles" "role_id" "name" "role_user" "user_id"),
        (⟨"id", .asc, by decide⟩, .column "id"),
        (⟨"users.roles.role_id.slug.pivot.role_user.user_id", .asc, by decide⟩,
          .pivot "users" "roles" "role_id" "slug" "role_user" "user_id") ]
    List.Forall₂ options.Planned raws entries ∧
    (options.sortAll Model.plain raws start).result = .ok (entries.map Prod.fst) ∧
    SortedBy start (entries.map Directive.step)
      (options.sortAll Model.plain raws start).state ∧
    (options.sortAll Model.plain raws start).state.targets = ["role_user", "roles"] ∧
    (options.sortAll Model.plain raws start).state.projection = some "users.*" ∧
    (options.sortAll Model.plain raws start).state.sql =
      "SELECT users.* FROM users LEFT JOIN role_user ON role_user.user_id = users.id " ++
        "LEFT JOIN roles ON role_user.role_id = roles.id " ++
        "ORDER BY roles.name DESC, id ASC, roles.slug ASC" := by
  intro start options raws entries
  have planned : List.Forall₂ options.Planned raws entries := by
    refine .cons ⟨?_, ?_⟩ (.cons ⟨?_, ?_⟩ (.cons ⟨?_, ?_⟩ .nil)) <;> decide +kernel
  have closed := (sort_all_closed_form "users"
    [.leftJoin ⟨"role_user", "role_user.user_id", "=", "users.id"⟩]).1 options raws entries planned
  have joined : (options.sortAll Model.plain raws start).state.targets =
      ["role_user", "roles"] := by
    rw [targets, closed.2.joins_eq]
    decide +kernel
  have selected : (options.sortAll Model.plain raws start).state.projection = some "users.*" := by
    rw [closed.2.projection_eq]
    decide +kernel
  refine ⟨planned, closed.1, closed.2, joined, selected, ?_⟩
  rw [sql, columns, selected, closed.2.table_eq, closed.2.joins_eq, closed.2.order_eq]
  decide +kernel

end SelectQuery

end PathSort
