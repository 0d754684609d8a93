import PathSort.Proofs.Query.KeptJoins
import PathSort.Proofs.Query.Replay
import PathSort.Resolution

/-!
# Applied plans

Applying a plan to a SELECT query never fails and comes to a list of calls: those joins of the plan
that bring a new table, the projection if the plan has a main table, and the ORDER BY term. It
reports every join that the plan asks for, as added or as a duplicate, and those reported as added
are the joins that the calls make.

Over a list of plans this gives a closed form. The joins of all plans are strung together and those
that bring a new table are appended, the ordering gains one term for each plan, and the last plan
that is no plain column sets the projection. One plan has this form, and two forms in turn make the
form of the joined list of plans.
-/

namespace PathSort

set_option autoImplicit false

section Builders

variable {Q : Type} [QueryBuilder Q] {ε : Type}

theorem add_join_of_present {query : Q} {clause : JoinClause}
    (present : QueryBuilder.hasJoin query clause.table = true) :
    (addJoin clause : Run Q ε Unit) query =
      ⟨query, [.join clause.table .duplicate], .ok ()⟩ := by
  have asked : (Run.read (QueryBuilder.hasJoin · clause.table) : Run Q ε Bool) query =
      ⟨query, [], .ok true⟩ := by
    rw [Run.read, present]
  rw [addJoin, Run.bind_of_ok asked]
  rfl

theorem add_join_of_absent {query : Q} {clause : JoinClause}
    (absent : QueryBuilder.hasJoin query clause.table = false) :
    (addJoin clause : Run Q ε Unit) query =
      ⟨QueryBuilder.leftJoin query clause, [.join clause.table .added], .ok ()⟩ := by
  have asked : (Run.read (QueryBuilder.hasJoin · clause.table) : Run Q ε Bool) query =
      ⟨query, [], .ok false⟩ := by
    rw [Run.read, absent]
  rw [addJoin, Run.bind_of_ok asked]
  rfl

theorem add_joins_ends (query : Q) (clauses : List JoinClause) :
    ∃ reached events, (addJoins clauses : Run Q ε Unit) query = ⟨reached, events, .ok ()⟩ := by
  induction clauses generalizing query with
  | nil => exact ⟨query, [], rfl⟩
  | cons clause rest ih =>
      rw [addJoins]
      cases answer : QueryBuilder.hasJoin query clause.table with
      | false =>
          obtain ⟨reached, events, ended⟩ := ih (QueryBuilder.leftJoin query clause)
          rw [Run.bind_of_ok (add_join_of_absent answer), ended]
          exact ⟨reached, _, rfl⟩
      | true =>
          obtain ⟨reached, events, ended⟩ := ih query
          rw [Run.bind_of_ok (add_join_of_present answer), ended]
          exact ⟨reached, _, rfl⟩

theorem apply_plan_ends (query : Q) (plan : JoinPlan) (order : Direction) :
    ∃ reached events, (applyPlan plan order : Run Q ε Unit) query =
      ⟨reached, events, .ok ()⟩ := by
  obtain ⟨joined, events, ended⟩ := add_joins_ends (ε := ε) query plan.joins
  rw [applyPlan, Run.bind_of_ok ended]
  cases plan.projection? with
  | none => exact ⟨_, _, rfl⟩
  | some columns => exact ⟨_, _, rfl⟩

def applyPlans : List (JoinPlan × Direction) → Run Q ε Unit
  | [] => pure ()
  | (plan, order) :: rest => do
      applyPlan plan order
      applyPlans rest

end Builders

/-- Joins that are asked for one after another, each with what becomes of it. -/
abbrev AskedJoins : Type := List (JoinClause × JoinOutcome)

namespace AskedJoins

def of (joined : List String) : List JoinClause → AskedJoins
  | [] => []
  | clause :: rest =>
      (clause, if clause.table ∈ joined then .duplicate else .added) ::
        of (joined.insert clause.table) rest

def events (asked : AskedJoins) : List Event := asked.map fun entry => .join entry.1.table entry.2

def added (asked : AskedJoins) : List JoinClause := (asked.filter (·.2 = .added)).map Prod.fst

def tablesAfter (joined : List String) (asked : AskedJoins) : List String :=
  asked.foldl (fun tables entry => tables.insert entry.1.table) joined

section Asking

variable {joined : List String} {clause : JoinClause}

theorem of_present (present : clause.table ∈ joined) (rest : List JoinClause) :
    of joined (clause :: rest) = (clause, .duplicate) :: of joined rest := by
  rw [of, if_pos present, List.insert_of_mem present]

theorem of_absent (absent : clause.table ∉ joined) (rest : List JoinClause) :
    of joined (clause :: rest) = (clause, .added) :: of (joined.insert clause.table) rest := by
  rw [of, if_neg absent]

/-- The joins that are added are those that bring a new table. -/
theorem added_of (joined : List String) (clauses : List JoinClause) :
    (of joined clauses).added = keptJoins joined clauses := by
  induction clauses generalizing joined with
  | nil => rfl
  | cons clause rest ih =>
      rw [kept_joins_cons]
      by_cases present : clause.table ∈ joined
      · rw [of_present present, if_pos present, List.nil_append, kept_joins_of_present present]
        exact ih joined
      · rw [of_absent present, if_neg present, ← kept_joins_insert]
        exact congrArg (clause :: ·) (ih _)

/-- A join that is a duplicate leaves the joined tables as they are. -/
theorem tables_after_of (joined : List String) (clauses : List JoinClause) :
    tablesAfter joined (of joined clauses) =
      (keptJoins joined clauses).foldl (fun tables clause => tables.insert clause.table) joined := by
  induction clauses generalizing joined with
  | nil => rfl
  | cons clause rest ih =>
      rw [kept_joins_cons]
      by_cases present : clause.table ∈ joined
      · rw [of_present present, if_pos present, List.nil_append, kept_joins_of_present present,
          ← ih joined, tablesAfter, List.foldl_cons, List.insert_of_mem present]
        rfl
      · rw [of_absent present, if_neg present, ← kept_joins_insert, List.singleton_append,
          List.foldl_cons, ← ih]
        rfl

end Asking

end AskedJoins

def JoinPlan.calls (joined : List String) (plan : JoinPlan) (order : Direction) :
    List QueryCall :=
  (keptJoins joined plan.joins).map .leftJoin ++ plan.projection?.toList.map .select ++
    [.orderBy ⟨plan.orderColumn, order⟩]

section PlanCalls

variable (joined : List String) (plan : JoinPlan) (order : Direction)

theorem plan_calls_clauses :
    (plan.calls joined order).filterMap QueryCall.clause? = keptJoins joined plan.joins := by
  simp [JoinPlan.calls, QueryCall.clause?, Function.comp_def]

theorem plan_calls_terms :
    (plan.calls joined order).filterMap QueryCall.term? = [⟨plan.orderColumn, order⟩] := by
  simp [JoinPlan.calls, QueryCall.term?, Function.comp_def]

theorem plan_calls_columns :
    (plan.calls joined order).filterMap QueryCall.columns? = plan.projection?.toList := by
  simp [JoinPlan.calls, QueryCall.columns?, Function.comp_def]

end PlanCalls

/-- The plan joins tables, and the table is the one that its joins begin at. -/
inductive JoinPlan.StartsAt : JoinPlan → String → Prop
  | normal (main join fk sort : String) : StartsAt (.normal main join fk sort) main
  | flipped (main join fk sort : String) : StartsAt (.flipped main join fk sort) main
  | polymorphic (main poly polyFk join fk sort : String) :
      StartsAt (.polymorphic main poly polyFk join fk sort) main
  | pivot (main join fk sort pivotTable localKey : String) :
      StartsAt (.pivot main join fk sort pivotTable localKey) main
  | pivotFlipped (main join fk pivotTable localKey join2 fk2 sort2 : String) :
      StartsAt (.pivotFlipped main join fk pivotTable localKey join2 fk2 sort2) main

theorem starts_at_iff {plan : JoinPlan} {main : String} :
    plan.StartsAt main ↔ plan.mainTable? = some main := by
  constructor
  · intro starts
    cases starts <;> rfl
  · intro restricted
    cases plan with
    | column field => cases restricted
    | _ =>
        cases restricted
        constructor

theorem main_table_eq_none_iff {plan : JoinPlan} :
    plan.mainTable? = none ↔ ∃ field, plan = .column field := by
  cases plan <;> simp [JoinPlan.mainTable?]

/-- The projection that plans in a row leave, where there was one before. Plain columns leave it as
it is. Otherwise the last plan that is no plain column selects all columns of the table that it
starts at. -/
inductive Projected (before : Option String) : List JoinPlan → Option String → Prop
  | kept {plans : List JoinPlan} (plain : ∀ plan ∈ plans, ∃ field, plan = .column field) :
      Projected before plans before
  | restricted (earlier : List JoinPlan) {later : List JoinPlan} {plan : JoinPlan} {main : String}
      (starts : plan.StartsAt main) (plain : ∀ other ∈ later, ∃ field, other = .column field) :
      Projected before (earlier ++ plan :: later) (some (main ++ ".*"))

theorem projected_append {before middle after : Option String} {first second : List JoinPlan}
    (early : Projected before first middle) (late : Projected middle second after) :
    Projected before (first ++ second) after := by
  cases late with
  | kept plain_second =>
      cases early with
      | kept plain_first => exact .kept (List.forall_mem_append.mpr ⟨plain_first, plain_second⟩)
      | restricted earlier starts plain =>
          rw [List.append_assoc, List.cons_append]
          exact .restricted _ starts (List.forall_mem_append.mpr ⟨plain, plain_second⟩)
  | restricted earlier starts plain =>
      rw [← List.append_assoc]
      exact .restricted _ starts plain

theorem projected_plan (before : Option String) (plan : JoinPlan) :
    Projected before [plan] (plan.projection?.or before) := by
  rw [JoinPlan.projection?]
  cases restricted : plan.mainTable? with
  | none => exact .kept (List.forall_mem_singleton.mpr (main_table_eq_none_iff.mp restricted))
  | some main => exact .restricted [] (starts_at_iff.mpr restricted) (List.forall_mem_nil _)

theorem projected_eq {before after : Option String} {plans : List JoinPlan}
    (projected : Projected before plans after) :
    after = ((plans.filterMap JoinPlan.mainTable?).getLast?.map (· ++ ".*")).or before := by
  have no_table : ∀ {others : List JoinPlan}, (∀ plan ∈ others, ∃ field, plan = .column field) →
      others.filterMap JoinPlan.mainTable? = [] := by
    intro others plain
    rw [List.filterMap_eq_nil_iff]
    exact fun plan member => main_table_eq_none_iff.mpr (plain plan member)
  cases projected with
  | kept plain => rw [no_table plain]; rfl
  | restricted earlier starts plain =>
      rw [List.filterMap_append, List.filterMap_cons_some (starts_at_iff.mp starts), no_table plain,
        List.getLast?_append]
      rfl

namespace SelectQuery

variable {ε : Type}

theorem add_joins_eq (query : SelectQuery) (clauses : List JoinClause) :
    (addJoins clauses : Run SelectQuery ε Unit) query =
      ⟨QueryCall.replay query ((keptJoins query.joined clauses).map .leftJoin),
        (AskedJoins.of query.joined clauses).events, .ok ()⟩ := by
  induction clauses generalizing query with
  | nil => rfl
  | cons clause rest ih =>
      rw [addJoins, kept_joins_cons]
      by_cases present : clause.table ∈ query.joined
      · have answer : QueryBuilder.hasJoin query clause.table = true :=
          List.contains_iff_mem.mpr present
        rw [AskedJoins.of_present present, if_pos present, List.nil_append,
          kept_joins_of_present present, Run.bind_of_ok (add_join_of_present answer), ih]
        rfl
      · have answer : QueryBuilder.hasJoin query clause.table = false := by
          rw [← Bool.not_eq_true]
          exact mt List.contains_iff_mem.mp present
        rw [AskedJoins.of_absent present, if_neg present, ← kept_joins_insert,
          Run.bind_of_ok (add_join_of_absent answer), ih]
        rfl

/-- Applying a plan is a list of calls, and reports what becomes of each join that it asks for. -/
theorem apply_plan_eq (query : SelectQuery) (plan : JoinPlan) (order : Direction) :
    (applyPlan plan order : Run SelectQuery ε Unit) query =
      ⟨QueryCall.replay query (plan.calls query.joined order),
        (AskedJoins.of query.joined plan.joins).events, .ok ()⟩ := by
  rw [applyPlan, Run.bind_of_ok (add_joins_eq query plan.joins), JoinPlan.calls,
    QueryCall.replay_append, QueryCall.replay_append]
  cases plan.projection? with
  | none => exact congrArg (Outcome.mk _ · _) (List.append_nil _)
  | some columns => exact congrArg (Outcome.mk _ · _) (List.append_nil _)

/-- What a query has become when plans were applied to it, each in its direction. -/
structure SortedBy (start : SelectQuery) (steps : List (JoinPlan × Direction))
    (final : SelectQuery) : Prop where
  table_eq : final.table = start.table
  joins_eq : final.joins = start.joins ++ keptJoins start.targets (steps.flatMap (·.1.joins))
  operator_eq : ∀ clause ∈ steps.flatMap (·.1.joins), clause.operator = "="
  order_eq : final.orderBy = start.orderBy ++ steps.map fun step => ⟨step.1.orderColumn, step.2⟩
  projected : Projected start.projection (steps.map Prod.fst) final.projection

theorem sorted_by_nil (query : SelectQuery) : SortedBy query [] query where
  table_eq := rfl
  joins_eq := by simp [kept_joins_nil]
  operator_eq := by simp
  order_eq := by simp
  projected := .kept (by simp)

theorem sorted_by_trans {start middle final : SelectQuery}
    {first second : List (JoinPlan × Direction)} (before : SortedBy start first middle)
    (after : SortedBy middle second final) : SortedBy start (first ++ second) final where
  table_eq := after.table_eq.trans before.table_eq
  joins_eq := by
    -- The later plans see the tables of every earlier join, kept or not.
    have seen : ∀ table, table ∈ middle.targets ↔
        table ∈ start.targets ++ (first.flatMap (·.1.joins)).map JoinClause.table := by
      intro table
      rw [targets, before.joins_eq, List.map_append]
      exact mem_kept_tables _ _ table
    rw [after.joins_eq, kept_joins_congr seen, before.joins_eq, List.flatMap_append,
      kept_joins_append, List.append_assoc]
  operator_eq := by
    intro clause member
    rw [List.flatMap_append, List.mem_append] at member
    rcases member with early | late
    · exact before.operator_eq clause early
    · exact after.operator_eq clause late
  order_eq := by
    rw [after.order_eq, before.order_eq, List.map_append, List.append_assoc]
  projected := by
    rw [List.map_append]
    exact projected_append before.projected after.projected

theorem joins_operator (plan : JoinPlan) : ∀ clause ∈ plan.joins, clause.operator = "=" := by
  cases plan <;> simp [JoinPlan.joins, JoinPlan.joinOn, JoinClause.equals]

theorem sorted_by_plan {query : SelectQuery} (indexed : query.Indexed) (plan : JoinPlan)
    (order : Direction) :
    SortedBy query [(plan, order)]
      (QueryCall.replay query (plan.calls query.joined order)) where
  table_eq := replay_table query _
  joins_eq := by
    rw [replay_joins, plan_calls_clauses, List.flatMap_singleton, kept_joins_congr indexed]
  operator_eq := by
    rw [List.flatMap_singleton]
    exact joins_operator plan
  order_eq := by
    rw [replay_order, plan_calls_terms, List.map_singleton]
  projected := by
    have selected : plan.projection?.toList.getLast? = plan.projection? := by
      cases plan.projection? <;> rfl
    rw [replay_projection, plan_calls_columns, selected]
    exact projected_plan query.projection plan

theorem SortedBy.projection_eq {start final : SelectQuery} {steps : List (JoinPlan × Direction)}
    (sorted : SortedBy start steps final) :
    final.projection =
      ((steps.filterMap (·.1.mainTable?)).getLast?.map (· ++ ".*")).or start.projection := by
  rw [projected_eq sorted.projected, List.filterMap_map]
  rfl

theorem apply_plans_closed {query : SelectQuery} (indexed : query.Indexed)
    (steps : List (JoinPlan × Direction)) :
    ∃ final events, (applyPlans steps : Run SelectQuery ε Unit) query =
      ⟨final, events, .ok ()⟩ ∧ final.Indexed ∧ SortedBy query steps final := by
  induction steps generalizing query with
  | nil => exact ⟨query, [], rfl, indexed, sorted_by_nil query⟩
  | cons step rest ih =>
      obtain ⟨plan, order⟩ := step
      obtain ⟨final, late, ended, kept, sorted⟩ := ih (replay_indexed indexed _)
      rw [applyPlans, Run.bind_of_ok (apply_plan_eq query plan order), ended]
      exact ⟨final, _, rfl, kept, sorted_by_trans (sorted_by_plan indexed plan order) sorted⟩

end SelectQuery

end PathSort
