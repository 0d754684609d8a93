import PathSort.Proofs.JoinPlan.References
import PathSort.Proofs.Sorting.Projection

/-!
# References in scope

A table is in scope in a query when it is the one queried or is joined. When every dotted token that
is applied starts at a table in scope, everything that the query refers to is in scope: the joins
each go on from the table queried or from a joined one, the ORDER BY terms of dotted tokens name
joined tables, and so does the projection unless it names the table queried. A hop that is left out,
because its table is joined already, takes nothing out of scope.
-/

namespace PathSort

set_option autoImplicit false

/-- Each dotted token starts at a table in scope, among them the tables that earlier ones join. -/
def StartInScope (scope : List String) : List (Directive × JoinPlan) → Prop
  | [] => True
  | entry :: rest =>
      (∀ main ∈ entry.1.main?, main ∈ scope) ∧
        StartInScope (scope ++ entry.2.joins.map JoinClause.table) rest

instance decidableStartInScope :
    (scope : List String) → (entries : List (Directive × JoinPlan)) →
      Decidable (StartInScope scope entries)
  | _, [] => .isTrue trivial
  | scope, entry :: rest =>
      have := decidableStartInScope (scope ++ entry.2.joins.map JoinClause.table) rest
      inferInstanceAs (Decidable (_ ∧ _))

/-- The term orders as the token asks, which it comes from: by a column of a table in scope if the
token is dotted, and by the token's field otherwise. -/
def OrdersBy (scope : List String) (entry : Directive × JoinPlan) (term : OrderTerm) : Prop :=
  term.direction = entry.1.order ∧
    if entry.1.isDotted then ∃ source ∈ scope, ColumnOf source term.column
    else term.column = entry.1.field

/-- Whatever the query refers to is the table or is joined. A join refers only to what stands before
it. -/
structure InScope (table : String) (entries : List (Directive × JoinPlan)) (query : SelectQuery) :
    Prop where
  table_eq : query.table = table
  joins_relate : ∀ before clause after, query.joins = before ++ clause :: after →
    clause.Relates (table :: before.map JoinClause.table)
  order_terms : List.Forall₂ (OrdersBy (table :: query.targets)) entries query.orderBy
  projection_known : query.columns = "*" ∨
    ∃ source ∈ table :: query.targets, query.columns = source ++ ".*"

theorem start_in_scope_append {scope : List String} {first second : List (Directive × JoinPlan)}
    (starts : StartInScope scope (first ++ second)) : StartInScope scope first := by
  induction first generalizing scope with
  | nil => trivial
  | cons entry rest ih => exact ⟨starts.1, ih starts.2⟩

def Classified (entries : List (Directive × JoinPlan)) : Prop :=
  ∀ entry ∈ entries, JoinPlan.classify entry.1.field = .ok entry.2

theorem linked_of_start_in_scope {scope : List String} {entries : List (Directive × JoinPlan)}
    (classified : Classified entries) (starts : StartInScope scope entries) :
    Linked scope (entries.flatMap (·.2.joins)) := by
  induction entries generalizing scope with
  | nil => trivial
  | cons entry rest ih =>
      have spelled := classified entry List.mem_cons_self
      have known : ∀ main, entry.2.mainTable? = some main → main ∈ scope := by
        rw [JoinPlan.main_table_of_classified spelled]
        exact starts.1
      rw [List.flatMap_cons]
      apply linked_append
      · exact JoinPlan.plan_joins_linked (JoinPlan.dotless_of_classified spelled) known
      · exact ih (fun later member => classified later (List.mem_cons_of_mem entry member)) starts.2

/-- What a token starts at is in scope or joined by another token. -/
theorem main_known_of_start_in_scope {scope : List String}
    {entries : List (Directive × JoinPlan)} (starts : StartInScope scope entries)
    {entry : Directive × JoinPlan} (member : entry ∈ entries) {main : String}
    (first : entry.1.main? = some main) :
    main ∈ scope ++ (entries.flatMap (·.2.joins)).map JoinClause.table := by
  induction entries generalizing scope with
  | nil => cases member
  | cons head rest ih =>
      rw [List.flatMap_cons, List.map_append, ← List.append_assoc]
      rcases List.mem_cons.mp member with rfl | later
      · exact List.mem_append_left _ (List.mem_append_left _ (starts.1 main first))
      · exact ih starts.2 later

theorem main_of_dotted {directive : Directive} (dotted : directive.isDotted = true) :
    ∃ main, directive.main? = some main := by
  rw [Directive.main?, if_pos dotted]
  cases pieces : directive.segments with
  | nil => exact absurd pieces (Text.segments_ne_nil directive.field)
  | cons main rest => exact ⟨main, rfl⟩

/-- What a plan orders by is a column of a table that it joins, or the field itself. -/
theorem orders_by_of_classified {scope : List String} {entry : Directive × JoinPlan}
    (spelled : JoinPlan.classify entry.1.field = .ok entry.2)
    (known : entry.2.joins.map JoinClause.table ⊆ scope) :
    OrdersBy scope entry ⟨entry.2.orderColumn, entry.1.order⟩ := by
  refine ⟨rfl, ?_⟩
  by_cases dotted : entry.1.isDotted = true
  · rw [if_pos dotted]
    obtain ⟨main, first⟩ := main_of_dotted dotted
    rw [← JoinPlan.main_table_of_classified spelled] at first
    obtain ⟨source, joined, column⟩ :=
      JoinPlan.order_column_joined (JoinPlan.dotless_of_classified spelled) first
    exact ⟨source, known joined, column⟩
  · rw [if_neg dotted]
    have plain := JoinPlan.classify_of_dotless (mt (Text.is_dotted_iff entry.1.field).mpr dotted)
    have same := Except.ok.inj (spelled.symm.trans plain)
    rw [same]
    rfl

namespace SortCall

theorem applied_classified (calls : List SortCall) : Classified (calls.flatMap applied) :=
  fun _ member => classified_of_mem_applied member

theorem sorted_joins_eq (table : String) (calls : List SortCall) :
    (sortedFrom table calls).joins =
      keptJoins [] ((calls.flatMap applied).flatMap (·.2.joins)) := by
  have sorted := calls_sorted (SelectQuery.of_table_indexed table) calls
  rw [sortedFrom, sorted.joins_eq, List.flatMap_map]
  rfl

/-- The joins of all tokens, those left out among them, bring the tables that the query joins. -/
theorem mem_sorted_targets (table : String) (calls : List SortCall) (name : String) :
    name ∈ (sortedFrom table calls).targets ↔
      name ∈ ((calls.flatMap applied).flatMap (·.2.joins)).map JoinClause.table := by
  rw [SelectQuery.targets, sorted_joins_eq]
  exact mem_kept_tables [] _ name

theorem sorted_order_terms (table : String) (calls : List SortCall) :
    List.Forall₂ (OrdersBy (table :: (sortedFrom table calls).targets)) (calls.flatMap applied)
      (sortedFrom table calls).orderBy := by
  have sorted := calls_sorted (SelectQuery.of_table_indexed table) calls
  have order_eq : (sortedFrom table calls).orderBy = (calls.flatMap applied).map
      fun entry => ⟨entry.2.orderColumn, entry.1.order⟩ := by
    rw [sortedFrom, sorted.order_eq, List.map_map]
    rfl
  rw [order_eq, List.forall₂_map_right_iff, List.forall₂_same]
  intro entry member
  apply orders_by_of_classified (applied_classified calls entry member)
  intro source joined
  obtain ⟨clause, made, rfl⟩ := List.mem_map.mp joined
  apply List.mem_cons_of_mem
  rw [mem_sorted_targets]
  exact List.mem_map_of_mem (List.mem_flatMap.mpr ⟨entry, member, made⟩)

theorem sorted_projection_known {table : String} {calls : List SortCall}
    (starts : StartInScope [table] (calls.flatMap applied)) :
    let final := sortedFrom table calls
    final.columns = "*" ∨ ∃ source ∈ table :: final.targets, final.columns = source ++ ".*" := by
  intro final
  have projected : final.projection = (lastMain? calls).map (· ++ ".*") :=
    sorted_projection table calls
  rw [SelectQuery.columns, projected]
  cases last : lastMain? calls with
  | none => exact Or.inl rfl
  | some main =>
      obtain ⟨entry, member, first⟩ := List.mem_filterMap.mp (List.mem_of_getLast? last)
      have known := main_known_of_start_in_scope starts member first
      refine Or.inr ⟨main, ?_, rfl⟩
      rcases List.mem_append.mp known with queried | joined
      · rw [List.mem_singleton.mp queried]
        exact List.mem_cons_self
      · exact List.mem_cons_of_mem table ((mem_sorted_targets table calls main).mpr joined)

/-- A query sorted by tokens that start in scope refers only to what is in scope. -/
theorem in_scope {table : String} {calls : List SortCall}
    (starts : StartInScope [table] (calls.flatMap applied)) :
    InScope table (calls.flatMap applied) (sortedFrom table calls) where
  table_eq := (calls_sorted (SelectQuery.of_table_indexed table) calls).table_eq
  joins_relate := by
    intro before clause after split
    have linked : Linked [table] (sortedFrom table calls).joins := by
      rw [sorted_joins_eq]
      exact linked_kept_joins (List.nil_subset _)
        (linked_of_start_in_scope (applied_classified calls) starts)
    rw [split] at linked
    exact relates_of_linked linked
  order_terms := sorted_order_terms table calls
  projection_known := sorted_projection_known starts

/-- Where every dotted token that is applied starts at the table queried or at one that an earlier
token joins, every query on the way refers only to the table queried and to joined tables: after the
first of these tokens, however many they are and however they were given. -/
theorem references_in_scope (table : String) (calls : List SortCall)
    (starts : StartInScope [table] (calls.flatMap applied)) (seen : List SortCall)
    (reached : seen.flatMap applied <+: calls.flatMap applied) :
    InScope table (seen.flatMap applied) (sortedFrom table seen) := by
  obtain ⟨later, whole⟩ := reached
  rw [← whole] at starts
  exact in_scope (start_in_scope_append starts)

/-- The second token starts at a table that the first one joins, and the pivot table that the third
one goes over is joined already, so that its join is left out. -/
theorem references_in_scope_shared_pivot :
    let calls : List SortCall := [.all .standard ["posts.users.author_id.name.flip",
      "users.roles.user_id.name", "posts.tags.tag_id.label.pivot.users.owner_id,desc", "title"]]
    StartInScope ["posts"] (calls.flatMap applied) ∧
    InScope "posts" (calls.flatMap applied) (sortedFrom "posts" calls) ∧
    (sortedFrom "posts" calls).targets = ["users", "roles", "tags"] := by
  intro calls
  have starts : StartInScope ["posts"] (calls.flatMap applied) := by
    decide +kernel
  refine ⟨starts, references_in_scope "posts" calls starts calls List.prefix_rfl, ?_⟩
  decide +kernel

end SortCall

end PathSort
