import Mathlib.Data.List.Nodup
import PathSort.Proofs.Sorting.Scope

/-!
# The names of a query's tables

A query lists the table that it selects from and those that it joins, each under its own name. No
table is joined twice. The table queried is not a joined one beforehand, though, so a token may join
it to itself, and then its name is listed twice and the columns under this name are ambiguous. So
the names are distinct, and every reference means one table of the query, exactly when no token goes
back to the table queried.
-/

namespace PathSort

set_option autoImplicit false

namespace SelectQuery

/-- The names behind FROM and LEFT JOIN, in the order of the query's text. -/
def tableNames (query : SelectQuery) : List String := query.table :: query.targets

/-- The reference is a column under a name that the query lists once. -/
def Denotes (query : SelectQuery) (reference : String) : Prop :=
  ∃ source, ColumnOf source reference ∧ query.tableNames.count source = 1

structure Unambiguous (query : SelectQuery) : Prop where
  operands_denote : ∀ clause ∈ query.joins, query.Denotes clause.first ∧ query.Denotes clause.second
  terms_denote : ∀ term ∈ query.orderBy, '.' ∈ term.column.toList → query.Denotes term.column
  projection_denotes : query.columns = "*" ∨
    ∃ source, query.columns = source ++ ".*" ∧ query.tableNames.count source = 1

end SelectQuery

/-- Where all dotted tokens start at one table, this table is all the scope they need. -/
theorem start_in_scope_of_same {table : String} {scope : List String} (known : table ∈ scope)
    {entries : List (Directive × JoinPlan)}
    (same : ∀ entry ∈ entries, ∀ main ∈ entry.1.main?, main = table) :
    StartInScope scope entries := by
  induction entries generalizing scope with
  | nil => trivial
  | cons entry rest ih =>
      refine ⟨?_, ih (List.mem_append_left _ known) ?_⟩
      · intro main first
        rw [same entry List.mem_cons_self main first]
        exact known
      · intro later member
        exact same later (List.mem_cons_of_mem entry member)

theorem related_of_mem {Item Other : Type} {related : Item → Other → Prop} {items : List Item}
    {others : List Other} (aligned : List.Forall₂ related items others) {other : Other}
    (member : other ∈ others) : ∃ item ∈ items, related item other := by
  induction aligned with
  | nil => cases member
  | @cons item first items others head rest ih =>
      rcases List.mem_cons.mp member with rfl | later
      · exact ⟨item, List.mem_cons_self, head⟩
      · obtain ⟨found, listed, holds⟩ := ih later
        exact ⟨found, List.mem_cons_of_mem item listed, holds⟩

/-- A query in scope is unambiguous when its names are distinct. -/
theorem unambiguous_of_in_scope {table : String} {entries : List (Directive × JoinPlan)}
    {query : SelectQuery} (inside : InScope table entries query)
    (distinct : query.tableNames.Nodup) : query.Unambiguous := by
  have once : ∀ source ∈ table :: query.targets, query.tableNames.count source = 1 := by
    intro source known
    apply List.count_eq_one_of_mem distinct
    rwa [SelectQuery.tableNames, inside.table_eq]
  refine ⟨?_, ?_, ?_⟩
  · intro clause member
    obtain ⟨before, after, split⟩ := List.append_of_mem member
    have listed : clause.table ∈ table :: query.targets :=
      List.mem_cons_of_mem table (List.mem_map_of_mem member)
    have earlier : table :: before.map JoinClause.table ⊆ table :: query.targets := by
      rw [SelectQuery.targets, split, List.map_append]
      exact List.cons_subset_cons table (List.subset_append_left _ _)
    obtain ⟨source, known, operands⟩ := inside.joins_relate before clause after split
    -- One operand is of the table joined here, which is listed, the other of one listed before.
    have source_listed : source ∈ table :: query.targets := by
      rcases known with rfl | inScope
      · exact listed
      · exact earlier inScope
    rcases operands with ⟨own, other⟩ | ⟨other, own⟩
    · exact ⟨⟨clause.table, own, once _ listed⟩, ⟨source, other, once _ source_listed⟩⟩
    · exact ⟨⟨source, other, once _ source_listed⟩, ⟨clause.table, own, once _ listed⟩⟩
  · intro term member dotted
    obtain ⟨entry, -, -, ordered⟩ := related_of_mem inside.order_terms member
    by_cases dottedField : entry.1.isDotted = true
    · rw [if_pos dottedField] at ordered
      obtain ⟨source, known, column⟩ := ordered
      exact ⟨source, column, once source known⟩
    · rw [if_neg dottedField] at ordered
      rw [ordered] at dotted
      exact absurd ((Text.is_dotted_iff entry.1.field).mpr dotted) dottedField
  · rcases inside.projection_known with all | ⟨source, known, columns⟩
    · exact Or.inl all
    · exact Or.inr ⟨source, columns, once source known⟩

/-- A query in scope that is unambiguous does not join the table it selects from: the join's own
columns would stand under a name that is listed twice. -/
theorem table_not_joined_of_unambiguous {table : String} {entries : List (Directive × JoinPlan)}
    {query : SelectQuery} (inside : InScope table entries query) (unambiguous : query.Unambiguous) :
    table ∉ query.targets := by
  intro joined
  have twice : 2 ≤ query.tableNames.count table := by
    rw [SelectQuery.tableNames, inside.table_eq, List.count_cons_self]
    have once_joined : 0 < query.targets.count table := List.count_pos_iff.mpr joined
    omega
  have never : ∀ reference, ColumnOf table reference → ¬query.Denotes reference := by
    rintro reference column ⟨source, other, once⟩
    rw [← column_of_unique column other] at once
    omega
  obtain ⟨clause, member, rfl⟩ := List.mem_map.mp joined
  obtain ⟨before, after, split⟩ := List.append_of_mem member
  obtain ⟨first_denotes, second_denotes⟩ := unambiguous.operands_denote clause member
  obtain ⟨source, -, ⟨own, -⟩ | ⟨-, own⟩⟩ := inside.joins_relate before clause after split
  · exact never clause.first own first_denotes
  · exact never clause.second own second_denotes

namespace SortCall

def NoReturn (table : String) (calls : List SortCall) : Prop :=
  ∀ entry ∈ calls.flatMap applied, table ∉ entry.2.joins.map JoinClause.table

theorem no_return_iff (table : String) (calls : List SortCall) :
    NoReturn table calls ↔ table ∉ (sortedFrom table calls).targets := by
  rw [mem_sorted_targets, List.map_flatMap]
  simp only [NoReturn, List.mem_flatMap, not_exists, not_and]

theorem sorted_targets_nodup (table : String) (calls : List SortCall) :
    (sortedFrom table calls).targets.Nodup := by
  rw [SelectQuery.targets, sorted_joins_eq]
  exact kept_tables_nodup [] _

theorem sorted_table_names (table : String) (calls : List SortCall) :
    (sortedFrom table calls).tableNames = table :: (sortedFrom table calls).targets := by
  have sorted := calls_sorted (SelectQuery.of_table_indexed table) calls
  rw [SelectQuery.tableNames]
  exact congrArg (· :: _) sorted.table_eq

theorem names_nodup_iff_no_return (table : String) (calls : List SortCall) :
    (sortedFrom table calls).tableNames.Nodup ↔ NoReturn table calls := by
  rw [sorted_table_names, List.nodup_cons, no_return_iff]
  exact and_iff_left (sorted_targets_nodup table calls)

/-- No table is joined twice. The names of all tables are distinct exactly when no token that is
applied joins the table queried. Where all dotted tokens start at this table, that is also exactly
when every qualified column of the query means one of its tables. -/
theorem table_names_distinct_iff (table : String) (calls : List SortCall) :
    let final := sortedFrom table calls
    final.targets.Nodup ∧
    final.tableNames = table :: final.targets ∧
    (final.tableNames.Nodup ↔ NoReturn table calls) ∧
    ((∀ entry ∈ calls.flatMap applied, ∀ main ∈ entry.1.main?, main = table) →
      (final.Unambiguous ↔ NoReturn table calls)) := by
  intro final
  have distinct : final.tableNames.Nodup ↔ NoReturn table calls :=
    names_nodup_iff_no_return table calls
  refine ⟨sorted_targets_nodup table calls, sorted_table_names table calls, distinct, ?_⟩
  intro same
  have starts : StartInScope [table] (calls.flatMap applied) :=
    start_in_scope_of_same List.mem_cons_self same
  have inside : InScope table (calls.flatMap applied) final := in_scope starts
  constructor
  · intro unambiguous
    exact (no_return_iff table calls).mpr (table_not_joined_of_unambiguous inside unambiguous)
  · intro noReturn
    exact unambiguous_of_in_scope inside (distinct.mpr noReturn)

/-- A relation of a table to itself joins the table under the name that it has already. -/
theorem self_join_repeats_name :
    let calls : List SortCall := [.all .standard ["posts.posts.parent_id.title"]]
    let final := sortedFrom "posts" calls
    (∀ entry ∈ calls.flatMap applied, ∀ main ∈ entry.1.main?, main = "posts") ∧
    final.tableNames = ["posts", "posts"] ∧ ¬final.tableNames.Nodup ∧
    final.sql = "SELECT posts.* FROM posts LEFT JOIN posts ON posts.parent_id = posts.id " ++
      "ORDER BY posts.title ASC" := by
  decide +kernel

end SortCall

end PathSort
