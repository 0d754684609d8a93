import Mathlib.Data.List.Nodup
import PathSort.Query.Builder

/-!
# Joins that bring a new table

Out of a list of joins only those are kept that bring a table which is neither joined beforehand nor
the target of an earlier join of the list. Which joins are kept depends on the tables joined
beforehand as a set, and a list can be cut anywhere: what stands before the cut counts for the rest
as joined, whether it was kept or not.
-/

namespace PathSort

set_option autoImplicit false

/-- The joins of a list whose table is neither joined nor the target of an earlier join of it. -/
def keptJoins (joined : List String) (clauses : List JoinClause) : List JoinClause :=
  (clauses.zipIdx.filter fun entry =>
    !(joined ++ (clauses.take entry.2).map JoinClause.table).contains entry.1.table).map Prod.fst

theorem kept_joins_nil (joined : List String) : keptJoins joined [] = [] := rfl

/-- The first join is kept when its table is not joined, and counts as joined from then on. -/
theorem kept_joins_cons (joined : List String) (clause : JoinClause) (rest : List JoinClause) :
    keptJoins joined (clause :: rest) =
      (if clause.table ∈ joined then [] else [clause]) ++
        keptJoins (joined ++ [clause.table]) rest := by
  have later : ((rest.zipIdx 1).filter fun entry =>
        !(joined ++ ((clause :: rest).take entry.2).map JoinClause.table).contains
          entry.1.table).map Prod.fst =
      keptJoins (joined ++ [clause.table]) rest := by
    rw [keptJoins, List.zipIdx_succ, List.filter_map, List.map_map]
    simp only [Function.comp_def, List.take_succ_cons, List.map_cons, List.append_assoc,
      List.singleton_append]
  rw [keptJoins, List.zipIdx_cons, List.filter_cons]
  by_cases present : clause.table ∈ joined
  · simpa [present] using later
  · simpa [present] using later

/-- Only which tables are joined matters, not their order or their repeats. -/
theorem kept_joins_congr {joined other : List String}
    (same : ∀ table, table ∈ joined ↔ table ∈ other) (clauses : List JoinClause) :
    keptJoins joined clauses = keptJoins other clauses := by
  induction clauses generalizing joined other with
  | nil => rfl
  | cons clause rest ih =>
      have extended : ∀ table, table ∈ joined ++ [clause.table] ↔
          table ∈ other ++ [clause.table] := by
        intro table
        simp [same table]
      rw [kept_joins_cons, kept_joins_cons, ih extended]
      simp [same clause.table]

theorem kept_joins_of_present {joined : List String} {table : String} (present : table ∈ joined)
    (clauses : List JoinClause) :
    keptJoins (joined ++ [table]) clauses = keptJoins joined clauses := by
  apply kept_joins_congr
  intro other
  rw [List.mem_append, List.mem_singleton]
  constructor
  · rintro (before | rfl)
    · exact before
    · exact present
  · exact Or.inl

/-- A table counts as joined wherever it stands among the joined ones. -/
theorem kept_joins_insert (joined : List String) (table : String) (clauses : List JoinClause) :
    keptJoins (joined.insert table) clauses = keptJoins (joined ++ [table]) clauses := by
  apply kept_joins_congr
  intro other
  rw [List.mem_insert_iff, List.mem_append, List.mem_singleton]
  exact or_comm

theorem kept_joins_append (joined : List String) (first second : List JoinClause) :
    keptJoins joined (first ++ second) =
      keptJoins joined first ++ keptJoins (joined ++ first.map JoinClause.table) second := by
  induction first generalizing joined with
  | nil => simp [kept_joins_nil]
  | cons clause rest ih =>
      rw [List.cons_append, kept_joins_cons, kept_joins_cons, ih]
      simp [List.append_assoc]

theorem kept_joins_eq_nil_iff (clauses : List JoinClause) :
    keptJoins [] clauses = [] ↔ clauses = [] := by
  cases clauses with
  | nil => simp [kept_joins_nil]
  | cons clause rest => simp [kept_joins_cons]

/-- Dropping the joins that bring nothing new loses no table. -/
theorem mem_kept_tables (joined : List String) (clauses : List JoinClause) (table : String) :
    table ∈ joined ++ (keptJoins joined clauses).map JoinClause.table ↔
      table ∈ joined ++ clauses.map JoinClause.table := by
  induction clauses generalizing joined with
  | nil => simp [kept_joins_nil]
  | cons clause rest ih =>
      have tail := ih (joined ++ [clause.table])
      rw [kept_joins_cons]
      by_cases present : clause.table ∈ joined
      · have again : table = clause.table → table ∈ joined := by
          rintro rfl
          exact present
        rw [if_pos present, List.nil_append]
        simp only [List.map_cons, List.mem_append, List.mem_cons, List.not_mem_nil,
          or_false] at tail ⊢
        tauto
      · rw [if_neg present, List.singleton_append, List.map_cons, List.map_cons]
        simpa only [List.append_assoc, List.singleton_append] using tail

theorem kept_tables_fresh {joined : List String} {clauses : List JoinClause} {table : String}
    (kept : table ∈ (keptJoins joined clauses).map JoinClause.table) : table ∉ joined := by
  induction clauses generalizing joined with
  | nil => simp [kept_joins_nil] at kept
  | cons clause rest ih =>
      rw [kept_joins_cons, List.map_append, List.mem_append] at kept
      rcases kept with first | later
      · by_cases present : clause.table ∈ joined
        · simp [present] at first
        · rw [if_neg present, List.map_singleton, List.mem_singleton] at first
          rwa [first]
      · intro before
        exact ih later (List.mem_append_left _ before)

theorem kept_tables_nodup (joined : List String) (clauses : List JoinClause) :
    ((keptJoins joined clauses).map JoinClause.table).Nodup := by
  induction clauses generalizing joined with
  | nil => simp [kept_joins_nil]
  | cons clause rest ih =>
      rw [kept_joins_cons]
      by_cases present : clause.table ∈ joined
      · rw [if_pos present, List.nil_append]
        exact ih _
      · rw [if_neg present, List.singleton_append, List.map_cons, List.nodup_cons]
        refine ⟨?_, ih _⟩
        intro again
        exact kept_tables_fresh again (List.mem_append_right _ (List.mem_singleton_self _))

/-- A join is kept exactly when its table is new and no earlier join of the list brings it. -/
theorem mem_kept_joins_iff (joined : List String) (clauses : List JoinClause)
    (clause : JoinClause) :
    clause ∈ keptJoins joined clauses ↔
      clause.table ∉ joined ∧ clauses.find? (·.table = clause.table) = some clause := by
  induction clauses generalizing joined with
  | nil => simp [kept_joins_nil]
  | cons first rest ih =>
      rw [kept_joins_cons, List.mem_append, ih]
      by_cases same : first.table = clause.table
      · have seen : clause.table ∈ joined ++ [first.table] := by simp [same]
        have head : clause ∈ (if first.table ∈ joined then [] else [first]) ↔
            clause.table ∉ joined ∧ first = clause := by
          by_cases present : clause.table ∈ joined
          · simp [same, present]
          · simp [same, present, eq_comm]
        simpa [same, seen] using head
      · have other : clause ≠ first := by
          rintro rfl
          exact same rfl
        have head : clause ∉ (if first.table ∈ joined then [] else [first]) := by
          split
          · simp
          · simpa using other
        have fresh : clause.table ∉ joined ++ [first.table] ↔ clause.table ∉ joined := by
          simp [Ne.symm same]
        rw [or_iff_right head, fresh, List.find?_cons_of_neg (by simpa using same)]

theorem kept_joins_subset (joined : List String) (clauses : List JoinClause) :
    keptJoins joined clauses ⊆ clauses := by
  intro clause kept
  exact List.mem_of_find?_eq_some ((mem_kept_joins_iff joined clauses clause).mp kept).2

/-- Joins of the list that bring the same table are the same join. -/
def ConsistentJoins (clauses : List JoinClause) : Prop :=
  ∀ clause ∈ clauses, ∀ other ∈ clauses, clause.table = other.table → clause = other

/-- Of a consistent list all joins are kept whose table is new. -/
theorem mem_kept_joins_of_consistent {joined : List String} {clauses : List JoinClause}
    (consistent : ConsistentJoins clauses) (clause : JoinClause) :
    clause ∈ keptJoins joined clauses ↔ clause ∈ clauses ∧ clause.table ∉ joined := by
  rw [mem_kept_joins_iff, and_comm]
  apply and_congr_left
  intro _
  constructor
  · exact List.mem_of_find?_eq_some
  · intro listed
    rcases found : clauses.find? (·.table = clause.table) with _ | first
    · have absent := List.find?_eq_none.mp found clause listed
      simp at absent
    · have same : first.table = clause.table := by simpa using List.find?_some found
      rw [found, consistent first (List.mem_of_find?_eq_some found) clause listed same]

/-- Consistent lists of the same joins keep the same joins, in an order of their own. -/
theorem kept_joins_perm {clauses others : List JoinClause} (consistent : ConsistentJoins clauses)
    (same : ∀ clause, clause ∈ clauses ↔ clause ∈ others) (joined : List String) :
    (keptJoins joined clauses).Perm (keptJoins joined others) := by
  have consistent_others : ConsistentJoins others := by
    intro clause listed other listed_other
    exact consistent clause ((same clause).mpr listed) other ((same other).mpr listed_other)
  have distinct : ∀ list : List JoinClause, (keptJoins joined list).Nodup :=
    fun list => List.Nodup.of_map JoinClause.table (kept_tables_nodup joined list)
  rw [List.perm_ext_iff_of_nodup (distinct clauses) (distinct others)]
  intro clause
  rw [mem_kept_joins_of_consistent consistent, mem_kept_joins_of_consistent consistent_others,
    same clause]

end PathSort
