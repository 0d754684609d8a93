import PathSort.Proofs.JoinPlan.Grammar
import PathSort.Proofs.Query.KeptJoins

/-!
# What plans refer to

The names of a plan that a field spells hold no dot, so whatever the plan qualifies is a column of
one table. Each of its joins compares a column of the table that it joins with a column of the main
table or of a table that an earlier join of the plan brings, and the column that it orders by is one
of a table that it joins.

Joins that follow each other in this way stay linked when those are left out that bring nothing new:
the tables of the joins left out are there all the same.
-/

namespace PathSort

set_option autoImplicit false

namespace Text

theorem split_on_dotless (text : List Char) : ∀ piece ∈ text.splitOn dot, dot ∉ piece := by
  induction text with
  | nil => simp
  | cons c rest ih =>
      rw [List.splitOn_cons_eq_if_modifyHead]
      by_cases cut : (c == dot) = true
      · rw [if_pos cut]
        intro piece member
        rcases List.mem_cons.mp member with rfl | later
        · simp
        · exact ih piece later
      · rw [if_neg cut]
        cases pieces : rest.splitOn dot with
        | nil => simp
        | cons first others =>
            rw [pieces] at ih
            intro piece member
            rcases List.mem_cons.mp member with rfl | later
            · rw [List.mem_cons, not_or]
              exact ⟨fun same => cut (beq_iff_eq.mpr same.symm), ih first List.mem_cons_self⟩
            · exact ih piece (List.mem_cons_of_mem first later)

theorem segments_dotless {name piece : String} (member : piece ∈ segments name) :
    isDotted piece = false := by
  obtain ⟨characters, listed, rfl⟩ := List.mem_map.mp member
  have apart := split_on_dotless name.toList characters listed
  simpa [isDotted] using apart

end Text

def ColumnOf (table reference : String) : Prop :=
  reference.toList.count '.' = 1 ∧ ∃ column, reference = table ++ "." ++ column

theorem count_dots {name : String} (dotless : Text.isDotted name = false) :
    name.toList.count '.' = 0 := by
  rw [List.count_eq_zero, ← Text.is_dotted_iff, dotless]
  exact Bool.false_ne_true

theorem column_of_qualify {table column : String} (table_dotless : Text.isDotted table = false)
    (column_dotless : Text.isDotted column = false) :
    ColumnOf table (JoinPlan.qualify table column) := by
  refine ⟨?_, column, rfl⟩
  rw [JoinPlan.qualify, String.toList_append, String.toList_append, List.count_append,
    List.count_append, count_dots table_dotless, count_dots column_dotless]
  rfl

theorem column_of_unique {table other reference : String} (first : ColumnOf table reference)
    (second : ColumnOf other reference) : table = other := by
  have spread : ∀ name column : String,
      (name ++ "." ++ column).toList = name.toList ++ '.' :: column.toList := by
    intro name column
    simp
  obtain ⟨once, column, rfl⟩ := first
  obtain ⟨-, others, same⟩ := second
  rw [spread, List.count_append, List.count_cons_self] at once
  have table_dotless : '.' ∉ table.toList := List.count_eq_zero.mp (by omega)
  have column_dotless : '.' ∉ column.toList := List.count_eq_zero.mp (by omega)
  have laid_out := congrArg String.toList same
  rw [spread, spread] at laid_out
  have parts := (List.append_cons_inj_of_notMem table_dotless column_dotless).mp laid_out
  exact String.toList_inj.mp parts.1

/-- One operand of the join is a column of the table that it joins. The other is a column of that
table, too, or of one in scope. -/
def JoinClause.Relates (scope : List String) (clause : JoinClause) : Prop :=
  ∃ source, (source = clause.table ∨ source ∈ scope) ∧
    ((ColumnOf clause.table clause.first ∧ ColumnOf source clause.second) ∨
      (ColumnOf source clause.first ∧ ColumnOf clause.table clause.second))

/-- Each join relates its table to those in scope, among them the tables of the joins before it. -/
def Linked (scope : List String) : List JoinClause → Prop
  | [] => True
  | clause :: rest => clause.Relates scope ∧ Linked (scope ++ [clause.table]) rest

theorem relates_mono {scope wider : List String} (wide : scope ⊆ wider) {clause : JoinClause}
    (relates : clause.Relates scope) : clause.Relates wider := by
  obtain ⟨source, known, operands⟩ := relates
  exact ⟨source, known.imp_right (wide ·), operands⟩

theorem append_table_subset {scope wider : List String} (wide : scope ⊆ wider) (table : String) :
    scope ++ [table] ⊆ wider ++ [table] :=
  List.append_subset.mpr ⟨List.subset_append_of_subset_left _ wide, List.subset_append_right _ _⟩

theorem linked_mono {scope wider : List String} (wide : scope ⊆ wider) {clauses : List JoinClause}
    (linked : Linked scope clauses) : Linked wider clauses := by
  induction clauses generalizing scope wider with
  | nil => trivial
  | cons clause rest ih =>
      exact ⟨relates_mono wide linked.1, ih (append_table_subset wide _) linked.2⟩

theorem linked_append {scope : List String} {first second : List JoinClause}
    (before : Linked scope first)
    (after : Linked (scope ++ first.map JoinClause.table) second) :
    Linked scope (first ++ second) := by
  induction first generalizing scope with
  | nil => simpa using after
  | cons clause rest ih =>
      refine ⟨before.1, ih before.2 ?_⟩
      simpa [List.append_assoc] using after

/-- Where linked joins are cut, the next one relates its table to those before the cut. -/
theorem relates_of_linked {scope : List String} {before after : List JoinClause}
    {clause : JoinClause} (linked : Linked scope (before ++ clause :: after)) :
    clause.Relates (scope ++ before.map JoinClause.table) := by
  induction before generalizing scope with
  | nil => simpa using linked.1
  | cons first rest ih => simpa [List.append_assoc] using ih linked.2

/-- Leaving out joins that bring nothing new leaves the others linked. -/
theorem linked_kept_joins {scope joined : List String} (known : joined ⊆ scope)
    {clauses : List JoinClause} (linked : Linked scope clauses) :
    Linked scope (keptJoins joined clauses) := by
  induction clauses generalizing scope joined with
  | nil => trivial
  | cons clause rest ih =>
      have later : Linked (scope ++ [clause.table])
          (keptJoins (joined ++ [clause.table]) rest) :=
        ih (append_table_subset known _) linked.2
      rw [kept_joins_cons]
      by_cases present : clause.table ∈ joined
      · -- The table is in scope without this join.
        rw [if_pos present, List.nil_append]
        apply linked_mono _ later
        intro table member
        rcases List.mem_append.mp member with before | added
        · exact before
        · rw [List.mem_singleton.mp added]
          exact known present
      · rw [if_neg present]
        exact ⟨linked.1, later⟩

namespace JoinPlan

def names : JoinPlan → List String
  | column field => [field]
  | normal main join fk sort => [main, join, fk, sort]
  | flipped main join fk sort => [main, join, fk, sort]
  | polymorphic main poly polyFk join fk sort => [main, poly, polyFk, join, fk, sort]
  | pivot main join fk sort pivotTable localKey => [main, join, fk, sort, pivotTable, localKey]
  | pivotFlipped main join fk pivotTable localKey join2 fk2 sort2 =>
      [main, join, fk, pivotTable, localKey, join2, fk2, sort2]

def Dotless (plan : JoinPlan) : Prop := ∀ name ∈ plan.names, Text.isDotted name = false

theorem names_of_spells {pieces : List String} {plan : JoinPlan} (spelled : Spells pieces plan) :
    plan.names ⊆ pieces := by
  cases plan with
  | column field => exact spelled.elim
  | normal =>
      rw [spelled]
      simp [names]
  | flipped =>
      rw [spelled]
      simp [names]
  | polymorphic =>
      rw [spelled]
      simp [names]
  | pivot =>
      rw [spelled.1]
      simp [names]
  | pivotFlipped =>
      rcases spelled with rfl | ⟨unused, rfl⟩
      · simp [names]
      · simp [names]

/-- A field spells only plans whose names hold no dot. -/
theorem dotless_of_classified {field : String} {plan : JoinPlan}
    (classified : classify field = .ok plan) : plan.Dotless := by
  by_cases dotted : '.' ∈ field.toList
  · have spelled := ((classify_dotted_ok_iff dotted plan).mp classified).2
    intro name member
    exact Text.segments_dotless (names_of_spells spelled member)
  · rw [classify_of_dotless dotted] at classified
    cases classified
    intro name member
    rw [List.mem_singleton.mp member]
    exact Bool.eq_false_iff.mpr (mt (Text.is_dotted_iff field).mp dotted)

theorem key_dotless : Text.isDotted key = false := by decide

theorem relates_own_first {scope : List String} {table source column other : String}
    (table_dotless : Text.isDotted table = false) (source_dotless : Text.isDotted source = false)
    (column_dotless : Text.isDotted column = false) (other_dotless : Text.isDotted other = false)
    (known : source ∈ scope) :
    (joinOn table (qualify table column) (qualify source other)).Relates scope :=
  ⟨source, Or.inr known, Or.inl ⟨column_of_qualify table_dotless column_dotless,
    column_of_qualify source_dotless other_dotless⟩⟩

theorem relates_own_second {scope : List String} {table source column other : String}
    (table_dotless : Text.isDotted table = false) (source_dotless : Text.isDotted source = false)
    (column_dotless : Text.isDotted column = false) (other_dotless : Text.isDotted other = false)
    (known : source ∈ scope) :
    (joinOn table (qualify source other) (qualify table column)).Relates scope :=
  ⟨source, Or.inr known, Or.inr ⟨column_of_qualify source_dotless other_dotless,
    column_of_qualify table_dotless column_dotless⟩⟩

/-- The joins of a plan start from its main table and each goes on from a table reached before. -/
theorem plan_joins_linked {plan : JoinPlan} (dotless : plan.Dotless) {scope : List String}
    (known : ∀ main, plan.mainTable? = some main → main ∈ scope) : Linked scope plan.joins := by
  have plain : ∀ name, name ∈ plan.names → Text.isDotted name = false := dotless
  cases plan with
  | column field => trivial
  | normal main join fk sort =>
      have main_known := known main rfl
      simp only [names, List.forall_mem_cons] at plain
      obtain ⟨main_plain, join_plain, fk_plain, -⟩ := plain
      exact ⟨relates_own_first join_plain main_plain fk_plain key_dotless main_known, trivial⟩
  | flipped main join fk sort =>
      have main_known := known main rfl
      simp only [names, List.forall_mem_cons] at plain
      obtain ⟨main_plain, join_plain, fk_plain, -⟩ := plain
      exact ⟨relates_own_second join_plain main_plain key_dotless fk_plain main_known, trivial⟩
  | polymorphic main poly polyFk join fk sort =>
      have main_known := known main rfl
      simp only [names, List.forall_mem_cons] at plain
      obtain ⟨main_plain, poly_plain, polyFk_plain, join_plain, fk_plain, -⟩ := plain
      exact ⟨relates_own_second poly_plain main_plain key_dotless polyFk_plain main_known,
        relates_own_second join_plain poly_plain key_dotless fk_plain (by simp [joinOn]), trivial⟩
  | pivot main join fk sort pivotTable localKey =>
      have main_known := known main rfl
      simp only [names, List.forall_mem_cons] at plain
      obtain ⟨main_plain, join_plain, fk_plain, -, pivot_plain, local_plain, -⟩ := plain
      exact ⟨relates_own_first pivot_plain main_plain local_plain key_dotless main_known,
        relates_own_second join_plain pivot_plain key_dotless fk_plain (by simp [joinOn]), trivial⟩
  | pivotFlipped main join fk pivotTable localKey join2 fk2 sort2 =>
      have main_known := known main rfl
      simp only [names, List.forall_mem_cons] at plain
      obtain ⟨main_plain, join_plain, fk_plain, pivot_plain, local_plain, join2_plain,
        fk2_plain, -⟩ := plain
      exact ⟨relates_own_first pivot_plain main_plain local_plain key_dotless main_known,
        relates_own_second join_plain pivot_plain key_dotless fk_plain (by simp [joinOn]),
        relates_own_first join2_plain join_plain key_dotless fk2_plain (by simp [joinOn]), trivial⟩

/-- The column that a plan with a main table orders by is one of a table that it joins. -/
theorem order_column_joined {plan : JoinPlan} (dotless : plan.Dotless) {main : String}
    (restricted : plan.mainTable? = some main) :
    ∃ source ∈ plan.joins.map JoinClause.table, ColumnOf source plan.orderColumn := by
  cases plan with
  | column field => cases restricted
  | normal main join fk sort =>
      exact ⟨join, by simp [joins, joinOn],
        column_of_qualify (dotless join (by simp [names])) (dotless sort (by simp [names]))⟩
  | flipped main join fk sort =>
      exact ⟨join, by simp [joins, joinOn],
        column_of_qualify (dotless join (by simp [names])) (dotless sort (by simp [names]))⟩
  | polymorphic main poly polyFk join fk sort =>
      exact ⟨join, by simp [joins, joinOn],
        column_of_qualify (dotless join (by simp [names])) (dotless sort (by simp [names]))⟩
  | pivot main join fk sort pivotTable localKey =>
      exact ⟨join, by simp [joins, joinOn],
        column_of_qualify (dotless join (by simp [names])) (dotless sort (by simp [names]))⟩
  | pivotFlipped main join fk pivotTable localKey join2 fk2 sort2 =>
      exact ⟨join2, by simp [joins, joinOn],
        column_of_qualify (dotless join2 (by simp [names])) (dotless sort2 (by simp [names]))⟩

end JoinPlan

end PathSort
