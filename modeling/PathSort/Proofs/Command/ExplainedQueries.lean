import PathSort.Proofs.Command.Agreement
import PathSort.Proofs.JoinPlan.References
import PathSort.Proofs.Query.SqlText

/-!
# Comparing queries by their texts

The text that `explain` writes is the text of the query that it sorts, so where the names hold no
space, texts can be compared in place of queries. The names of that query come from the table and
from the fields of the tokens: each one is a name of a plan or two of them with a dot between, and
the names of a plan are pieces of its field. So it is enough that these hold no space.
-/

namespace PathSort

set_option autoImplicit false

namespace Text

theorem one_word_append {first second : String} (first_word : OneWord first)
    (second_word : OneWord second) : OneWord (first ++ second) := by
  rw [OneWord, String.toList_append, List.mem_append, not_or]
  exact ⟨first_word, second_word⟩

theorem mem_dotted {pieces : List String} {piece : String} (member : piece ∈ pieces) {c : Char}
    (inside : c ∈ piece.toList) : c ∈ (dotted pieces).toList := by
  induction pieces with
  | nil => cases member
  | cons first rest ih =>
      cases rest with
      | nil =>
          rw [List.mem_singleton.mp member] at inside
          simpa [dotted] using inside
      | cons second others =>
          have spread : (dotted (first :: second :: others)).toList =
              first.toList ++ [dot] ++ (dotted (second :: others)).toList := by
            simp [dotted, List.intercalate_cons_cons]
          rw [spread]
          rcases List.mem_cons.mp member with rfl | later
          · exact List.mem_append_left _ (List.mem_append_left _ inside)
          · exact List.mem_append_right _ (ih later)

theorem one_word_of_segment {name piece : String} (word : OneWord name)
    (member : piece ∈ segments name) : OneWord piece := by
  intro inside
  apply word
  have listed := mem_dotted member inside
  rwa [dotted_segments] at listed

end Text

namespace JoinPlan

theorem names_bare_of_classified {field : String} {plan : JoinPlan} (word : Text.OneWord field)
    (classified : classify field = .ok plan) : ∀ name ∈ plan.names, Text.OneWord name := by
  intro name member
  by_cases dotted : '.' ∈ field.toList
  · have spelled := ((classify_dotted_ok_iff dotted plan).mp classified).2
    exact Text.one_word_of_segment word (names_of_spells spelled member)
  · rw [classify_of_dotless dotted] at classified
    cases classified
    rwa [List.mem_singleton.mp member]

theorem qualify_bare {table column : String} (table_word : Text.OneWord table)
    (column_word : Text.OneWord column) : Text.OneWord (qualify table column) :=
  Text.one_word_append (Text.one_word_append table_word (by decide)) column_word

theorem join_on_space_free {table first second : String} (table_word : Text.OneWord table)
    (first_word : Text.OneWord first) (second_word : Text.OneWord second) :
    (joinOn table first second).SpaceFree := by
  simp only [JoinClause.SpaceFree, joinOn, List.forall_mem_cons]
  exact ⟨table_word, first_word, by decide, second_word, by simp⟩

/-- The parts of a plan's joins are its names and qualified names. -/
theorem joins_space_free {plan : JoinPlan} (bare : ∀ name ∈ plan.names, Text.OneWord name) :
    ∀ clause ∈ plan.joins, clause.SpaceFree := by
  have key_word : Text.OneWord key := by decide
  cases plan <;> simp only [names, List.forall_mem_cons] at bare <;>
    simp [joins, join_on_space_free, qualify_bare, key_word, bare]

theorem order_column_bare {plan : JoinPlan} (bare : ∀ name ∈ plan.names, Text.OneWord name) :
    Text.OneWord plan.orderColumn := by
  cases plan <;> simp only [names, List.forall_mem_cons] at bare <;>
    simp [orderColumn, qualify_bare, bare]

theorem main_table_named {plan : JoinPlan} {main : String}
    (restricted : plan.mainTable? = some main) : main ∈ plan.names := by
  cases plan with
  | column field => cases restricted
  | _ =>
      cases restricted
      simp [names]

end JoinPlan

def SortOptions.sortedQuery (options : SortOptions) (table : String) (raws : List String) :
    SelectQuery :=
  (options.sortAll Model.plain raws (SelectQuery.ofTable table)).state

/-- A table and fields without spaces make a query without spaces. -/
theorem sorted_query_space_free {options : SortOptions} {table : String} {raws : List String}
    (table_word : Text.OneWord table)
    (field_words : ∀ raw ∈ raws, ∀ directive,
      Directive.parse raw options.defaultOrder = .ok directive → Text.OneWord directive.field) :
    (options.sortedQuery table raws).SpaceFree := by
  have sorted : SelectQuery.SortedBy (SelectQuery.ofTable table) _
      (options.sortedQuery table raws) :=
    SortOptions.sort_all_sorted (SelectQuery.of_table_indexed table) options raws
  have named : ∀ entry ∈ options.applied raws, ∀ name ∈ entry.2.names, Text.OneWord name := by
    intro entry member
    obtain ⟨raw, listed, parsed, classified⟩ := SortOptions.planned_of_mem_applied member
    exact JoinPlan.names_bare_of_classified (field_words raw listed entry.1 parsed) classified
  have stepped : ∀ step ∈ (options.applied raws).map Directive.step,
      ∀ name ∈ step.1.names, Text.OneWord name := by
    intro step member
    obtain ⟨entry, listed, rfl⟩ := List.mem_map.mp member
    exact named entry listed
  refine ⟨?_, ?_, ?_, ?_⟩
  · rw [sorted.table_eq]
    exact table_word
  · rw [SelectQuery.columns, sorted.projection_eq]
    cases last : (((options.applied raws).map Directive.step).filterMap (·.1.mainTable?)).getLast? with
    | none => exact (by decide : Text.OneWord "*")
    | some main =>
        obtain ⟨step, listed, restricted⟩ := List.mem_filterMap.mp (List.mem_of_getLast? last)
        exact Text.one_word_append
          (stepped step listed main (JoinPlan.main_table_named restricted)) (by decide)
  · intro clause made
    rw [sorted.joins_eq] at made
    obtain ⟨step, listed, asked⟩ := List.mem_flatMap.mp (kept_joins_subset _ _ made)
    exact JoinPlan.joins_space_free (stepped step listed) clause asked
  · intro term added
    rw [sorted.order_eq] at added
    obtain ⟨step, listed, rfl⟩ := List.mem_map.mp added
    exact JoinPlan.order_column_bare (stepped step listed)

namespace Settings

theorem explain_text {table text : String} {options : SortOptions} {raws : List String}
    (explained : (explain ⟨some table, options⟩ raws ()).result = .ok text) :
    text = (options.sortedQuery table raws).sql := by
  rw [explain_result, Run.map_error_eq_ok_iff] at explained
  obtain ⟨directives, -, rfl⟩ := Run.map_eq_ok_iff.mp explained
  rfl

/-- Two queries without spaces in their names have the same text if and only if they agree in the
table, the columns, the joins and the ORDER BY terms. So two texts that `explain` writes are the
same if and only if the queries that it sorted agree in these, as long as those hold no space; they
hold none if the table and the fields of the tokens hold none. -/
theorem texts_compare_queries :
    (∀ query other : SelectQuery, query.SpaceFree → other.SpaceFree →
      (query.sql = other.sql ↔
        query.table = other.table ∧ query.columns = other.columns ∧ query.joins = other.joins ∧
          query.orderBy = other.orderBy)) ∧
    (∀ (table otherTable : String) (options otherOptions : SortOptions)
      (raws otherRaws : List String) (text otherText : String),
      let query := options.sortedQuery table raws
      let other := otherOptions.sortedQuery otherTable otherRaws
      query.SpaceFree → other.SpaceFree →
      (explain ⟨some table, options⟩ raws ()).result = .ok text →
      (explain ⟨some otherTable, otherOptions⟩ otherRaws ()).result = .ok otherText →
      (text = otherText ↔
        query.table = other.table ∧ query.columns = other.columns ∧ query.joins = other.joins ∧
          query.orderBy = other.orderBy)) ∧
    ∀ (table : String) (options : SortOptions) (raws : List String), Text.OneWord table →
      (∀ raw ∈ raws, ∀ directive, Directive.parse raw options.defaultOrder = .ok directive →
        Text.OneWord directive.field) →
      (options.sortedQuery table raws).SpaceFree := by
  refine ⟨?_, ?_, ?_⟩
  · intro query other free other_free
    exact SelectQuery.sql_eq_iff free other_free
  · intro table otherTable options otherOptions raws otherRaws text otherText query other free
      other_free explained other_explained
    rw [explain_text explained, explain_text other_explained]
    exact SelectQuery.sql_eq_iff free other_free
  · intro table options raws table_word field_words
    exact sorted_query_space_free table_word field_words

/-- Names that look like keywords or are empty, and a projection that is set to what is shown
without one. The two runs of `explain` come to the same query by different tokens. -/
theorem texts_compare_queries_keyword_names :
    let unset : SelectQuery :=
      ⟨"ON", none, [⟨"LEFT", "", "ORDER", "BY"⟩], ["LEFT"], [⟨"ASC,", .desc⟩, ⟨"", .asc⟩]⟩
    let chosen : SelectQuery := { unset with projection := some "*" }
    let unordered : SelectQuery := { unset with orderBy := [] }
    let first := explain ⟨some "JOIN", ⟨.asc, .error⟩⟩ ["LEFT.JOIN.ON.ORDER"] ()
    let second := explain ⟨some "JOIN", ⟨.desc, .ignore⟩⟩ ["LEFT.JOIN", "LEFT.JOIN.ON.ORDER,asc"] ()
    let text := "SELECT LEFT.* FROM JOIN LEFT JOIN JOIN ON JOIN.ON = LEFT.id ORDER BY JOIN.ORDER ASC"
    unset ≠ chosen ∧ unset.sql = chosen.sql ∧ unset.sql ≠ unordered.sql ∧
    first.result = .ok text ∧ second.result = .ok text ∧
    (SortOptions.sortedQuery ⟨.asc, .error⟩ "JOIN" ["LEFT.JOIN.ON.ORDER"]).joins =
      (SortOptions.sortedQuery ⟨.desc, .ignore⟩ "JOIN"
        ["LEFT.JOIN", "LEFT.JOIN.ON.ORDER,asc"]).joins := by
  intro unset chosen unordered first second text
  obtain ⟨by_names, by_runs, by_fields⟩ := texts_compare_queries
  have ordered : unset.sql = unordered.sql → unset.orderBy = unordered.orderBy := fun same =>
    ((by_names unset unordered (by decide) (by decide)).mp same).2.2.2
  have explained : first.result = .ok text := by decide +kernel
  have other_explained : second.result = .ok text := by decide +kernel
  have parsed : Directive.parse "LEFT.JOIN.ON.ORDER" .asc =
      .ok ⟨"LEFT.JOIN.ON.ORDER", .asc, by decide⟩ := by
    decide +kernel
  have free := by_fields "JOIN" ⟨.asc, .error⟩ ["LEFT.JOIN.ON.ORDER"] (by decide) <| by
    intro raw listed directive read
    rw [List.mem_singleton.mp listed, parsed] at read
    cases read
    decide
  have other_free : (SortOptions.sortedQuery ⟨.desc, .ignore⟩ "JOIN"
      ["LEFT.JOIN", "LEFT.JOIN.ON.ORDER,asc"]).SpaceFree := by
    decide +kernel
  have agree := (by_runs _ _ _ _ _ _ _ _ free other_free explained other_explained).mp rfl
  refine ⟨by decide, ?_, ?_, explained, other_explained, agree.2.2.1⟩
  · exact (by_names unset chosen (by decide) (by decide)).mpr ⟨rfl, rfl, rfl, rfl⟩
  · intro same
    cases ordered same

end Settings

end PathSort
