import PathSort.Proofs.Directive.DisplayForm
import PathSort.Proofs.Report.Labels
import PathSort.Proofs.Sorting.ClosedForm
import PathSort.Query.Select

/-!
# The SELECT behind a plan report

The lines of a plan report hold everything that the SELECT for the same tokens is made of: the last
projection, the joins and the ORDER BY terms. A join line counts unless an earlier one joins its
table.

A report and a run of the same tokens without handlers go side by side. They fail at the same token
with the same error, and otherwise the lines show exactly the plans that the run applies.
-/

namespace PathSort

set_option autoImplicit false

namespace Report

def Line.table? : Line → Option String
  | .join clause => some clause.table
  | _ => none

/-- The texts of the join lines in order, without those whose table is joined already. -/
def joinTexts (joined : List String) : List Line → List String
  | [] => []
  | line :: rest =>
      match line.table? with
      | none => joinTexts joined rest
      | some table =>
          (if table ∈ joined then [] else (line.after? "join:").toList) ++
            joinTexts (joined ++ [table]) rest

/-- The SELECT on a table that the lines of a report come to. -/
def selectSql (table : String) (lines : List Line) : String :=
  let columns := (lines.filterMap (Line.after? "select:")).getLast?.getD "*"
  let joins := (joinTexts [] lines).map (" " ++ ·)
  let terms := lines.filterMap (Line.after? "order:")
  "SELECT " ++ columns ++ " FROM " ++ table ++ String.join joins ++
    if terms = [] then "" else " ORDER BY " ++ ", ".intercalate terms

theorem join_texts_eq (joined : List String) (lines : List Line) :
    joinTexts joined lines =
      (keptJoins joined (lines.filterMap Line.clause?)).map JoinClause.sql := by
  induction lines generalizing joined with
  | nil => rfl
  | cons line rest ih =>
      cases line with
      | join clause =>
          have shown : (Line.join clause :: rest).filterMap Line.clause? =
              clause :: rest.filterMap Line.clause? := rfl
          rw [shown, kept_joins_cons, List.map_append, ← ih, joinTexts, after_join]
          by_cases present : clause.table ∈ joined
          · simp [Line.table?, present]
          · simp [Line.table?, present]
      | heading directive => exact ih joined
      | shape name => exact ih joined
      | ignored => exact ih joined
      | select columns => exact ih joined
      | order term => exact ih joined

structure Shows (lines : List Line) (entries : List (Directive × JoinPlan)) : Prop where
  bare : ∀ line ∈ lines, line.Bare
  clauses_eq : lines.filterMap Line.clause? = entries.flatMap (·.2.joins)
  columns_eq : lines.filterMap Line.columns? = entries.filterMap (·.2.projection?)
  terms_eq : lines.filterMap Line.term? =
    entries.map fun entry => ⟨entry.2.orderColumn, entry.1.order⟩

theorem shows_nil : Shows [] [] where
  bare := by simp
  clauses_eq := rfl
  columns_eq := rfl
  terms_eq := rfl

theorem shows_append {first second : List Line} {entries others : List (Directive × JoinPlan)}
    (before : Shows first entries) (behind : Shows second others) :
    Shows (first ++ second) (entries ++ others) where
  bare := by
    intro line member
    exact (List.mem_append.mp member).elim (before.bare line) (behind.bare line)
  clauses_eq := by
    rw [List.filterMap_append, List.flatMap_append, before.clauses_eq, behind.clauses_eq]
  columns_eq := by
    rw [List.filterMap_append, List.filterMap_append, before.columns_eq, behind.columns_eq]
  terms_eq := by
    rw [List.filterMap_append, List.map_append, before.terms_eq, behind.terms_eq]

theorem shows_ignored {directive : Directive} (bare : Text.StartsBare directive.field.toList) :
    Shows [.heading directive, .ignored] [] where
  bare := by
    intro line member other same
    simp only [same, List.mem_cons, Line.heading.injEq, List.not_mem_nil, or_false,
      reduceCtorEq] at member
    rw [member]
    exact bare
  clauses_eq := rfl
  columns_eq := rfl
  terms_eq := rfl

theorem shows_plan {directive : Directive} (bare : Text.StartsBare directive.field.toList)
    (plan : JoinPlan) :
    Shows (.heading directive :: planLines plan directive.order) [(directive, plan)] where
  bare := by
    intro line member other same
    simp only [same, planLines, List.mem_cons, Line.heading.injEq, List.mem_append, List.mem_map,
      reduceCtorEq, and_false, exists_false, List.not_mem_nil, or_false] at member
    rw [member]
    exact bare
  clauses_eq := by
    simp [planLines, List.filterMap_cons, Line.clause?, Function.comp_def]
  columns_eq := by
    cases restricted : plan.projection? <;>
      simp [planLines, List.filterMap_cons, Line.columns?, Function.comp_def, restricted]
  terms_eq := by
    simp [planLines, List.filterMap_cons, Line.term?, Function.comp_def]

theorem select_sql_eq_render {lines : List Line} {entries : List (Directive × JoinPlan)}
    (shows : Shows lines entries) (table : String) :
    selectSql table lines =
      SelectQuery.render ((entries.filterMap (·.2.projection?)).getLast?.getD "*") table
        (keptJoins [] (entries.flatMap (·.2.joins)))
        (entries.map fun entry => ⟨entry.2.orderColumn, entry.1.order⟩) := by
  have columns : lines.filterMap (Line.after? "select:") =
      entries.filterMap (·.2.projection?) := by
    rw [← shows.columns_eq]
    exact List.filterMap_congr fun line member => after_select (shows.bare line member)
  have terms : lines.filterMap (Line.after? "order:") =
      (entries.map fun entry => (⟨entry.2.orderColumn, entry.1.order⟩ : OrderTerm)).map
        OrderTerm.sql := by
    rw [← shows.terms_eq, List.map_filterMap]
    exact List.filterMap_congr fun line member => after_order (shows.bare line member)
  rw [selectSql, columns, terms, join_texts_eq, shows.clauses_eq, SelectQuery.render,
    SelectQuery.joinsSql, List.map_map]
  cases entries with
  | nil => rfl
  | cons entry rest => rfl

end Report

namespace SelectQuery

theorem sorted_sql_eq {table : String} {entries : List (Directive × JoinPlan)} {final : SelectQuery}
    (sorted : SortedBy (ofTable table) (entries.map Directive.step) final) :
    final.sql = render ((entries.filterMap (·.2.projection?)).getLast?.getD "*") table
      (keptJoins [] (entries.flatMap (·.2.joins)))
      (entries.map fun entry => ⟨entry.2.orderColumn, entry.1.order⟩) := by
  have columns : final.columns = (entries.filterMap (·.2.projection?)).getLast?.getD "*" := by
    have projected : entries.filterMap (·.2.projection?) =
        (entries.filterMap (·.2.mainTable?)).map (· ++ ".*") := by
      rw [List.map_filterMap]
      rfl
    rw [SelectQuery.columns, sorted.projection_eq, projected, List.getLast?_map,
      List.filterMap_map]
    exact congrArg (Option.getD · "*") Option.or_none
  have joins : final.joins = keptJoins [] (entries.flatMap (·.2.joins)) := by
    rw [sorted.joins_eq, List.flatMap_map]
    rfl
  have terms : final.orderBy =
      entries.map fun entry => ⟨entry.2.orderColumn, entry.1.order⟩ := by
    rw [sorted.order_eq, List.map_map]
    rfl
  have named : final.table = table := sorted.table_eq
  rw [sql, columns, joins, terms, named]

end SelectQuery

open Report in
def Reading.lines : Reading → Except SortError (List Line)
  | malformed error => .error error
  | refused _ error => .error error
  | skipped directive => .ok [.heading directive, .ignored]
  | planned directive plan => .ok (.heading directive :: planLines plan directive.order)

namespace Report

variable (options : SortOptions)

theorem token_lines_parsed (raw : String) :
    (tokenLines options raw ()).result =
      (Directive.parse raw options.defaultOrder).bind (directiveLines options) := by
  rw [tokenLines, Run.result_bind, SortOptions.read_result]
  rfl

theorem token_lines_result (raw : String) :
    (tokenLines options raw ()).result = (options.reading raw).lines := by
  rw [token_lines_parsed]
  cases reading : options.reading raw with
  | malformed error =>
      rw [SortOptions.reading_malformed_iff.mp reading]
      rfl
  | refused directive error =>
      obtain ⟨parsed, unsupported, reported⟩ := SortOptions.reading_refused_iff.mp reading
      simp [parsed, Except.bind, directiveLines, unsupported, reported, Reading.lines]
  | skipped directive =>
      obtain ⟨parsed, error, unsupported, ignored⟩ := SortOptions.reading_skipped_iff.mp reading
      simp [parsed, Except.bind, directiveLines, unsupported, ignored, Reading.lines]
  | planned directive plan =>
      obtain ⟨parsed, classified⟩ := SortOptions.reading_planned_iff.mp reading
      simp only [parsed, Except.bind, directiveLines, classified, Reading.lines]

theorem lines_result_cons (raw : String) (rest : List String) :
    (lines options (raw :: rest) ()).result =
      (tokenLines options raw ()).result.bind fun block =>
        (lines options rest ()).result.map (block ++ ·) := by
  rw [lines, Run.result_bind]
  exact congrArg _ (funext fun block => Run.result_map (lines options rest) (block ++ ·) ())

theorem lines_result_append (first second : List String) :
    (lines options (first ++ second) ()).result =
      (lines options first ()).result.bind fun blocks =>
        (lines options second ()).result.map (blocks ++ ·) := by
  induction first with
  | nil =>
      have nothing : (lines options [] ()).result = .ok [] := rfl
      rw [List.nil_append, nothing]
      cases (lines options second ()).result with
      | error error => rfl
      | ok others => rfl
  | cons raw rest ih =>
      rw [List.cons_append, lines_result_cons, lines_result_cons, ih]
      cases (tokenLines options raw ()).result with
      | error error => rfl
      | ok block =>
          cases (lines options rest ()).result with
          | error error => rfl
          | ok blocks =>
              cases (lines options second ()).result with
              | error error => rfl
              | ok others => simp [Except.bind, Except.map]

theorem lines_result_singleton (raw : String) :
    (lines options [raw] ()).result = (tokenLines options raw ()).result := by
  have nothing : (lines options [] ()).result = .ok [] := rfl
  rw [lines_result_cons, nothing]
  cases (tokenLines options raw ()).result with
  | error error => rfl
  | ok block => simp [Except.bind, Except.map]

variable {options}

theorem lines_append_listed {first second : List String} {shown : List Line}
    (listed : (lines options (first ++ second) ()).result = .ok shown) :
    ∃ early late, (lines options first ()).result = .ok early ∧
      (lines options second ()).result = .ok late ∧ shown = early ++ late := by
  rw [lines_result_append, Run.bind_eq_ok_iff] at listed
  obtain ⟨early, early_lines, behind⟩ := listed
  obtain ⟨late, late_lines, rfl⟩ := Run.map_eq_ok_iff.mp behind
  exact ⟨early, late, early_lines, late_lines, rfl⟩

/-- Within a report a skipped token has a heading and a line about its shape. -/
theorem lines_result_skipped {raw : String} {directive : Directive}
    (reading : options.reading raw = .skipped directive) (before after : List String) :
    (lines options (before ++ raw :: after) ()).result =
      (lines options before ()).result.bind fun early =>
        (lines options after ()).result.map fun late =>
          early ++ [.heading directive, .ignored] ++ late := by
  rw [lines_result_append, lines_result_cons, token_lines_result, reading, Reading.lines]
  cases (lines options before ()).result with
  | error error => rfl
  | ok early =>
      cases (lines options after ()).result with
      | error error => rfl
      | ok late => simp [Except.bind, Except.map]

theorem lines_around_skipped {raw : String} {directive : Directive}
    (reading : options.reading raw = .skipped directive) {before after : List String}
    {shown : List Line} (listed : (lines options (before ++ raw :: after) ()).result = .ok shown) :
    ∃ early late, (lines options before ()).result = .ok early ∧
      (lines options after ()).result = .ok late ∧
      shown = early ++ [.heading directive, .ignored] ++ late := by
  rw [lines_result_skipped reading, Run.bind_eq_ok_iff] at listed
  obtain ⟨early, early_lines, behind⟩ := listed
  obtain ⟨late, late_lines, rfl⟩ := Run.map_eq_ok_iff.mp behind
  exact ⟨early, late, early_lines, late_lines, rfl⟩

theorem select_sql_skipped {directive : Directive}
    (bare : Text.StartsBare directive.field.toList) (table : String) (early late : List Line) :
    selectSql table (early ++ [.heading directive, .ignored] ++ late) =
      selectSql table (early ++ late) := by
  have shape_bare : Line.ignored.Bare := by
    intro directive same
    cases same
  have no_columns : Line.ignored.after? "select:" = none := after_select shape_bare
  have no_term : Line.ignored.after? "order:" = none := after_order shape_bare
  simp only [selectSql, join_texts_eq, List.filterMap_append, List.filterMap_cons,
    List.filterMap_nil, after_heading bare, no_columns, no_term, Line.clause?, List.append_nil]

/-- A report and a run without handlers fail with the same error, or the report shows the plans that
the run applies. -/
def Meets (options : SortOptions) (raws : List String) (query : SelectQuery) : Prop :=
  (∃ error, (lines options raws ()).result = .error error ∧
    (options.sortAll Model.plain raws query).result = .error error) ∨
  ∃ shown directives, (lines options raws ()).result = .ok shown ∧
    (options.sortAll Model.plain raws query).result = .ok directives ∧
    Shows shown (options.applied raws)

section Meeting

variable {raw : String} {query reached : SelectQuery} {events : List Event} {error : SortError}

theorem meets_of_failed_head (rest : List String)
    (failed : (tokenLines options raw ()).result = .error error)
    (stopped : options.sort Model.plain raw query = ⟨reached, events, .error error⟩) :
    Meets options (raw :: rest) query := by
  refine Or.inl ⟨error, ?_, ?_⟩
  · rw [lines_result_cons, failed]
    rfl
  · rw [SortOptions.sort_all_of_failed_head rest stopped]

theorem meets_of_shown_head {rest : List String} {directive : Directive} {block : List Line}
    {entries : List (Directive × JoinPlan)} (shown : (tokenLines options raw ()).result = .ok block)
    (sorted : options.sort Model.plain raw query = ⟨reached, events, .ok directive⟩)
    (head : Shows block entries)
    (applied : options.applied (raw :: rest) = entries ++ options.applied rest)
    (later : Meets options rest reached) : Meets options (raw :: rest) query := by
  rw [Meets, lines_result_cons, shown, SortOptions.sort_all_of_sorted_head rest sorted, applied]
  rcases later with ⟨error, failed, stopped⟩ | ⟨others, directives, ended, done, shows⟩
  · rw [failed, stopped]
    exact Or.inl ⟨error, rfl, rfl⟩
  · rw [ended, done]
    exact Or.inr ⟨block ++ others, directive :: directives, rfl, rfl, shows_append head shows⟩

end Meeting

theorem report_meets_run (options : SortOptions) (raws : List String) (query : SelectQuery) :
    Meets options raws query := by
  induction raws generalizing query with
  | nil => exact Or.inr ⟨[], [], rfl, rfl, shows_nil⟩
  | cons raw rest ih =>
      have shown : (tokenLines options raw ()).result = _ := token_lines_result options raw
      cases reading : options.reading raw with
      | malformed error =>
          rw [reading] at shown
          exact meets_of_failed_head rest shown
            (SortOptions.sort_of_malformed (SortOptions.reading_malformed_iff.mp reading))
      | refused directive error =>
          rw [reading] at shown
          exact meets_of_failed_head rest shown (SortOptions.sort_of_refused rfl reading)
      | skipped directive =>
          rw [reading] at shown
          have bare := (Directive.readable_of_parsed
            (SortOptions.reading_skipped_iff.mp reading).1).field_starts
          refine meets_of_shown_head shown (SortOptions.sort_of_skipped rfl reading query)
            (shows_ignored bare) ?_ (ih query)
          simp only [SortOptions.applied, reading, List.nil_append]
      | planned directive plan =>
          rw [reading] at shown
          have bare := (Directive.readable_of_parsed
            (SortOptions.reading_planned_iff.mp reading).1).field_starts
          obtain ⟨reached, events, -, sorted⟩ := SortOptions.sort_of_planned
            (SortOptions.plain_unhandled directive) reading query
          refine meets_of_shown_head shown sorted (shows_plan bare plan) ?_ (ih reached)
          simp only [SortOptions.applied, reading, List.singleton_append]

end Report

end PathSort
