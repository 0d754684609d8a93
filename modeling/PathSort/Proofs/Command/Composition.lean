import PathSort.Proofs.Command.ExplainedQueries
import PathSort.Proofs.Report.Blocks

/-!
# Reports of several lists of tokens

`plan` on two lists of tokens in a row writes what it writes on each of them, one after the other,
and fails as the first of them that fails. It keeps nothing from one token to the next: its text is
the blocks of the tokens, and a join that several tokens need is shown in the block of each, while
`explain` makes it once. An empty list is the exception, because a report on nothing still has a
line feed. -/

namespace PathSort.Settings

set_option autoImplicit false

section Endings

variable {settings : Settings} {palette : Report.Palette} {raws : List String}

theorem plan_ok_iff (report : String) :
    (settings.plan palette raws ()).result = .ok report ↔
      ∃ shown, (Report.lines settings.options raws ()).result = .ok shown ∧
        Report.text palette shown = report := by
  rw [plan_result, Run.map_error_eq_ok_iff, Run.map_eq_ok_iff]

theorem plan_failed_iff (error : CommandError) :
    (settings.plan palette raws ()).result = .error error ↔
      ∃ failure, (Report.lines settings.options raws ()).result = .error failure ∧
        .sort failure = error := by
  simp only [plan_result, Run.map_error_eq_error_iff, Run.map_eq_error_iff]

/-- A report on some tokens is the text of lines that are each ended by a line feed. -/
theorem plan_printed {report : String} (some_token : raws ≠ [])
    (planned : (settings.plan palette raws ()).result = .ok report) :
    ∃ shown, (Report.lines settings.options raws ()).result = .ok shown ∧
      Report.Closed shown ∧ report = Report.printed palette shown := by
  obtain ⟨shown, listed, rfl⟩ := (plan_ok_iff report).mp planned
  have closed := Report.lines_closed some_token listed
  exact ⟨shown, listed, closed, Report.text_eq_printed palette (Report.some_line_of_closed closed)⟩

end Endings

variable {settings : Settings} {palette : Report.Palette} {first second : List String}

theorem plan_append {report other : String}
    (planned : (settings.plan palette first ()).result = .ok report)
    (planned_other : (settings.plan palette second ()).result = .ok other)
    (some_first : first ≠ []) (some_second : second ≠ []) :
    (settings.plan palette (first ++ second) ()).result = .ok (report ++ other) := by
  obtain ⟨early, early_lines, -, rfl⟩ := plan_printed some_first planned
  obtain ⟨late, late_lines, late_closed, rfl⟩ := plan_printed some_second planned_other
  have whole : (Report.lines settings.options (first ++ second) ()).result =
      .ok (early ++ late) := by
    rw [Report.lines_result_append, early_lines, late_lines]
    rfl
  have some_line := Report.some_line_of_closed (Report.closed_append late_closed early)
  refine (plan_ok_iff _).mpr ⟨early ++ late, whole, ?_⟩
  rw [Report.text_eq_printed palette some_line, Report.printed_append]

/-- On no tokens there is a line feed nevertheless. -/
theorem plan_nothing (settings : Settings) (palette : Report.Palette) :
    (settings.plan palette [] ()).result = .ok "\n" :=
  (plan_ok_iff "\n").mpr ⟨[], rfl, Report.text_nil palette⟩

theorem some_tokens_of_plan_append {report other : String}
    (planned : (settings.plan palette first ()).result = .ok report)
    (planned_other : (settings.plan palette second ()).result = .ok other)
    (whole : (settings.plan palette (first ++ second) ()).result = .ok (report ++ other)) :
    first ≠ [] ∧ second ≠ [] := by
  constructor
  · rintro rfl
    rw [plan_nothing] at planned
    cases planned
    rw [List.nil_append, planned_other] at whole
    have lengths := congrArg String.length (Except.ok.inj whole)
    simp at lengths
  · rintro rfl
    rw [plan_nothing] at planned_other
    cases planned_other
    rw [List.append_nil, planned] at whole
    have lengths := congrArg String.length (Except.ok.inj whole)
    simp at lengths

theorem plan_append_of_failed {error : CommandError}
    (failed : (settings.plan palette first ()).result = .error error) (second : List String) :
    (settings.plan palette (first ++ second) ()).result = .error error := by
  obtain ⟨failure, stopped, rfl⟩ := (plan_failed_iff error).mp failed
  refine (plan_failed_iff _).mpr ⟨failure, ?_, rfl⟩
  rw [Report.lines_result_append, stopped]
  rfl

theorem plan_append_of_failed_behind {report : String} {error : CommandError}
    (planned : (settings.plan palette first ()).result = .ok report)
    (failed : (settings.plan palette second ()).result = .error error) :
    (settings.plan palette (first ++ second) ()).result = .error error := by
  obtain ⟨early, early_lines, -⟩ := (plan_ok_iff report).mp planned
  obtain ⟨failure, stopped, rfl⟩ := (plan_failed_iff error).mp failed
  refine (plan_failed_iff _).mpr ⟨failure, ?_, rfl⟩
  rw [Report.lines_result_append, early_lines, stopped]
  rfl

theorem plan_eq_blocks {raws : List String} (some_token : raws ≠ []) :
    (settings.plan palette raws ()).result =
      ((raws.mapM (Report.block settings.options palette)).map String.join).mapError .sort := by
  rw [plan_result, ← Report.printed_lines_eq_blocks]
  cases listed : (Report.lines settings.options raws ()).result with
  | error failure => rfl
  | ok shown =>
      have some_line := Report.some_line_of_closed (Report.lines_closed some_token listed)
      simp only [Except.map, Report.text_eq_printed palette some_line]

/-- The lines of a report show the joins of every plan in full, and the query on a table is given
those of them that bring a new table. -/
theorem listed_joins {options : SortOptions} {raws : List String} {shown : List Report.Line}
    (listed : (Report.lines options raws ()).result = .ok shown) :
    shown.filterMap Report.Line.clause? = (options.applied raws).flatMap (·.2.joins) ∧
      ∀ table, (options.sortedQuery table raws).joins =
        keptJoins [] (shown.filterMap Report.Line.clause?) := by
  have clauses : shown.filterMap Report.Line.clause? =
      (options.applied raws).flatMap (·.2.joins) := by
    rcases Report.report_meets_run options raws (.ofTable "") with
      ⟨error, failed, -⟩ | ⟨lines, directives, ended, -, shows⟩
    · rw [failed] at listed
      cases listed
    · rw [ended] at listed
      cases listed
      exact shows.clauses_eq
  refine ⟨clauses, ?_⟩
  intro table
  have sorted := SortOptions.sort_all_sorted (SelectQuery.of_table_indexed table) options raws
  rw [clauses, SortOptions.sortedQuery, sorted.joins_eq, List.flatMap_map]
  rfl

/-- Where neither list of tokens is empty, and only there, the report on both of them is the one
followed by the other, and it fails as the first of them that fails. It is the blocks of its tokens,
which are made from the token and the options alone, so that joins are shown once more by every
token that needs them. It ends with the line feed of its last line and no other. -/
theorem plan_report_compositional (settings : Settings) (palette : Report.Palette) :
    let planned := fun raws => (settings.plan palette raws ()).result
    (∀ first second report other, planned first = .ok report → planned second = .ok other →
      (planned (first ++ second) = .ok (report ++ other) ↔ first ≠ [] ∧ second ≠ [])) ∧
    (∀ first second error, planned first = .error error →
      planned (first ++ second) = .error error) ∧
    (∀ first second report error, planned first = .ok report → planned second = .error error →
      planned (first ++ second) = .error error) ∧
    (∀ raws, raws ≠ [] → planned raws =
      ((raws.mapM (Report.block settings.options palette)).map String.join).mapError .sort) ∧
    ∀ raws report, raws ≠ [] → planned raws = .ok report →
      Report.EndsOnce report ∧
      ∃ shown, (Report.lines settings.options raws ()).result = .ok shown ∧
        report = Report.printed palette shown ∧
        shown.filterMap Report.Line.clause? =
          (settings.options.applied raws).flatMap (·.2.joins) ∧
        ∀ table, (settings.options.sortedQuery table raws).joins =
          keptJoins [] (shown.filterMap Report.Line.clause?) := by
  intro planned
  refine ⟨?_, fun _ second _ failed => plan_append_of_failed failed second,
    fun _ _ _ _ => plan_append_of_failed_behind, fun _ => plan_eq_blocks, ?_⟩
  · intro first second report other planned_first planned_second
    constructor
    · exact some_tokens_of_plan_append planned_first planned_second
    · rintro ⟨some_first, some_second⟩
      exact plan_append planned_first planned_second some_first some_second
  · intro raws report some_token planned_raws
    obtain ⟨shown, listed, closed, rfl⟩ := plan_printed some_token planned_raws
    obtain ⟨every_join, made_joins⟩ := listed_joins listed
    exact ⟨Report.ends_once_of_closed closed palette, shown, listed, rfl, every_join, made_joins⟩

/-- Both lists need the table of tags, the first one holds a token that is skipped, and a third one
has a token that cannot be read. -/
theorem plan_report_compositional_shared :
    let settings : Settings := ⟨none, ⟨.asc, .ignore⟩⟩
    let planned := fun raws => (settings.plan .plain raws ()).result
    let first := ["posts.tags.tag_id.name.pivot.post_tag.post_id", "posts.comments,desc"]
    let second := ["posts.tags.post_id.label,desc"]
    let refused := ["title", "name,DESC"]
    let report := "posts.tags.tag_id.name.pivot.post_tag.post_id,asc\n" ++
      "  shape: pivot\n" ++
      "  join: LEFT JOIN post_tag ON post_tag.post_id = posts.id\n" ++
      "  join: LEFT JOIN tags ON post_tag.tag_id = tags.id\n" ++
      "  select: posts.*\n" ++
      "  order: tags.name ASC\n" ++
      "posts.comments,desc\n" ++
      "  shape: unsupported (ignored)\n"
    let other := "posts.tags.post_id.label,desc\n" ++
      "  shape: normal\n" ++
      "  join: LEFT JOIN tags ON tags.post_id = posts.id\n" ++
      "  select: posts.*\n" ++
      "  order: tags.label DESC\n"
    let error : CommandError := .sort (.malformedDirective "name,DESC")
    planned first = .ok report ∧ planned second = .ok other ∧
    planned (first ++ second) = .ok (report ++ other) ∧
    planned refused = .error error ∧ planned (refused ++ first) = .error error ∧
    planned (first ++ refused) = .error error ∧
    Report.EndsOnce (report ++ other) ∧
    ∃ shown, report ++ other = Report.printed .plain shown ∧
      (shown.filterMap Report.Line.clause?).map JoinClause.table = ["post_tag", "tags", "tags"] ∧
      (settings.options.sortedQuery "posts" (first ++ second)).targets = ["post_tag", "tags"] := by
  intro settings planned first second refused report other error
  have planned_first : planned first = .ok report := by decide +kernel
  have planned_second : planned second = .ok other := by decide +kernel
  have failed : planned refused = .error error := by decide +kernel
  obtain ⟨appends, fails, fails_behind, -, ends⟩ := plan_report_compositional settings .plain
  have whole : planned (first ++ second) = .ok (report ++ other) :=
    (appends first second report other planned_first planned_second).mpr ⟨by decide, by decide⟩
  obtain ⟨ended, shown, -, written, every_join, made_joins⟩ := ends _ _ (by decide) whole
  refine ⟨planned_first, planned_second, whole, failed, fails refused first error failed,
    fails_behind first refused report error planned_first failed, ended, shown, written, ?_, ?_⟩
  · rw [every_join]
    decide +kernel
  · rw [SelectQuery.targets, made_joins, every_join]
    decide +kernel

end PathSort.Settings
