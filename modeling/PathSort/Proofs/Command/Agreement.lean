import PathSort.Command
import PathSort.Proofs.Report.SelectFromLines

/-!
# The two commands agree

`plan` looks at each token by itself, and `explain` applies all of them to one query. Both are the
lines of the report in the end: the report is their text, and the SELECT is made of their parts. So
the commands fail together, and the SELECT can be told from the report. A token that is skipped has
two lines of the report and no part in the SELECT.
-/

namespace PathSort.Settings

set_option autoImplicit false

open Report in
theorem plan_result (settings : Settings) (palette : Palette) (raws : List String) :
    (settings.plan palette raws ()).result =
      ((lines settings.options raws ()).result.map (text palette)).mapError CommandError.sort := by
  rw [plan, Run.result_map, Run.mapError]
  cases (lines settings.options raws ()).result with
  | error error => rfl
  | ok shown => rfl

theorem explain_result (table : String) (options : SortOptions) (raws : List String) :
    let sorted := options.sortAll Model.plain raws (SelectQuery.ofTable table)
    (explain ⟨some table, options⟩ raws ()).result =
      (sorted.result.map fun _ => sorted.state.sql).mapError CommandError.sort := by
  intro sorted
  have selected : (selectFrom ⟨some table, options⟩ table raws (.ofTable table)).result =
      sorted.result.map fun _ => sorted.state.sql := by
    rw [selectFrom, Run.result_bind]
    cases sorted.result with
    | error error => rfl
    | ok directives => rfl
  exact congrArg (Except.mapError CommandError.sort) selected

theorem explain_from_lines (table : String) (options : SortOptions) (raws : List String) :
    (explain ⟨some table, options⟩ raws ()).result =
      ((Report.lines options raws ()).result.map (Report.selectSql table)).mapError
        CommandError.sort := by
  rw [explain_result]
  rcases Report.report_meets_run options raws (.ofTable table) with
    ⟨error, failed, stopped⟩ | ⟨shown, directives, ended, sorted, shows⟩
  · rw [failed, stopped]
    rfl
  · have closed := SortOptions.sort_all_sorted (SelectQuery.of_table_indexed table) options raws
    rw [ended, sorted]
    simp only [Except.map, SelectQuery.sorted_sql_eq closed, Report.select_sql_eq_render shows]

/-- Without a skipped token the SELECT is the same, or the same error. -/
theorem explain_without_skipped {options : SortOptions} {raw : String} {directive : Directive}
    (reading : options.reading raw = .skipped directive) (table : String)
    (before after : List String) :
    (explain ⟨some table, options⟩ (before ++ raw :: after) ()).result =
      (explain ⟨some table, options⟩ (before ++ after) ()).result := by
  rw [explain_from_lines, explain_from_lines,
    Report.lines_result_skipped reading, Report.lines_result_append]
  cases (Report.lines options before ()).result with
  | error error => rfl
  | ok early =>
      cases (Report.lines options after ()).result with
      | error error => rfl
      | ok late =>
          have bare := (Directive.readable_of_parsed
            (SortOptions.reading_skipped_iff.mp reading).1).field_starts
          have same := Report.select_sql_skipped bare table early late
          simp only [Except.bind, Except.map, same]

/-- On a given table the commands fail with the same errors. When they succeed, the SELECT is what
the lines of the report come to, in their plain text: the last projection, the joins without those
to a table that an earlier join line has, and the ORDER BY terms. A token that is skipped has a
heading and a line about its shape, and the SELECT is the one without it. -/
theorem explain_agrees_with_plan (table : String) (options : SortOptions) (raws : List String) :
    let settings : Settings := ⟨some table, options⟩
    let planned := (settings.plan .plain raws ()).result
    let explained := (settings.explain raws ()).result
    (∀ error, planned = .error error ↔ explained = .error error) ∧
    (∀ report, planned = .ok report →
      ∃ shown, (Report.lines options raws ()).result = .ok shown ∧
        report = Report.text .plain shown ∧
        explained = .ok (Report.selectSql table shown)) ∧
    ∀ before raw after directive error, raws = before ++ raw :: after →
      Directive.parse raw options.defaultOrder = .ok directive →
      JoinPlan.classify directive.field = .error error → options.ignores error = true →
        explained = (settings.explain (before ++ after) ()).result ∧
        ∀ shown, (Report.lines options raws ()).result = .ok shown →
          ∃ early late, (Report.lines options before ()).result = .ok early ∧
            (Report.lines options after ()).result = .ok late ∧
            shown = early ++ [.heading directive, .ignored] ++ late := by
  intro settings planned explained
  have plan_lines : planned = _ := plan_result settings .plain raws
  have explain_lines : explained = _ := explain_from_lines table options raws
  refine ⟨?_, ?_, ?_⟩
  · intro error
    rw [plan_lines, explain_lines]
    cases (Report.lines options raws ()).result with
    | error failure => rfl
    | ok shown => simp [Except.map, Except.mapError]
  · intro report listed
    rw [plan_lines] at listed
    rw [explain_lines]
    cases ended : (Report.lines options raws ()).result with
    | error failure =>
        rw [ended] at listed
        cases listed
    | ok shown =>
        rw [ended] at listed
        exact ⟨shown, rfl, (Except.ok.inj listed).symm, rfl⟩
  · rintro before raw after directive error rfl parsed unsupported ignored
    have reading : options.reading raw = .skipped directive :=
      SortOptions.reading_skipped_iff.mpr ⟨parsed, error, unsupported, ignored⟩
    exact ⟨explain_without_skipped reading table before after,
      fun _ => Report.lines_around_skipped reading⟩

/-- The second token is skipped, and the third one needs a join that the first one made. -/
theorem explain_agrees_with_plan_skipping :
    let options : SortOptions := ⟨.asc, .ignore⟩
    let settings : Settings := ⟨some "posts", options⟩
    let raws := ["posts.tags.tag_id.name.pivot.post_tag.post_id", "posts.comments,desc",
      "posts.tags.post_id.label,desc"]
    let report := "posts.tags.tag_id.name.pivot.post_tag.post_id,asc\n" ++
      "  shape: pivot\n" ++
      "  join: LEFT JOIN post_tag ON post_tag.post_id = posts.id\n" ++
      "  join: LEFT JOIN tags ON post_tag.tag_id = tags.id\n" ++
      "  select: posts.*\n" ++
      "  order: tags.name ASC\n" ++
      "posts.comments,desc\n" ++
      "  shape: unsupported (ignored)\n" ++
      "posts.tags.post_id.label,desc\n" ++
      "  shape: normal\n" ++
      "  join: LEFT JOIN tags ON tags.post_id = posts.id\n" ++
      "  select: posts.*\n" ++
      "  order: tags.label DESC\n"
    (settings.plan .plain raws ()).result = .ok report ∧
    (∃ shown, report = Report.text .plain shown ∧
      (settings.explain raws ()).result = .ok (Report.selectSql "posts" shown)) ∧
    (settings.explain raws ()).result = (settings.explain [raws[0], raws[2]] ()).result ∧
    (settings.explain raws ()).result = .ok ("SELECT posts.* FROM posts " ++
      "LEFT JOIN post_tag ON post_tag.post_id = posts.id " ++
      "LEFT JOIN tags ON post_tag.tag_id = tags.id ORDER BY tags.name ASC, tags.label DESC") := by
  intro options settings raws report
  have planned : (settings.plan .plain raws ()).result = .ok report := by
    decide +kernel
  have parsed : Directive.parse "posts.comments,desc" .asc =
      .ok ⟨"posts.comments", .desc, by decide⟩ := by
    decide +kernel
  have unsupported : JoinPlan.classify "posts.comments" =
      .error (.unsupportedJoinPattern "posts.comments" 2) := by
    decide +kernel
  obtain ⟨-, succeeds, skips⟩ := explain_agrees_with_plan "posts" options raws
  obtain ⟨shown, -, whole, selected⟩ := succeeds report planned
  have without := (skips [_] _ [_] _ _ rfl parsed unsupported rfl).1
  refine ⟨planned, ⟨shown, whole, selected⟩, without, ?_⟩
  decide +kernel

end PathSort.Settings
