import PathSort.Proofs.Command.Agreement
import PathSort.Proofs.Sorting.IgnoredPatterns
import PathSort.Proofs.Sorting.Stories

/-!
# The trace of a command

The trace of a run tells the stories of its tokens and nothing else. `explain` has the trace of the
run that it makes, and says in the end how many tokens it was given if it writes a SELECT.
-/

namespace PathSort.Settings

set_option autoImplicit false

/-- A run that succeeds gives one directive for each token, skipped tokens included. -/
theorem sorted_directives_count {Q : Type} [QueryBuilder Q] {options : SortOptions}
    {model : Model Q} {raws : List String} {query : Q} {directives : List Directive}
    (sorted : (options.sortAll model raws query).result = .ok directives) :
    directives.length = raws.length :=
  (SortOptions.sort_all_directives sorted).length_eq.symm

theorem explain_events (table : String) (options : SortOptions) (raws : List String) :
    let explained := explain ⟨some table, options⟩ raws ()
    explained.events =
      (options.sortAll Model.plain raws (SelectQuery.ofTable table)).events ++
        if explained.result.isOk then [.explained table raws.length] else [] := by
  intro explained
  have same_end : explained.result = _ := explain_result table options raws
  have own_events : explained.events =
      (selectFrom ⟨some table, options⟩ table raws (.ofTable table)).events := rfl
  rw [own_events, same_end, selectFrom]
  rcases ended : options.sortAll Model.plain raws (SelectQuery.ofTable table) with
    ⟨reached, events, error | directives⟩
  · rw [Run.bind_of_error ended]
    exact (List.append_nil events).symm
  · have counted : directives.length = raws.length :=
      sorted_directives_count (congrArg Outcome.result ended)
    rw [Run.bind_of_ok ended, counted]
    rfl

/-- The events of a run without handlers are the stories of its tokens, up to the first one that
ends it, and the joins that they report as added are those that the query has gained, in order,
however the run ends. `explain` adds one event that counts the tokens when it succeeds, and none
when it fails. -/
theorem trace_tells_stories (options : SortOptions) (raws : List String) :
    (∀ query : SelectQuery,
      let outcome := options.sortAll Model.plain raws query
      let told := options.stories query.joined raws
      outcome.events = told.flatMap Story.events ∧
      outcome.result.isOk = told.all (!·.endsRun) ∧
      outcome.state.joins = query.joins ++ told.flatMap Story.appended ∧
      outcome.events.filterMap Event.addedTable? =
        (told.flatMap Story.appended).map JoinClause.table) ∧
    (∀ table,
      let explained := explain ⟨some table, options⟩ raws ()
      explained.events = (options.stories [] raws).flatMap Story.events ++
        if explained.result.isOk then [.explained table raws.length] else []) ∧
    (explain ⟨none, options⟩ raws ()).result = .error .missingTable ∧
    (explain ⟨none, options⟩ raws ()).events = [] := by
  refine ⟨?_, ?_, rfl, rfl⟩
  · intro query outcome told
    have tells : outcome.ToldBy query told := SortOptions.sort_all_told options raws query
    refine ⟨tells.events_eq, tells.ends_iff, tells.joins_eq, ?_⟩
    rw [tells.events_eq, List.filterMap_flatMap, List.map_flatMap]
    simp only [Story.added_tables]
  · intro table explained
    have tells := SortOptions.sort_all_told options raws (SelectQuery.ofTable table)
    have traced : explained.events = _ := explain_events table options raws
    rw [traced, tells.events_eq]
    rfl

/-- The second token is skipped and counts, and the third one needs a join that is there already. -/
example :
    (explain ⟨some "posts", ⟨.asc, .ignore⟩⟩
      ["posts.tags.post_id.label", "posts.tags", "posts.tags.post_id.name,desc"] ()).events =
      [ .directive "posts.tags.post_id.label" .asc, .join "tags" .added,
        .directive "posts.tags" .asc, .patternIgnored "posts.tags",
        .directive "posts.tags.post_id.name" .desc, .join "tags" .duplicate,
        .explained "posts" 3 ] := by
  decide +kernel

end PathSort.Settings
