import PathSort.Proofs.Sorting.Tokens

/-!
# The first failure ends a run

Running two lists of tokens as one is running the second where the first one ended, so a list that
fails makes whatever follows it unseen. A run that fails does so at one token: the tokens before it
succeed, and their query is left untouched by that token unless a handler took it over, whose work
is all that is added.
-/

namespace PathSort.SortOptions

set_option autoImplicit false

variable {Q : Type} [QueryBuilder Q] (options : SortOptions) (model : Model Q)

theorem sort_all_append (first second : List String) :
    options.sortAll model (first ++ second) =
      (do
        let directives ← options.sortAll model first
        let others ← options.sortAll model second
        pure (directives ++ others)) := by
  induction first with
  | nil =>
      rw [List.nil_append, sortAll, Run.pure_bind]
      exact (Run.bind_pure _).symm
  | cons raw rest ih =>
      rw [List.cons_append, sortAll, sortAll, ih]
      simp only [Run.bind_assoc, Run.pure_bind, List.cons_append]

theorem sort_all_append_of_failed {query : Q} {first : List String} {error : SortError}
    (failed : (options.sortAll model first query).result = .error error) (second : List String) :
    options.sortAll model (first ++ second) query = options.sortAll model first query := by
  rcases ended : options.sortAll model first query with ⟨reached, events, failure | directives⟩
  · rw [sort_all_append, Run.bind_of_error ended]
  · rw [ended] at failed
    cases failed

theorem sort_all_append_of_sorted {query : Q} {first : List String}
    {directives : List Directive}
    (sorted : (options.sortAll model first query).result = .ok directives)
    (second : List String) :
    options.sortAll model (first ++ second) query =
      ⟨(options.sortAll model second (options.sortAll model first query).state).state,
        (options.sortAll model first query).events ++
          (options.sortAll model second (options.sortAll model first query).state).events,
        (options.sortAll model second (options.sortAll model first query).state).result.map
          (directives ++ ·)⟩ := by
  rcases ended : options.sortAll model first query with ⟨reached, events, failure | sortedFirst⟩
  · rw [ended] at sorted
    cases sorted
  · rw [ended] at sorted
    cases sorted
    rw [sort_all_append, Run.bind_of_ok ended]
    rcases later : options.sortAll model second reached with ⟨final, more, failure | others⟩
    · rw [Run.bind_of_error later]
      rfl
    · rw [Run.bind_of_ok later, Run.pure_apply]
      simp [Outcome.after, Except.map]

variable {options model}

/-- A run that fails reaches its failing token by tokens that succeed. -/
theorem failing_token_of_failed {query : Q} {raws : List String} {error : SortError}
    (failed : (options.sortAll model raws query).result = .error error) :
    ∃ before raw after directives, raws = before ++ raw :: after ∧
      (options.sortAll model before query).result = .ok directives ∧
      (options.sort model raw (options.sortAll model before query).state).result =
        .error error ∧
      (options.sortAll model raws query).state =
        (options.sort model raw (options.sortAll model before query).state).state := by
  induction raws generalizing query with
  | nil => cases failed
  | cons raw rest ih =>
      rcases ended : options.sort model raw query with ⟨reached, events, failure | directive⟩
      · rw [sort_all_of_failed_head rest ended] at failed ⊢
        cases failed
        refine ⟨[], raw, rest, [], rfl, rfl, ?_, ?_⟩
        · exact congrArg Outcome.result ended
        · exact (congrArg Outcome.state ended).symm
      · have whole := sort_all_of_sorted_head rest ended
        rw [whole] at failed ⊢
        have laterFailed : (options.sortAll model rest reached).result = .error error :=
          Run.map_eq_error_iff.mp failed
        obtain ⟨before, failing, after, directives, rfl, sorted, stopped, left⟩ := ih laterFailed
        have head := sort_all_of_sorted_head before ended
        refine ⟨raw :: before, failing, after, directive :: directives, rfl, ?_, ?_, ?_⟩
        · rw [head, sorted]
          rfl
        · rw [head]
          exact stopped
        · rw [head]
          exact left

theorem apply_of_sort_failed {query : Q} {raw : String} {directive : Directive}
    {error : SortError} (parsed : Directive.parse raw options.defaultOrder = .ok directive)
    (failed : (options.sort model raw query).result = .error error) :
    (options.apply model directive query).result = .error error ∧
      (options.sort model raw query).state = (options.apply model directive query).state := by
  rcases ended : options.apply model directive query with ⟨reached, events, failure | done⟩
  · rw [sort_of_failed parsed ended] at failed ⊢
    cases failed
    exact ⟨rfl, rfl⟩
  · rw [sort_of_applied parsed ended] at failed
    cases failed

theorem resolve_of_apply_failed {query : Q} {directive : Directive} {error : SortError}
    (failed : (options.apply model directive query).result = .error error) :
    (resolve model directive query).result = .error error ∧
      (options.apply model directive query).state = (resolve model directive query).state := by
  rcases ended : resolve model directive query with ⟨reached, events, failure | done⟩
  · cases ignored : options.ignores failure with
    | true =>
        rw [apply_of_ignored ended ignored] at failed
        cases failed
    | false =>
        rw [apply_of_reported ended ignored] at failed ⊢
        cases failed
        exact ⟨rfl, rfl⟩
  · rw [apply_of_ok ended] at failed
    cases failed

/-- A failing token that a handler takes over leaves what the handler did before it failed. -/
theorem sort_failed_handled {query : Q} {raw : String} {error : SortError}
    {directive : Directive} {handler : Handler Q}
    (failed : (options.sort model raw query).result = .error error)
    (parsed : Directive.parse raw options.defaultOrder = .ok directive)
    (handled : model directive.field = some handler) :
    (handler directive.order query).result = .error error ∧
      (options.sort model raw query).state = (handler directive.order query).state := by
  obtain ⟨applyFailed, left⟩ := apply_of_sort_failed parsed failed
  obtain ⟨resolveFailed, leftBefore⟩ := resolve_of_apply_failed applyFailed
  rw [resolve_of_handler handled] at resolveFailed leftBefore
  exact ⟨resolveFailed, left.trans leftBefore⟩

/-- A failing token that no handler takes over changes nothing, whatever it fails at. -/
theorem sort_failed_unhandled {query : Q} {raw : String} {error : SortError}
    (failed : (options.sort model raw query).result = .error error)
    (unhandled : ∀ directive, Directive.parse raw options.defaultOrder = .ok directive →
      model directive.field = none) :
    (options.sort model raw query).state = query := by
  rcases parsed : Directive.parse raw options.defaultOrder with refusal | directive
  · rw [sort_of_malformed parsed]
  · obtain ⟨applyFailed, left⟩ := apply_of_sort_failed parsed failed
    obtain ⟨resolveFailed, leftBefore⟩ := resolve_of_apply_failed applyFailed
    rw [(resolve_failed_unhandled (unhandled directive parsed) resolveFailed).2] at leftBefore
    exact left.trans leftBefore

/-- A list of tokens that fails makes every token after it unseen, and one that succeeds is gone on
from as if the rest were a run of its own. A run fails at one token after tokens that succeed, and
adds to their query nothing but what a handler of that token did before it failed. -/
theorem sort_all_stops_at_first_failure (options : SortOptions) (model : Model Q) (query : Q) :
    (∀ (first second : List String) (error : SortError),
      (options.sortAll model first query).result = .error error →
        options.sortAll model (first ++ second) query = options.sortAll model first query) ∧
    (∀ (first second : List String) (directives : List Directive),
      (options.sortAll model first query).result = .ok directives →
        options.sortAll model (first ++ second) query =
          ⟨(options.sortAll model second (options.sortAll model first query).state).state,
            (options.sortAll model first query).events ++
              (options.sortAll model second (options.sortAll model first query).state).events,
            (options.sortAll model second
              (options.sortAll model first query).state).result.map (directives ++ ·)⟩) ∧
    ∀ (raws : List String) (error : SortError),
      (options.sortAll model raws query).result = .error error →
        ∃ before raw after directives, raws = before ++ raw :: after ∧
          (options.sortAll model before query).result = .ok directives ∧
          let reached := (options.sortAll model before query).state
          (options.sort model raw reached).result = .error error ∧
          ((∀ directive, Directive.parse raw options.defaultOrder = .ok directive →
            model directive.field = none) →
              (options.sortAll model raws query).state = reached) ∧
          ∀ directive handler, Directive.parse raw options.defaultOrder = .ok directive →
            model directive.field = some handler →
              (handler directive.order reached).result = .error error ∧
              (options.sortAll model raws query).state =
                (handler directive.order reached).state := by
  refine ⟨fun first second error failed => sort_all_append_of_failed options model failed second,
    fun first second directives sorted => sort_all_append_of_sorted options model sorted second,
    ?_⟩
  intro raws error failed
  obtain ⟨before, raw, after, directives, split, sorted, stopped, left⟩ :=
    failing_token_of_failed failed
  refine ⟨before, raw, after, directives, split, sorted, stopped, ?_, ?_⟩
  · intro unhandled
    exact left.trans (sort_failed_unhandled stopped unhandled)
  · intro directive handler parsed handled
    obtain ⟨handlerFailed, kept⟩ := sort_failed_handled stopped parsed handled
    exact ⟨handlerFailed, left.trans kept⟩

/-- A handler orders by a column of its own and then fails; the token after it is unseen. -/
theorem sort_all_stops_at_refusing_handler :
    let model : Model SelectQuery := fun field =>
      if field = "score" then some fun order => do
        Run.update (QueryBuilder.orderBy · ⟨"rank", order⟩)
        Run.fail (.custom "score is not sortable")
      else none
    let query := SelectQuery.ofTable "posts"
    let raws := ["title", "score,desc"]
    ((standard.sortAll model raws query).result = .error (.custom "score is not sortable") ∧
      (standard.sortAll model raws query).state.orderBy = [⟨"title", .asc⟩, ⟨"rank", .desc⟩]) ∧
    standard.sortAll model (raws ++ ["created_at"]) query = standard.sortAll model raws query := by
  intro model query raws
  have failed : (standard.sortAll model raws query).result =
      .error (.custom "score is not sortable") := by
    decide +kernel
  have kept : (standard.sortAll model raws query).state.orderBy =
      [⟨"title", .asc⟩, ⟨"rank", .desc⟩] := by
    decide +kernel
  exact ⟨⟨failed, kept⟩,
    (sort_all_stops_at_first_failure standard model query).1 raws ["created_at"] _ failed⟩

end PathSort.SortOptions
