import Mathlib.Data.List.Forall2
import PathSort.Hook.Action
import PathSort.Proofs.JoinPlan.Grammar
import PathSort.Proofs.Sorting.Tokens
import PathSort.Session

/-!
# Ignored patterns

With the policy to ignore them, a directive whose field spells no plan is skipped. When no handler
takes the field over, nothing was done by then, and the query stays as it was. When a handler took
over and failed with such an error itself, its work up to there stays.

So if handlers do not fail in this way, ignoring comes to deleting: a run that ignores does, token
by token, what the strict run on the other tokens does, and reports two events for each token
between them that it skips. -/

namespace PathSort

set_option autoImplicit false

variable {Q : Type}

/-- No handler takes the directive over, and its field spells no plan. -/
def Model.unresolved (model : Model Q) (directive : Directive) : Bool :=
  (model directive.field).isNone && !(JoinPlan.classify directive.field).isOk

def Model.NeverUnsupported (model : Model Q) : Prop :=
  ∀ field handler, model field = some handler → ∀ order query error,
    (handler order query).result = .error error → error.isUnsupported = false

theorem unresolved_iff {model : Model Q} {directive : Directive} :
    model.unresolved directive = true ↔
      model directive.field = none ∧ ∃ error, JoinPlan.classify directive.field = .error error := by
  rw [Model.unresolved, Bool.and_eq_true, Option.isNone_iff_eq_none]
  apply and_congr_right
  intro _
  cases JoinPlan.classify directive.field with
  | error error => simp [Except.isOk, Except.toBool]
  | ok plan => simp [Except.isOk, Except.toBool]

namespace SortOptions

def skips (model : Model Q) (fallback : Direction) (raw : String) : Bool :=
  match Directive.parse raw fallback with
  | .ok directive => model.unresolved directive
  | .error _ => false

def kept (model : Model Q) (fallback : Direction) (raws : List String) : List String :=
  raws.filter fun raw => !skips model fallback raw

theorem skips_of_parsed {model : Model Q} {fallback : Direction} {raw : String}
    {directive : Directive} (parsed : Directive.parse raw fallback = .ok directive) :
    skips model fallback raw = model.unresolved directive := by
  rw [skips, parsed]

theorem ignores_classify_error (fallback : Direction) {field : String} {error : SortError}
    (unsupported : JoinPlan.classify field = .error error) :
    SortOptions.ignores ⟨fallback, .ignore⟩ error = true := by
  rw [JoinPlan.classify_error_eq unsupported]
  rfl

variable [QueryBuilder Q] {model : Model Q}

section OneDirective

variable {options : SortOptions} {directive : Directive} {query : Q} {error : SortError}

theorem apply_ignored (failed : (resolve model directive query).result = .error error)
    (ignored : options.ignores error = true) :
    options.apply model directive query =
      ⟨(resolve model directive query).state,
        (resolve model directive query).events ++ [.patternIgnored directive.field], .ok ()⟩ := by
  rcases ended : resolve model directive query with ⟨reached, events, failure | done⟩
  · rw [ended] at failed
    cases failed
    exact apply_of_ignored ended ignored
  · rw [ended] at failed
    cases failed

/-- Where no error is ignored, the policy makes no difference. -/
theorem apply_eq_resolve (reported : ∀ failure,
      (resolve model directive query).result = .error failure → options.ignores failure = false) :
    options.apply model directive query = resolve model directive query := by
  rcases ended : resolve model directive query with ⟨reached, events, failure | done⟩
  · rw [ended] at reported
    exact apply_of_reported ended (reported failure rfl)
  · exact apply_of_ok ended

end OneDirective

/-- A directive whose failure is ignored leaves what there was when it failed: the query as it was
when no handler took over, and otherwise what the handler made of it. -/
theorem ignored_untouched_iff (options : SortOptions) (model : Model Q) (directive : Directive)
    (query : Q) (error : SortError)
    (failed : (resolve model directive query).result = .error error)
    (ignored : options.ignores error = true) :
    let outcome := options.apply model directive query
    outcome.result = .ok () ∧
    outcome.events = (resolve model directive query).events ++ [.patternIgnored directive.field] ∧
    (outcome.state = query ↔ ∀ handler, model directive.field = some handler →
      (handler directive.order query).state = query) ∧
    ∀ handler, model directive.field = some handler →
      (handler directive.order query).result = .error error ∧
      outcome.state = (handler directive.order query).state := by
  intro outcome
  have applied : outcome = _ := apply_ignored failed ignored
  rw [applied]
  refine ⟨rfl, rfl, ?_⟩
  cases handled : model directive.field with
  | none =>
      rw [(resolve_failed_unhandled handled failed).2]
      simp
  | some handler =>
      rw [resolve_of_handler handled] at failed ⊢
      refine ⟨?_, ?_⟩
      · constructor
        · rintro untouched other same
          cases same
          exact untouched
        · exact fun untouched => untouched handler rfl
      · rintro other same
        cases same
        exact ⟨failed, rfl⟩

/-- A handler comes to a path of no known shape before it does anything else. -/
theorem ignored_untouched_refusing :
    let registry : ScriptRegistry := HookRegistry.empty.on "rank"
      (HookAction.script [.apply "posts.comments", .orderBy "score" .given])
    let model : Model SelectQuery := ScriptRegistry.model (some registry)
    let options : SortOptions := ⟨.asc, .ignore⟩
    let directive : Directive := ⟨"rank", .desc, by decide⟩
    let query := QueryCall.on (SelectQuery.ofTable "posts") (.orderBy ⟨"title", .asc⟩)
    let refusal : SortError := .unsupportedJoinPattern "posts.comments" 2
    (resolve model directive query).result = .error refusal ∧ options.ignores refusal = true ∧
    (options.apply model directive query).result = .ok () ∧
    (options.apply model directive query).state = query := by
  intro registry model options directive query refusal
  have failed : (resolve model directive query).result = .error refusal := by
    decide +kernel
  have ignored : options.ignores refusal = true := rfl
  obtain ⟨skipped, -, untouched, -⟩ :=
    ignored_untouched_iff options model directive query refusal failed ignored
  refine ⟨failed, ignored, skipped, untouched.mpr ?_⟩
  intro handler handled
  cases handled
  decide +kernel

/-- A handler orders by a column of its own before it comes to a path of no known shape. -/
theorem ignored_after_change :
    let registry : ScriptRegistry := HookRegistry.empty.on "rank"
      (HookAction.script [.orderBy "score" .given, .apply "posts.comments"])
    let model : Model SelectQuery := ScriptRegistry.model (some registry)
    let options : SortOptions := ⟨.asc, .ignore⟩
    let directive : Directive := ⟨"rank", .desc, by decide⟩
    let query := SelectQuery.ofTable "posts"
    let outcome := options.apply model directive query
    (resolve model directive query).result =
      .error (.unsupportedJoinPattern "posts.comments" 2) ∧
    outcome.result = .ok () ∧ outcome.state ≠ query ∧
    outcome.state.sql = "SELECT * FROM posts ORDER BY score DESC" := by
  decide +kernel

section OneToken

variable {fallback : Direction} {raw : String}

theorem sort_of_unresolved {directive : Directive}
    (parsed : Directive.parse raw fallback = .ok directive)
    (unresolved : model.unresolved directive = true) (query : Q) :
    SortOptions.sort ⟨fallback, .ignore⟩ model raw query =
      ⟨query, [.directive directive.field directive.order, .patternIgnored directive.field],
        .ok directive⟩ := by
  obtain ⟨unhandled, error, unsupported⟩ := unresolved_iff.mp unresolved
  have skipped := ignores_classify_error fallback unsupported
  exact sort_of_skipped unhandled
    (reading_skipped_iff.mpr ⟨parsed, error, unsupported, skipped⟩) query

/-- A directive that a handler takes over or whose field spells a plan fails with nothing that a
policy ignores. -/
theorem supported_of_resolved (supported : model.NeverUnsupported) {directive : Directive}
    (resolved : model.unresolved directive = false) {query : Q} {error : SortError}
    (failed : (resolve model directive query).result = .error error) :
    error.isUnsupported = false := by
  cases handled : model directive.field with
  | none =>
      have refused := (resolve_failed_unhandled handled failed).1
      rw [unresolved_iff.mpr ⟨handled, error, refused⟩] at resolved
      cases resolved
  | some handler =>
      rw [resolve_of_handler handled] at failed
      exact supported directive.field handler handled directive.order query error failed

theorem sort_of_kept (supported : model.NeverUnsupported)
    (keeps : skips model fallback raw = false) (query : Q) :
    SortOptions.sort ⟨fallback, .ignore⟩ model raw query =
      SortOptions.sort ⟨fallback, .error⟩ model raw query := by
  rcases parsed : Directive.parse raw fallback with refusal | directive
  · have refused : ∀ policy, SortOptions.sort ⟨fallback, policy⟩ model raw query =
        ⟨query, [], .error refusal⟩ := fun _ => sort_of_malformed parsed
    rw [refused, refused]
  · rw [skips_of_parsed parsed] at keeps
    have applied : ∀ policy, SortOptions.apply ⟨fallback, policy⟩ model directive query =
        resolve model directive query := by
      intro policy
      apply apply_eq_resolve
      intro failure failed
      rw [ignores, supported_of_resolved supported keeps failed, Bool.and_false]
    rcases ended : resolve model directive query with ⟨reached, events, failure | done⟩
    · have failed : ∀ policy, SortOptions.sort ⟨fallback, policy⟩ model raw query =
          ⟨reached, .directive directive.field directive.order :: events, .error failure⟩ :=
        fun policy => sort_of_failed parsed ((applied policy).trans ended)
      rw [failed, failed]
    · have sorted : ∀ policy, SortOptions.sort ⟨fallback, policy⟩ model raw query =
          ⟨reached, .directive directive.field directive.order :: events, .ok directive⟩ :=
        fun policy => sort_of_applied parsed ((applied policy).trans ended)
      rw [sorted, sorted]

end OneToken

def tokenEvents (options : SortOptions) (model : Model Q) :
    List String → Q → List (String × List Event)
  | [], _ => []
  | raw :: rest, query =>
      let outcome := options.sort model raw query
      (raw, outcome.events) ::
        match outcome.result with
        | .ok _ => options.tokenEvents model rest outcome.state
        | .error _ => []

section Runs

variable {options : SortOptions} {raw : String} {query reached : Q} {events : List Event}

theorem token_events_of_sorted {directive : Directive} (rest : List String)
    (sorted : options.sort model raw query = ⟨reached, events, .ok directive⟩) :
    options.tokenEvents model (raw :: rest) query =
      (raw, events) :: options.tokenEvents model rest reached := by
  rw [tokenEvents, sorted]

theorem token_events_of_failed {error : SortError} (rest : List String)
    (failed : options.sort model raw query = ⟨reached, events, .error error⟩) :
    options.tokenEvents model (raw :: rest) query = [(raw, events)] := by
  rw [tokenEvents, failed]

/-- The events of a run are those of the tokens that it comes to, in order. -/
theorem sort_all_events_eq (options : SortOptions) (model : Model Q) (raws : List String)
    (query : Q) :
    (options.sortAll model raws query).events =
      (options.tokenEvents model raws query).flatMap Prod.snd := by
  induction raws generalizing query with
  | nil => rfl
  | cons raw rest ih =>
      rcases ended : options.sort model raw query with ⟨reached, events, error | directive⟩
      · rw [sort_all_of_failed_head rest ended, token_events_of_failed rest ended]
        simp
      · rw [sort_all_of_sorted_head rest ended, token_events_of_sorted rest ended, ih,
          List.flatMap_cons]

theorem parsed_of_sorted {directive : Directive}
    (sorted : options.sort model raw query = ⟨reached, events, .ok directive⟩) :
    Directive.parse raw options.defaultOrder = .ok directive := by
  rcases parsed : Directive.parse raw options.defaultOrder with refusal | token
  · rw [sort_of_malformed parsed] at sorted
    cases sorted
  · rcases ended : options.apply model token query with ⟨left, said, error | done⟩
    · rw [sort_of_failed parsed ended] at sorted
      cases sorted
    · rw [sort_of_applied parsed ended] at sorted
      cases sorted
      rfl

theorem sort_all_directives {raws : List String} {directives : List Directive}
    (sorted : (options.sortAll model raws query).result = .ok directives) :
    List.Forall₂ (fun raw directive => Directive.parse raw options.defaultOrder = .ok directive)
      raws directives := by
  induction raws generalizing query directives with
  | nil =>
      cases sorted
      exact .nil
  | cons raw rest ih =>
      rcases ended : options.sort model raw query with ⟨reached, events, error | directive⟩
      · rw [sort_all_of_failed_head rest ended] at sorted
        cases sorted
      · rw [sort_all_of_sorted_head rest ended] at sorted
        obtain ⟨others, later, rfl⟩ := Run.map_eq_ok_iff.mp sorted
        exact .cons (parsed_of_sorted ended) (ih later)

end Runs

/-- The run that ignores unsupported patterns does what the strict run on the kept tokens does, and
skips the others. -/
structure Deletes (model : Model Q) (fallback : Direction) (raws : List String) (query : Q) :
    Prop where
  state_eq : (sortAll ⟨fallback, .ignore⟩ model raws query).state =
    (sortAll ⟨fallback, .error⟩ model (kept model fallback raws) query).state
  result_eq : (sortAll ⟨fallback, .error⟩ model (kept model fallback raws) query).result =
    (sortAll ⟨fallback, .ignore⟩ model raws query).result.map
      (List.filter fun directive => !model.unresolved directive)
  strict_events_eq : tokenEvents ⟨fallback, .error⟩ model (kept model fallback raws) query =
    (tokenEvents ⟨fallback, .ignore⟩ model raws query).filter
      fun entry => !skips model fallback entry.1
  skipped_events_eq : ∀ entry ∈ tokenEvents ⟨fallback, .ignore⟩ model raws query,
    skips model fallback entry.1 = true →
      ∃ directive, Directive.parse entry.1 fallback = .ok directive ∧
        entry.2 = [.directive directive.field directive.order, .patternIgnored directive.field]

section Deletion

variable {fallback : Direction} {raw : String} {rest : List String} {query reached : Q}
  {events : List Event}

theorem deletes_nil (model : Model Q) (fallback : Direction) (query : Q) :
    Deletes model fallback [] query where
  state_eq := rfl
  result_eq := rfl
  strict_events_eq := rfl
  skipped_events_eq := by simp [tokenEvents]

theorem deletes_skipped {directive : Directive}
    (parsed : Directive.parse raw fallback = .ok directive)
    (unresolved : model.unresolved directive = true)
    (later : Deletes model fallback rest query) : Deletes model fallback (raw :: rest) query := by
  have skipped : skips model fallback raw = true := by
    rw [skips_of_parsed parsed, unresolved]
  have dropped : kept model fallback (raw :: rest) = kept model fallback rest := by
    simp [kept, skipped]
  have sorted := sort_of_unresolved parsed unresolved query
  have whole := sort_all_of_sorted_head rest sorted
  have traced := token_events_of_sorted rest sorted
  refine ⟨?_, ?_, ?_, ?_⟩
  · rw [dropped, whole]
    exact later.state_eq
  · rw [dropped, whole, later.result_eq]
    cases (sortAll ⟨fallback, .ignore⟩ model rest query).result with
    | error error => rfl
    | ok directives => simp [Except.map, unresolved]
  · rw [dropped, traced, later.strict_events_eq]
    simp [skipped]
  · rw [traced]
    intro entry member
    rcases List.mem_cons.mp member with rfl | behind
    · exact fun _ => ⟨directive, parsed, rfl⟩
    · exact later.skipped_events_eq entry behind

theorem deletes_failed {error : SortError} (supported : model.NeverUnsupported)
    (keeps : skips model fallback raw = false)
    (failed : sort ⟨fallback, .error⟩ model raw query = ⟨reached, events, .error error⟩) :
    Deletes model fallback (raw :: rest) query := by
  have left : kept model fallback (raw :: rest) = raw :: kept model fallback rest := by
    simp [kept, keeps]
  have same := sort_of_kept supported keeps query
  rw [failed] at same
  have traced := token_events_of_failed rest same
  refine ⟨?_, ?_, ?_, ?_⟩
  · rw [left, sort_all_of_failed_head _ same, sort_all_of_failed_head _ failed]
  · rw [left, sort_all_of_failed_head _ same, sort_all_of_failed_head _ failed]
    rfl
  · rw [left, traced, token_events_of_failed _ failed]
    simp [keeps]
  · rw [traced]
    intro entry member skipped
    rw [List.mem_singleton.mp member, keeps] at skipped
    cases skipped

theorem deletes_sorted {directive : Directive} (supported : model.NeverUnsupported)
    (keeps : skips model fallback raw = false)
    (sorted : sort ⟨fallback, .error⟩ model raw query = ⟨reached, events, .ok directive⟩)
    (later : Deletes model fallback rest reached) : Deletes model fallback (raw :: rest) query := by
  have left : kept model fallback (raw :: rest) = raw :: kept model fallback rest := by
    simp [kept, keeps]
  have same := sort_of_kept supported keeps query
  rw [sorted] at same
  have traced := token_events_of_sorted rest same
  refine ⟨?_, ?_, ?_, ?_⟩
  · rw [left, sort_all_of_sorted_head _ same, sort_all_of_sorted_head _ sorted]
    exact later.state_eq
  · have resolved : model.unresolved directive = false := by
      rw [← skips_of_parsed (parsed_of_sorted sorted)]
      exact keeps
    rw [left, sort_all_of_sorted_head _ same, sort_all_of_sorted_head _ sorted, later.result_eq]
    cases (sortAll ⟨fallback, .ignore⟩ model rest reached).result with
    | error error => rfl
    | ok directives => simp [Except.map, resolved]
  · rw [left, traced, token_events_of_sorted _ sorted, later.strict_events_eq]
    simp [keeps]
  · rw [traced]
    intro entry member
    rcases List.mem_cons.mp member with rfl | behind
    · intro skipped
      rw [keeps] at skipped
      cases skipped
    · exact later.skipped_events_eq entry behind

theorem deletes_unresolved (supported : model.NeverUnsupported) (fallback : Direction)
    (raws : List String) (query : Q) : Deletes model fallback raws query := by
  induction raws generalizing query with
  | nil => exact deletes_nil model fallback query
  | cons raw rest ih =>
      cases keeps : skips model fallback raw with
      | true =>
          rcases parsed : Directive.parse raw fallback with refusal | directive
          · rw [skips, parsed] at keeps
            cases keeps
          · rw [skips_of_parsed parsed] at keeps
            exact deletes_skipped parsed keeps (ih query)
      | false =>
          rcases ended : sort ⟨fallback, .error⟩ model raw query with
            ⟨reached, events, error | directive⟩
          · exact deletes_failed supported keeps ended
          · exact deletes_sorted supported keeps ended (ih reached)

end Deletion

/-- If no handler fails with an unsupported pattern, ignoring such patterns is deleting their
tokens: both runs leave the same query and fail with the same errors; the directives of the run that
ignores are those of all tokens and those of the strict run are the ones of the kept tokens among
them; and both report the same on every kept token, while the run that ignores reports two events in
place of each token that it skips. -/
theorem ignoring_is_deleting (model : Model Q) (supported : model.NeverUnsupported)
    (fallback : Direction) (raws : List String) (query : Q) :
    let ignoring : SortOptions := ⟨fallback, .ignore⟩
    let strict : SortOptions := ⟨fallback, .error⟩
    let others := kept model fallback raws
    (ignoring.sortAll model raws query).state = (strict.sortAll model others query).state ∧
    (∀ error, (ignoring.sortAll model raws query).result = .error error ↔
      (strict.sortAll model others query).result = .error error) ∧
    (∀ directives, (ignoring.sortAll model raws query).result = .ok directives →
      let keptDirectives := directives.filter fun directive => !model.unresolved directive
      List.Forall₂ (fun raw directive => Directive.parse raw fallback = .ok directive)
        raws directives ∧
      (strict.sortAll model others query).result = .ok keptDirectives ∧
      List.Forall₂ (fun raw directive => Directive.parse raw fallback = .ok directive)
        others keptDirectives) ∧
    (ignoring.sortAll model raws query).events =
      (ignoring.tokenEvents model raws query).flatMap Prod.snd ∧
    (strict.sortAll model others query).events =
      ((ignoring.tokenEvents model raws query).filter
        fun entry => !skips model fallback entry.1).flatMap Prod.snd ∧
    ∀ entry ∈ ignoring.tokenEvents model raws query, skips model fallback entry.1 = true →
      ∃ directive, Directive.parse entry.1 fallback = .ok directive ∧
        entry.2 = [.directive directive.field directive.order,
          .patternIgnored directive.field] := by
  intro ignoring strict others
  have deletes : Deletes model fallback raws query :=
    deletes_unresolved supported fallback raws query
  have mapped : (strict.sortAll model others query).result =
      (ignoring.sortAll model raws query).result.map
        (List.filter fun directive => !model.unresolved directive) := deletes.result_eq
  refine ⟨deletes.state_eq, ?_, ?_, sort_all_events_eq ignoring model raws query, ?_,
    deletes.skipped_events_eq⟩
  · intro error
    rw [mapped]
    cases (ignoring.sortAll model raws query).result with
    | error failure => rfl
    | ok directives => simp [Except.map]
  · intro directives sorted keptDirectives
    rw [sorted] at mapped
    have strictly : (strict.sortAll model others query).result = .ok keptDirectives := mapped
    exact ⟨sort_all_directives sorted, strictly, sort_all_directives strictly⟩
  · rw [sort_all_events_eq]
    exact congrArg (List.flatMap Prod.snd) deletes.strict_events_eq

/-- A handler takes over a field of no known shape, two tokens are skipped, and the last token
cannot be read. -/
theorem ignoring_is_deleting_handled :
    let registry : ScriptRegistry := HookRegistry.empty.on "posts.rank"
      (HookAction.script [.leftJoin ⟨"ranks", "ranks.post_id", "=", "posts.id"⟩,
        .orderBy "ranks.score" .reversed])
    let model : Model SelectQuery := ScriptRegistry.model (some registry)
    let query := SelectQuery.ofTable "posts"
    let raws := ["posts.title", "posts.rank,desc", "a..b,asc", "title", "name,DESC"]
    let outcome := sortAll ⟨.asc, .ignore⟩ model raws query
    model.NeverUnsupported ∧ kept model .asc raws = ["posts.rank,desc", "title", "name,DESC"] ∧
    outcome.result = .error (.malformedDirective "name,DESC") ∧
    outcome.state.sql = "SELECT * FROM posts LEFT JOIN ranks ON ranks.post_id = posts.id " ++
      "ORDER BY ranks.score ASC, title ASC" ∧
    outcome.state = (sortAll ⟨.asc, .error⟩ model (kept model .asc raws) query).state := by
  intro registry model query raws outcome
  have supported : model.NeverUnsupported := by
    intro field handler handled order query error failed
    by_cases named : field = "posts.rank"
    · rw [named] at handled
      simp only [model, registry, ScriptRegistry.model, HookRegistry.model,
        HookRegistry.find_on_same] at handled
      cases handled
      cases failed
    · simp only [model, registry, ScriptRegistry.model, HookRegistry.model,
        HookRegistry.find_on_other _ _ named] at handled
      cases handled
  refine ⟨supported, ?_, ?_, ?_, (ignoring_is_deleting model supported .asc raws query).1⟩
  · decide +kernel
  · decide +kernel
  · decide +kernel

end SortOptions

end PathSort
