import PathSort.Hook.Action
import PathSort.Proofs.Hook.Registrations
import PathSort.Proofs.Sorting.Tokens
import PathSort.Session

/-!
# Which handler a token runs

A token whose field is exactly a registered one runs the handler that was registered last for it,
and nothing else: the field is not classified, even if it is a path. Every other token does what it
does without any handlers. The handler's errors are under the policy of the options like any others.

A run therefore asks the registry about the fields of its own tokens only. Registrations that leave
the last handler of these fields as it was make no difference to it.
-/

namespace PathSort

set_option autoImplicit false

namespace SortOptions

section Agreement

variable {Q : Type} [QueryBuilder Q] {options : SortOptions} {model other : Model Q}

/-- A directive sees nothing of a model but its handler for the directive's field. -/
theorem apply_congr {directive : Directive}
    (agree : model directive.field = other directive.field) :
    options.apply model directive = options.apply other directive := by
  have resolved : resolve model directive = resolve other directive := by
    rw [resolve, resolve, agree]
  rw [apply, apply, resolved]

theorem sort_congr {raw : String}
    (agree : ∀ directive, Directive.parse raw options.defaultOrder = .ok directive →
      model directive.field = other directive.field) :
    options.sort model raw = options.sort other raw := by
  funext query
  rcases parsed : Directive.parse raw options.defaultOrder with refusal | directive
  · rw [sort_of_malformed parsed, sort_of_malformed parsed]
  · rw [sort, sort, Run.bind_of_ok (read_of_parsed parsed), Run.bind_of_ok (read_of_parsed parsed),
      apply_congr (agree directive parsed)]

/-- A run sees nothing of a model but its handlers for the fields of the tokens. -/
theorem sort_all_congr {raws : List String}
    (agree : ∀ raw ∈ raws, ∀ directive,
      Directive.parse raw options.defaultOrder = .ok directive →
        model directive.field = other directive.field) :
    options.sortAll model raws = options.sortAll other raws := by
  induction raws with
  | nil => rfl
  | cons raw rest ih =>
      obtain ⟨first, later⟩ := List.forall_mem_cons.mp agree
      rw [sortAll, sortAll, sort_congr first, ih later]

end Agreement

variable {Q : Type}

/-- What a token comes to when a handler takes its directive over: the directive and the handler are
reported, then the handler does its work, and its error is ignored or stands by the policy. -/
def takenOver (options : SortOptions) (directive : Directive)
    (outcome : Outcome Q SortError Unit) : Outcome Q SortError Directive :=
  let said := .directive directive.field directive.order :: .hook directive.field :: outcome.events
  match outcome.result with
  | .ok _ => ⟨outcome.state, said, .ok directive⟩
  | .error error =>
      if options.ignores error then
        ⟨outcome.state, said ++ [.patternIgnored directive.field], .ok directive⟩
      else ⟨outcome.state, said, .error error⟩

variable {H : Type} [QueryBuilder Q]

/-- One token under registrations: the handler registered last for exactly its field takes it over,
and without one it is sorted by as if there were no handlers at all. -/
def dispatch (options : SortOptions) (registrations : List (String × H))
    (interpret : H → Handler Q) (raw : String) (query : Q) : Outcome Q SortError Directive :=
  match Directive.parse raw options.defaultOrder with
  | .error _ => options.sort Model.plain raw query
  | .ok directive =>
      match (HookRegistry.handlersFor registrations directive.field).getLast? with
      | none => options.sort Model.plain raw query
      | some handler => options.takenOver directive (interpret handler directive.order query)

def dispatchAll (options : SortOptions) (registrations : List (String × H))
    (interpret : H → Handler Q) : List String → Q → Outcome Q SortError (List Directive)
  | [], query => ⟨query, [], .ok []⟩
  | raw :: rest, query =>
      let first := options.dispatch registrations interpret raw query
      match first.result with
      | .error error => ⟨first.state, first.events, .error error⟩
      | .ok directive =>
          let later := options.dispatchAll registrations interpret rest first.state
          ⟨later.state, first.events ++ later.events, later.result.map (directive :: ·)⟩

/-- A handler that a model gives takes the token over. -/
theorem sort_eq_taken_over {options : SortOptions} {model : Model Q} {handler : Handler Q}
    {raw : String} {directive : Directive}
    (parsed : Directive.parse raw options.defaultOrder = .ok directive)
    (handled : model directive.field = some handler) (query : Q) :
    options.sort model raw query =
      options.takenOver directive (handler directive.order query) := by
  rcases ended : handler directive.order query with ⟨reached, events, error | done⟩
  · have resolved : resolve model directive query =
        ⟨reached, .hook directive.field :: events, .error error⟩ := by
      rw [resolve_of_handler handled, ended]
      rfl
    cases ignored : options.ignores error with
    | true =>
        rw [sort_of_applied parsed (apply_of_ignored resolved ignored)]
        simp [takenOver, ignored]
    | false =>
        rw [sort_of_failed parsed (apply_of_reported resolved ignored)]
        simp [takenOver, ignored]
  · have resolved : resolve model directive query =
        ⟨reached, .hook directive.field :: events, .ok ()⟩ := by
      rw [resolve_of_handler handled, ended]
      rfl
    rw [sort_of_applied parsed (apply_of_ok resolved)]
    rfl

section Registered

variable (options : SortOptions) (registrations : List (String × H)) (interpret : H → Handler Q)

theorem sort_eq_dispatch (raw : String) (query : Q) :
    options.sort ((HookRegistry.registered registrations).model interpret) raw query =
      options.dispatch registrations interpret raw query := by
  rcases parsed : Directive.parse raw options.defaultOrder with refusal | directive
  · rw [dispatch, parsed, sort_of_malformed parsed]
    exact (sort_of_malformed parsed).symm
  · have asked : (HookRegistry.registered registrations).model interpret directive.field =
        (HookRegistry.handlersFor registrations directive.field).getLast?.map interpret := by
      rw [HookRegistry.model, HookRegistry.find_registered]
    cases last : (HookRegistry.handlersFor registrations directive.field).getLast? with
    | none =>
        rw [last] at asked
        have unhandled : options.sort ((HookRegistry.registered registrations).model interpret) raw =
            options.sort Model.plain raw := by
          apply sort_congr
          intro read parsed_so
          rw [parsed] at parsed_so
          cases parsed_so
          exact asked
        rw [unhandled, dispatch, parsed]
        simp only [last]
    | some handler =>
        rw [last] at asked
        rw [sort_eq_taken_over parsed asked, dispatch, parsed]
        simp only [last]

theorem sort_all_eq_dispatch (raws : List String) (query : Q) :
    options.sortAll ((HookRegistry.registered registrations).model interpret) raws query =
      options.dispatchAll registrations interpret raws query := by
  induction raws generalizing query with
  | nil => rfl
  | cons raw rest ih =>
      have first := sort_eq_dispatch options registrations interpret raw query
      rcases ended : options.dispatch registrations interpret raw query with
        ⟨reached, events, error | directive⟩
      · rw [ended] at first
        rw [sort_all_of_failed_head rest first, dispatchAll, ended]
      · rw [ended] at first
        rw [sort_all_of_sorted_head rest first, ih reached, dispatchAll, ended]

end Registered

/-- A run with the registry that registrations leave is the run in which every token whose field is
exactly a registered one is taken over by the handler registered last for it, and every other token
does what it does without handlers. A registration that is followed by another for its field can be
left out, registrations can be put into any order that keeps those of each field in order, and a
registration for a field that no token is read as can be made or not. The registry has as many
entries as there are registered fields, contains exactly these, and is empty only without any. -/
theorem dispatch_to_last_registration (options : SortOptions) (registrations : List (String × H))
    (interpret : H → Handler Q) :
    let run := fun made : List (String × H) =>
      options.sortAll ((HookRegistry.registered made).model interpret)
    let registry := HookRegistry.registered registrations
    (∀ raws query, run registrations raws query =
      options.dispatchAll registrations interpret raws query) ∧
    (∀ before field handler after, registrations = before ++ (field, handler) :: after →
      field ∈ after.map Prod.fst → run registrations = run (before ++ after)) ∧
    (∀ others, (∀ field, HookRegistry.handlersFor registrations field =
      HookRegistry.handlersFor others field) → run registrations = run others) ∧
    (∀ before field handler after raws, registrations = before ++ (field, handler) :: after →
      (∀ raw ∈ raws, ∀ directive, Directive.parse raw options.defaultOrder = .ok directive →
        directive.field ≠ field) → run registrations raws = run (before ++ after) raws) ∧
    registry.size = (registrations.map Prod.fst).dedup.length ∧
    (∀ field, registry.contains field = true ↔ field ∈ registrations.map Prod.fst) ∧
    (registry.isEmpty = true ↔ registrations = []) := by
  intro run registry
  have same_run : ∀ others, (∀ field, (HookRegistry.handlersFor registrations field).getLast? =
      (HookRegistry.handlersFor others field).getLast?) → run registrations = run others :=
    fun others same => congrArg options.sortAll (HookRegistry.model_congr same interpret)
  refine ⟨sort_all_eq_dispatch options registrations interpret, ?_, ?_, ?_,
    HookRegistry.size_registered registrations,
    HookRegistry.contains_registered registrations, HookRegistry.is_empty_registered registrations⟩
  · rintro before field handler after rfl overwritten
    exact same_run _ (HookRegistry.last_handler_without overwritten before handler)
  · intro others same
    exact same_run others fun field => congrArg List.getLast? (same field)
  · rintro before field handler after raws rfl unread
    apply sort_all_congr
    intro raw listed directive parsed
    have different : directive.field ≠ field := unread raw listed directive parsed
    rw [HookRegistry.model, HookRegistry.model, HookRegistry.find_registered,
      HookRegistry.find_registered, HookRegistry.handlers_for_without different]

/-- The first handler is overwritten, the second one takes over a path of no known shape, and no
token is read as the field of the last one. -/
theorem dispatch_to_last_registration_overwritten :
    let options : SortOptions := ⟨.asc, .error⟩
    let first := ("rank", HookAction.script [.orderBy "score" .given])
    let path := ("posts.rank", HookAction.script [.select "rank"])
    let last := ("rank", HookAction.script [.orderBy "ranks.value" .reversed])
    let unread := ("Rank", HookAction.script [.fail (.custom "unread")])
    let run := fun made : List (String × (Direction → Script)) =>
      options.sortAll (ScriptRegistry.model (some (HookRegistry.registered made)) :
        Model SelectQuery)
    let query := SelectQuery.ofTable "posts"
    let raws := ["\trank,desc ", "posts.rank", "title"]
    let registry := HookRegistry.registered [first, path, last, unread]
    run [first, path, last, unread] = run [path, last, unread] ∧
    run [first, path, last, unread] = run [path, first, last, unread] ∧
    run [first, path, last, unread] raws = run [first, path, last] raws ∧
    registry.size = 3 ∧
    (run [first, path, last] raws query).state.sql =
      "SELECT rank FROM posts ORDER BY ranks.value ASC, title ASC" ∧
    (run [first, path, last] raws query).events =
      [.directive "rank" .desc, .hook "rank", .directive "posts.rank" .asc, .hook "posts.rank",
        .directive "title" .asc] := by
  intro options first path last unread run query raws registry
  obtain ⟨-, overwritten, reordered, unseen, counted, -, -⟩ :=
    dispatch_to_last_registration (Q := SelectQuery) options [first, path, last, unread]
      fun handler order => (handler order).run
  have moved : ∀ field, HookRegistry.handlersFor [first, path, last, unread] field =
      HookRegistry.handlersFor [path, first, last, unread] field := by
    intro field
    by_cases named : field = "rank"
    · rw [named]
      rfl
    · simp [HookRegistry.handlersFor, List.filter_cons, first, Ne.symm named]
  have parsed : raws.map (Directive.parse · .asc) =
      [ .ok ⟨"rank", .desc, by decide⟩, .ok ⟨"posts.rank", .asc, by decide⟩,
        .ok ⟨"title", .asc, by decide⟩ ] := by
    decide +kernel
  have other_fields : ∀ raw ∈ raws, ∀ directive, Directive.parse raw .asc = .ok directive →
      directive.field ≠ "Rank" := by
    intro raw listed directive read
    have member : Except.ok directive ∈ raws.map (Directive.parse · .asc) :=
      List.mem_map.mpr ⟨raw, listed, read⟩
    simp only [parsed, List.mem_cons, Except.ok.injEq, List.not_mem_nil, or_false] at member
    rcases member with rfl | rfl | rfl <;> decide
  refine ⟨overwritten [] "rank" _ _ rfl (by simp [last]), reordered _ moved,
    unseen [first, path, last] "Rank" _ [] raws rfl other_fields, ?_, ?_, ?_⟩
  · rw [counted]
    decide +kernel
  · decide +kernel
  · decide +kernel

end SortOptions

end PathSort
