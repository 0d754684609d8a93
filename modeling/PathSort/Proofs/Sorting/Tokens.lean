import PathSort.Proofs.Resolution.AppliedPlans
import PathSort.Sorting

/-!
# One token

What sorting by a single token does to any query under any model, case by case: the token cannot be
read, a handler takes over, the field spells no plan, or its plan is applied. Without a handler this
is settled by the token and the options alone, as the reading of the token. A list of tokens begins
with what its first token does, and goes on only when that succeeded.
-/

namespace PathSort

set_option autoImplicit false

inductive Reading where
  | malformed (error : SortError)
  /-- The field spells no plan, which the policy reports. -/
  | refused (directive : Directive) (error : SortError)
  | skipped (directive : Directive)
  | planned (directive : Directive) (plan : JoinPlan)

def Reading.refusal? : Reading → Option SortError
  | malformed error => some error
  | refused _ error => some error
  | skipped _ => none
  | planned _ _ => none

def Reading.planned? : Reading → Option (Directive × JoinPlan)
  | planned directive plan => some (directive, plan)
  | _ => none

namespace SortOptions

def reading (options : SortOptions) (raw : String) : Reading :=
  match Directive.parse raw options.defaultOrder with
  | .error error => .malformed error
  | .ok directive =>
      match JoinPlan.classify directive.field with
      | .ok plan => .planned directive plan
      | .error error =>
          if options.ignores error then .skipped directive else .refused directive error

def Planned (options : SortOptions) (raw : String) (entry : Directive × JoinPlan) : Prop :=
  Directive.parse raw options.defaultOrder = .ok entry.1 ∧
    JoinPlan.classify entry.1.field = .ok entry.2

def Passes (options : SortOptions) (raw : String) : Prop :=
  ∃ directive, Directive.parse raw options.defaultOrder = .ok directive ∧
    ∀ error, JoinPlan.classify directive.field = .error error → options.ignores error = true

section Readings

variable {options : SortOptions} {raw : String} {directive : Directive} {error : SortError}

theorem reading_malformed_iff :
    options.reading raw = .malformed error ↔
      Directive.parse raw options.defaultOrder = .error error := by
  grind [reading]

theorem reading_refused_iff :
    options.reading raw = .refused directive error ↔
      Directive.parse raw options.defaultOrder = .ok directive ∧
        JoinPlan.classify directive.field = .error error ∧ options.ignores error = false := by
  grind [reading]

theorem reading_skipped_iff :
    options.reading raw = .skipped directive ↔
      Directive.parse raw options.defaultOrder = .ok directive ∧
        ∃ error, JoinPlan.classify directive.field = .error error ∧
          options.ignores error = true := by
  grind [reading]

theorem reading_planned_iff {plan : JoinPlan} :
    options.reading raw = .planned directive plan ↔ options.Planned raw (directive, plan) := by
  grind [reading, Planned]

theorem passes_iff : options.Passes raw ↔ (options.reading raw).refusal? = none := by
  grind [reading, Passes, Reading.refusal?]

end Readings

variable {Q : Type} {options : SortOptions} {raw : String} {query reached : Q}
  {directive : Directive} {events : List Event} {error : SortError}

theorem read_of_malformed (malformed : Directive.parse raw options.defaultOrder = .error error) :
    (options.read raw : Run Q SortError Directive) query = ⟨query, [], .error error⟩ := by
  rw [read, malformed]
  rfl

theorem read_of_parsed (parsed : Directive.parse raw options.defaultOrder = .ok directive) :
    (options.read raw : Run Q SortError Directive) query =
      ⟨query, [.directive directive.field directive.order], .ok directive⟩ := by
  rw [read, parsed]
  rfl

theorem read_result (options : SortOptions) (raw : String) (query : Q) :
    ((options.read raw : Run Q SortError Directive) query).result =
      Directive.parse raw options.defaultOrder := by
  cases parsed : Directive.parse raw options.defaultOrder with
  | error error => rw [read_of_malformed parsed]
  | ok directive => rw [read_of_parsed parsed]

theorem plain_unhandled (directive : Directive) : (Model.plain : Model Q) directive.field = none :=
  rfl

variable [QueryBuilder Q] {model : Model Q}

theorem resolve_of_handler {handler : Handler Q}
    (handled : model directive.field = some handler) :
    resolve model directive query =
      (handler directive.order query).after [.hook directive.field] := by
  rw [resolve, handled]
  rfl

theorem resolve_of_unsupported (unhandled : model directive.field = none)
    (unsupported : JoinPlan.classify directive.field = .error error) :
    resolve model directive query = ⟨query, [], .error error⟩ := by
  rw [resolve, unhandled, unsupported]
  rfl

theorem resolve_of_plan {plan : JoinPlan} (unhandled : model directive.field = none)
    (classified : JoinPlan.classify directive.field = .ok plan) :
    resolve model directive query = applyPlan plan directive.order query := by
  rw [resolve, unhandled, classified]
  rfl

/-- Without a handler a directive fails only by its field, and before anything is done. A plan is
never what fails. -/
theorem resolve_failed_unhandled (unhandled : model directive.field = none)
    (failed : (resolve model directive query).result = .error error) :
    JoinPlan.classify directive.field = .error error ∧
      resolve model directive query = ⟨query, [], .error error⟩ := by
  rcases classified : JoinPlan.classify directive.field with refusal | plan
  · have ended : resolve model directive query = ⟨query, [], .error refusal⟩ :=
      resolve_of_unsupported unhandled classified
    rw [ended] at failed
    cases failed
    exact ⟨rfl, ended⟩
  · obtain ⟨reached, events, ended⟩ := apply_plan_ends (ε := SortError) query plan directive.order
    rw [resolve_of_plan unhandled classified, ended] at failed
    cases failed

theorem apply_of_ok (resolved : resolve model directive query = ⟨reached, events, .ok ()⟩) :
    options.apply model directive query = ⟨reached, events, .ok ()⟩ := by
  rw [apply, Run.handle, resolved]

theorem apply_of_ignored
    (resolved : resolve model directive query = ⟨reached, events, .error error⟩)
    (ignored : options.ignores error = true) :
    options.apply model directive query =
      ⟨reached, events ++ [.patternIgnored directive.field], .ok ()⟩ := by
  rw [apply, Run.handle, resolved]
  simp only [ignored, if_true]
  rfl

theorem apply_of_reported
    (resolved : resolve model directive query = ⟨reached, events, .error error⟩)
    (reported : options.ignores error = false) :
    options.apply model directive query = ⟨reached, events, .error error⟩ := by
  rw [apply, Run.handle, resolved]
  simp only [reported, Bool.false_eq_true, if_false]
  exact congrArg (Outcome.mk reached · _) (List.append_nil events)

theorem sort_of_malformed (malformed : Directive.parse raw options.defaultOrder = .error error) :
    options.sort model raw query = ⟨query, [], .error error⟩ := by
  rw [sort, Run.bind_of_error (read_of_malformed malformed)]

theorem sort_of_applied (parsed : Directive.parse raw options.defaultOrder = .ok directive)
    (applied : options.apply model directive query = ⟨reached, events, .ok ()⟩) :
    options.sort model raw query =
      ⟨reached, .directive directive.field directive.order :: events, .ok directive⟩ := by
  rw [sort, Run.bind_of_ok (read_of_parsed parsed), Run.bind_of_ok applied]
  exact congrArg (Outcome.mk reached · _) (by simp [Run.pure_apply, Outcome.after])

theorem sort_of_failed (parsed : Directive.parse raw options.defaultOrder = .ok directive)
    (failed : options.apply model directive query = ⟨reached, events, .error error⟩) :
    options.sort model raw query =
      ⟨reached, .directive directive.field directive.order :: events, .error error⟩ := by
  rw [sort, Run.bind_of_ok (read_of_parsed parsed), Run.bind_of_error failed]
  rfl

section Unhandled

/-! Without a handler it is the reading of the token that decides how sorting by it ends. -/

theorem sort_of_refused (unhandled : model directive.field = none)
    (reading : options.reading raw = .refused directive error) :
    options.sort model raw query =
      ⟨query, [.directive directive.field directive.order], .error error⟩ := by
  obtain ⟨parsed, unsupported, reported⟩ := reading_refused_iff.mp reading
  have resolved : resolve model directive query = ⟨query, [], .error error⟩ :=
    resolve_of_unsupported unhandled unsupported
  exact sort_of_failed parsed (apply_of_reported resolved reported)

theorem sort_of_skipped (unhandled : model directive.field = none)
    (reading : options.reading raw = .skipped directive) (query : Q) :
    options.sort model raw query =
      ⟨query, [.directive directive.field directive.order, .patternIgnored directive.field],
        .ok directive⟩ := by
  obtain ⟨parsed, error, unsupported, ignored⟩ := reading_skipped_iff.mp reading
  have resolved : resolve model directive query = ⟨query, [], .error error⟩ :=
    resolve_of_unsupported unhandled unsupported
  exact sort_of_applied parsed (apply_of_ignored resolved ignored)

theorem sort_of_planned {plan : JoinPlan} (unhandled : model directive.field = none)
    (reading : options.reading raw = .planned directive plan) (query : Q) :
    ∃ reached events, (applyPlan plan directive.order : Run Q SortError Unit) query =
        ⟨reached, events, .ok ()⟩ ∧
      options.sort model raw query =
        ⟨reached, .directive directive.field directive.order :: events, .ok directive⟩ := by
  obtain ⟨parsed, classified⟩ := reading_planned_iff.mp reading
  obtain ⟨reached, events, ended⟩ := apply_plan_ends (ε := SortError) query plan directive.order
  have resolved : resolve model directive query = ⟨reached, events, .ok ()⟩ :=
    (resolve_of_plan unhandled classified).trans ended
  exact ⟨reached, events, ended, sort_of_applied parsed (apply_of_ok resolved)⟩

end Unhandled

theorem sort_all_of_failed_head (rest : List String)
    (failed : options.sort model raw query = ⟨reached, events, .error error⟩) :
    options.sortAll model (raw :: rest) query = ⟨reached, events, .error error⟩ := by
  rw [sortAll, Run.bind_of_error failed]

theorem sort_all_of_sorted_head (rest : List String)
    (sorted : options.sort model raw query = ⟨reached, events, .ok directive⟩) :
    options.sortAll model (raw :: rest) query =
      ⟨(options.sortAll model rest reached).state,
        events ++ (options.sortAll model rest reached).events,
        (options.sortAll model rest reached).result.map (directive :: ·)⟩ := by
  rw [sortAll, Run.bind_of_ok sorted]
  rcases ended : options.sortAll model rest reached with ⟨final, more, failure | directives⟩
  · rw [Run.bind_of_error ended]
    rfl
  · rw [Run.bind_of_ok ended, Run.pure_apply]
    simp [Outcome.after, Except.map]

/-- A token on its own leaves what the list of it leaves. -/
theorem sort_state_eq (options : SortOptions) (model : Model Q) (raw : String) (query : Q) :
    (options.sort model raw query).state = (options.sortAll model [raw] query).state := by
  rcases ended : options.sort model raw query with ⟨reached, events, error | directive⟩
  · rw [sort_all_of_failed_head [] ended]
  · rw [sort_all_of_sorted_head [] ended]
    rfl

end SortOptions

end PathSort
