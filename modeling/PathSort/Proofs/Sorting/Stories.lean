import PathSort.Proofs.JoinPlan.Grammar
import PathSort.Proofs.Sorting.Tokens
import PathSort.Query.Select

/-!
# What a trace tells

Without handlers the events of a run tell the story of each token that the run comes to: it could
not be read, its field spells no plan and ended the run or was skipped, or its plan was applied. An
applied plan reports each of its joins, as added when the table was not joined yet and as a
duplicate otherwise. The joins reported as added are those that the query has gained, in order,
however the run ends. -/

namespace PathSort

set_option autoImplicit false

def Event.addedTable? : Event → Option String
  | .join table .added => some table
  | _ => none

namespace AskedJoins

theorem added_tables (asked : AskedJoins) :
    asked.events.filterMap Event.addedTable? = asked.added.map JoinClause.table := by
  induction asked with
  | nil => rfl
  | cons first rest ih =>
      obtain ⟨clause, outcome⟩ := first
      cases outcome with
      | added =>
          have shown : (Event.join clause.table .added).addedTable? = some clause.table := rfl
          rw [events, List.map_cons, List.filterMap_cons_some shown, ← events, ih]
          rfl
      | duplicate =>
          have hidden : (Event.join clause.table .duplicate).addedTable? = none := rfl
          rw [events, List.map_cons, List.filterMap_cons_none hidden, ← events, ih]
          rfl

end AskedJoins

inductive Story where
  /-- The token cannot be read. -/
  | malformed
  /-- The field spells no plan, which ends the run. -/
  | refused (directive : Directive)
  | skipped (directive : Directive)
  /-- The plan is applied, which asks for its joins. -/
  | applied (directive : Directive) (joins : AskedJoins)

namespace Story

def events : Story → List Event
  | malformed => []
  | refused directive => [.directive directive.field directive.order]
  | skipped directive =>
      [.directive directive.field directive.order, .patternIgnored directive.field]
  | applied directive joins => .directive directive.field directive.order :: joins.events

def joins : Story → AskedJoins
  | applied _ joins => joins
  | _ => []

def appended (story : Story) : List JoinClause := story.joins.added

def endsRun : Story → Bool
  | malformed => true
  | refused _ => true
  | skipped _ => false
  | applied _ _ => false

theorem added_tables (story : Story) :
    story.events.filterMap Event.addedTable? = story.appended.map JoinClause.table := by
  cases story with
  | malformed => rfl
  | refused directive => rfl
  | skipped directive => rfl
  | applied directive asked =>
      have own : (Event.directive directive.field directive.order).addedTable? = none := rfl
      rw [events, List.filterMap_cons_none own, AskedJoins.added_tables]
      rfl

end Story

namespace SortOptions

def story (options : SortOptions) (joined : List String) (raw : String) : Story :=
  match options.reading raw with
  | .malformed _ => .malformed
  | .refused directive _ => .refused directive
  | .skipped directive => .skipped directive
  | .planned directive plan => .applied directive (.of joined plan.joins)

def stories (options : SortOptions) : List String → List String → List Story
  | _, [] => []
  | joined, raw :: rest =>
      let first := options.story joined raw
      first :: if first.endsRun then [] else options.stories (first.joins.tablesAfter joined) rest

end SortOptions

structure Outcome.ToldBy {α : Type} (query : SelectQuery) (told : List Story)
    (outcome : Outcome SelectQuery SortError α) : Prop where
  events_eq : outcome.events = told.flatMap Story.events
  joins_eq : outcome.state.joins = query.joins ++ told.flatMap Story.appended
  ends_iff : outcome.result.isOk = told.all (!·.endsRun)

namespace SortOptions

variable (options : SortOptions)

theorem sort_told (raw : String) (query : SelectQuery) :
    let told := options.story query.joined raw
    let outcome := options.sort Model.plain raw query
    outcome.ToldBy query [told] ∧ outcome.state.joined = told.joins.tablesAfter query.joined := by
  intro told outcome
  cases reading : options.reading raw with
  | malformed error =>
      have told_eq : told = .malformed := by simp only [told, story, reading]
      have sorted : outcome = ⟨query, [], .error error⟩ :=
        sort_of_malformed (reading_malformed_iff.mp reading)
      rw [sorted, told_eq]
      exact ⟨⟨rfl, (List.append_nil _).symm, rfl⟩, rfl⟩
  | refused directive error =>
      have told_eq : told = .refused directive := by simp only [told, story, reading]
      have sorted : outcome = ⟨query, [.directive directive.field directive.order],
          .error error⟩ := sort_of_refused rfl reading
      rw [sorted, told_eq]
      exact ⟨⟨rfl, (List.append_nil _).symm, rfl⟩, rfl⟩
  | skipped directive =>
      have told_eq : told = .skipped directive := by simp only [told, story, reading]
      have sorted : outcome = ⟨query, [.directive directive.field directive.order,
          .patternIgnored directive.field], .ok directive⟩ := sort_of_skipped rfl reading query
      rw [sorted, told_eq]
      exact ⟨⟨rfl, (List.append_nil _).symm, rfl⟩, rfl⟩
  | planned directive plan =>
      have told_eq : told = .applied directive (.of query.joined plan.joins) := by
        simp only [told, story, reading]
      obtain ⟨reached, events, applied, sorted⟩ :=
        sort_of_planned (plain_unhandled directive) reading query
      rw [SelectQuery.apply_plan_eq] at applied
      cases applied
      have joins_eq := SelectQuery.replay_joins query (plan.calls query.joined directive.order)
      have joined_eq := SelectQuery.replay_joined query (plan.calls query.joined directive.order)
      rw [plan_calls_clauses, ← AskedJoins.added_of] at joins_eq
      rw [plan_calls_clauses, ← AskedJoins.tables_after_of] at joined_eq
      simp only [outcome, sorted, told_eq]
      refine ⟨⟨?_, ?_, rfl⟩, joined_eq⟩
      · rw [List.flatMap_singleton]
        rfl
      · rw [List.flatMap_singleton]
        exact joins_eq

/-- Every run is what the stories of its tokens tell. -/
theorem sort_all_told (raws : List String) (query : SelectQuery) :
    (options.sortAll Model.plain raws query).ToldBy query (options.stories query.joined raws) := by
  induction raws generalizing query with
  | nil => exact ⟨rfl, (List.append_nil _).symm, rfl⟩
  | cons raw rest ih =>
      obtain ⟨first, joined_eq⟩ := sort_told options raw query
      rw [stories]
      rcases ended : options.sort Model.plain raw query with ⟨reached, events, error | directive⟩
      · rw [ended] at first
        have stops : (options.story query.joined raw).endsRun = true := by
          simpa [Except.isOk, Except.toBool] using first.ends_iff
        rw [if_pos stops, sort_all_of_failed_head rest ended]
        exact ⟨first.events_eq, first.joins_eq, first.ends_iff⟩
      · rw [ended] at first joined_eq
        have goes_on : (options.story query.joined raw).endsRun = false := by
          simpa [Except.isOk, Except.toBool] using first.ends_iff
        have later := ih reached
        rw [joined_eq] at later
        rw [if_neg (by simp [goes_on]), sort_all_of_sorted_head rest ended]
        refine ⟨?_, ?_, ?_⟩
        · rw [List.flatMap_cons, ← later.events_eq]
          exact congrArg (· ++ _) (first.events_eq.trans (List.flatMap_singleton _ _))
        · rw [List.flatMap_cons, ← List.append_assoc, later.joins_eq]
          exact congrArg (· ++ _)
            (first.joins_eq.trans (congrArg _ (List.flatMap_singleton _ _)))
        · rw [List.all_cons, goes_on, ← later.ends_iff]
          cases (options.sortAll Model.plain rest reached).result <;> rfl

end SortOptions

end PathSort
