import Mathlib.Data.List.Forall2
import PathSort.Proofs.Query.Replay
import PathSort.Proofs.Run.Alike
import PathSort.Query.CallLog
import PathSort.Session

/-!
# Exchanging the query of a session

A session may work on a query or on a log of calls: step by step it gives the same replies and the
same errors and reports the same events. The log answers whether a table is joined by searching its
calls, the query by its index, and the calls of the log, made on the query that was there at the
start, give the query at the end. This holds for every step, with handlers or without, and also
after steps that fail.
-/

namespace PathSort

set_option autoImplicit false

namespace Session

structure Alike {Q R : Type} (related : Q → R → Prop) (session : Session Q) (other : Session R) :
    Prop where
  query_related : related session.query other.query
  options_eq : session.options = other.options
  registry_eq : session.registry = other.registry
  saved_related : List.Forall₂ related session.saved other.saved

/-- What the steps give, one after another, and the session after them. A step that fails ends
nothing. -/
def play {Q : Type} [QueryBuilder Q] :
    List Step → Session Q → List (Except SortError Reply × List Event) × Session Q
  | [], session => ([], session)
  | made :: rest, session =>
      let outcome := step made session
      let later := play rest outcome.state
      ((outcome.result, outcome.events) :: later.1, later.2)

section Steps

variable {Q R : Type} {related : Q → R → Prop}

theorem on_query_alike {ε α : Type} {run : Run Q ε α} {other : Run R ε α}
    (alike : Run.Alike related run other) :
    Run.Alike (Alike related) (onQuery run) (onQuery other) := by
  intro session peer meet
  obtain ⟨reached_related, same_events, same_result⟩ :=
    alike session.query peer.query meet.query_related
  exact ⟨⟨reached_related, meet.options_eq, meet.registry_eq, meet.saved_related⟩, same_events,
    same_result⟩

theorem on_query_reply_alike {ε α : Type} {run : Run Q ε α} {other : Run R ε α}
    (alike : Run.Alike related run other) (reply : α → Reply) :
    Run.Alike (Alike related) (onQuery run >>= fun given => pure (reply given))
      (onQuery other >>= fun given => pure (reply given)) :=
  Run.alike_bind (on_query_alike alike) fun given => Run.alike_pure (reply given)

theorem update_reply_alike {ε : Type} {change : Session Q → Session Q}
    {other : Session R → Session R} (reply : Reply)
    (kept : ∀ {session peer}, Alike related session peer →
      Alike related (change session) (other peer)) :
    Run.Alike (Alike related)
      (Run.update change >>= fun _ => pure reply : Run (Session Q) ε Reply)
      (Run.update other >>= fun _ => pure reply) :=
  Run.alike_bind (Run.alike_update fun _ _ => kept) fun _ => Run.alike_pure reply

variable [QueryBuilder Q] [QueryBuilder R]

theorem registry_model_alike (exchange : Interchangeable related)
    (registry : Option ScriptRegistry) :
    Model.Alike related (ScriptRegistry.model registry : Model Q)
      (ScriptRegistry.model registry : Model R) := by
  intro field
  cases registry with
  | none => exact Or.inl ⟨rfl, rfl⟩
  | some registry =>
      simp only [ScriptRegistry.model, HookRegistry.model]
      cases registry.find? field with
      | none => exact Or.inl ⟨rfl, rfl⟩
      | some handler =>
          exact Or.inr ⟨_, _, rfl, rfl, fun order => script_alike exchange (handler order)⟩

theorem model_alike (exchange : Interchangeable related) {session : Session Q}
    {other : Session R} (meet : Alike related session other) :
    Model.Alike related session.model other.model := by
  rw [model, model, meet.registry_eq]
  exact registry_model_alike exchange other.registry

theorem save_alike : Run.Alike (Alike related) (step .save : Run (Session Q) SortError Reply)
    (step .save : Run (Session R) SortError Reply) := by
  apply Run.alike_bind
  · apply Run.alike_update
    intro session other meet
    exact ⟨meet.query_related, meet.options_eq, meet.registry_eq,
      .cons meet.query_related meet.saved_related⟩
  · intro _
    apply Run.alike_read_bind
    intro session other meet
    rw [meet.saved_related.length_eq]
    exact Run.alike_pure _

theorem restore_alike : Run.Alike (Alike related) (step .restore : Run (Session Q) SortError Reply)
    (step .restore : Run (Session R) SortError Reply) := by
  apply Run.alike_read_bind
  rintro ⟨query, options, registry, saved⟩ ⟨query', options', registry', saved'⟩ meet
  -- Both sessions have a saved query to go back to, or neither has.
  have aligned : List.Forall₂ related saved saved' := meet.saved_related
  cases aligned with
  | nil => exact Run.alike_pure _
  | cons latest earlier =>
      simp only [earlier.length_eq]
      exact update_reply_alike _ fun meet => ⟨latest, meet.options_eq, meet.registry_eq, earlier⟩

theorem step_alike (exchange : Interchangeable related) (made : Step) :
    Run.Alike (Alike related) (step made : Run (Session Q) SortError Reply)
      (step made : Run (Session R) SortError Reply) := by
  cases made with
  | configure options =>
      exact update_reply_alike _ fun meet =>
        ⟨meet.query_related, rfl, meet.registry_eq, meet.saved_related⟩
  | parse raw =>
      apply Run.alike_read_bind
      intro session other meet
      rw [meet.options_eq]
      exact Run.alike_bind (other.options.read_alike raw) fun _ => Run.alike_pure _
  | sort raw =>
      apply Run.alike_read_bind
      intro session other meet
      simp only [id, meet.options_eq]
      have handled := model_alike exchange meet
      exact on_query_reply_alike (other.options.sort_alike exchange handled raw) .directive
  | sortAll raws =>
      apply Run.alike_read_bind
      intro session other meet
      simp only [id, meet.options_eq]
      have handled := model_alike exchange meet
      exact on_query_reply_alike (other.options.sort_all_alike exchange handled raws) .directives
  | apply field order =>
      apply Run.alike_read_bind
      intro session other meet
      simp only [id, meet.options_eq]
      have handled := model_alike exchange meet
      apply Run.alike_bind (Run.alike_of_except _)
      intro directive
      exact on_query_reply_alike (other.options.apply_alike exchange handled directive)
        fun _ => .applied
  | resolve field order =>
      apply Run.alike_read_bind
      intro session other meet
      have handled := model_alike exchange meet
      apply Run.alike_bind (Run.alike_of_except _)
      intro directive
      exact on_query_reply_alike (resolve_alike exchange handled directive) fun _ => .applied
  | applyPath field order =>
      apply Run.alike_bind (Run.alike_of_except _)
      intro plan
      exact on_query_reply_alike (apply_plan_alike exchange plan order) fun _ => .plan plan
  | applyPlan plan order =>
      exact on_query_reply_alike (apply_plan_alike exchange plan order) fun _ => .plan plan
  | call made => exact on_query_reply_alike (call_alike exchange made) fun _ => .nothing
  | hasJoin table => exact on_query_reply_alike (has_join_alike exchange table) .flag
  | joinedTables => exact on_query_reply_alike (joined_tables_alike exchange) .tables
  | inspect => exact Run.alike_pure _
  | save => exact save_alike
  | restore => exact restore_alike
  | register field handler =>
      apply Run.alike_read_bind
      intro session other meet
      rw [meet.registry_eq]
      exact update_reply_alike _ fun meet =>
        ⟨meet.query_related, meet.options_eq, rfl, meet.saved_related⟩
  | hooks field =>
      apply Run.alike_read_bind
      intro session other meet
      rw [meet.registry_eq]
      cases other.registry with
      | none => exact Run.alike_pure _
      | some registry => exact Run.alike_pure _
  | newRegistry =>
      exact update_reply_alike _ fun meet =>
        ⟨meet.query_related, meet.options_eq, rfl, meet.saved_related⟩
  | dropRegistry =>
      exact update_reply_alike _ fun meet =>
        ⟨meet.query_related, meet.options_eq, rfl, meet.saved_related⟩

theorem play_alike (exchange : Interchangeable related) (steps : List Step) {session : Session Q}
    {other : Session R} (meet : Alike related session other) :
    (play steps session).1 = (play steps other).1 ∧
      Alike related (play steps session).2 (play steps other).2 := by
  induction steps generalizing session other with
  | nil => exact ⟨rfl, meet⟩
  | cons made rest ih =>
      obtain ⟨reached_alike, same_events, same_result⟩ :=
        step_alike exchange made session other meet
      obtain ⟨same_later, final_alike⟩ := ih reached_alike
      refine ⟨?_, final_alike⟩
      simp only [play, same_events, same_result, same_later]

end Steps

end Session

/-- The log was given the tables that are joined in a starting query, and its calls make the other
query out of that one. -/
structure CallLog.Records (start : SelectQuery) (log : CallLog) (query : SelectQuery) : Prop where
  preset_eq : log.preset = start.targets
  query_eq : query = QueryCall.replay start log.calls

namespace CallLog

theorem on_eq_record (log : CallLog) (made : QueryCall) : made.on log = log.record made := by
  cases made <;> rfl

theorem filter_map_target (calls : List QueryCall) :
    calls.filterMap QueryCall.target? =
      (calls.filterMap QueryCall.clause?).map JoinClause.table := by
  rw [List.map_filterMap]
  apply List.filterMap_congr
  intro made _
  cases made <;> rfl

theorem records_joined_tables {start query : SelectQuery} {log : CallLog}
    (records : log.Records start query) : QueryBuilder.joinedTables log = query.targets := by
  have listed : QueryBuilder.joinedTables log =
      log.preset ++ log.calls.filterMap QueryCall.target? := rfl
  rw [listed, records.preset_eq, filter_map_target, records.query_eq, SelectQuery.targets,
    SelectQuery.targets, SelectQuery.replay_joins, List.map_append]

/-- A log answers as the query that its calls make. -/
theorem records_interchangeable {start : SelectQuery} (indexed : start.Indexed) :
    Interchangeable (Records start) where
  call_related := by
    intro log query records made
    refine ⟨?_, ?_⟩
    · rw [on_eq_record]
      exact records.preset_eq
    · rw [on_eq_record, records.query_eq]
      exact (QueryCall.replay_append start log.calls [made]).symm
  joined_tables_eq := records_joined_tables
  has_join_eq := by
    intro log query records table
    have known : query.Indexed := by
      rw [records.query_eq]
      exact SelectQuery.replay_indexed indexed log.calls
    have searched : QueryBuilder.hasJoin log table =
        (QueryBuilder.joinedTables log).contains table := rfl
    rw [searched, records_joined_tables records, SelectQuery.has_join_eq_contains known]

end CallLog

namespace Session

/-- A session on a log of calls and one on a query with the same tables joined beforehand give the
same results and events at every step, whatever the options and the handlers, and the logged calls
make the query of the second one. -/
theorem backends_agree (table : String) (preset : List JoinClause) (options : SortOptions)
    (registry : Option ScriptRegistry) (steps : List Step) :
    let begun := QueryCall.replay (SelectQuery.ofTable table) (preset.map .leftJoin)
    let logged := play steps
      (⟨CallLog.start (preset.map JoinClause.table), options, registry, []⟩ : Session CallLog)
    let built := play steps (⟨begun, options, registry, []⟩ : Session SelectQuery)
    logged.1 = built.1 ∧ built.2.query = QueryCall.replay begun logged.2.query.calls := by
  intro begun logged built
  have indexed : begun.Indexed :=
    SelectQuery.replay_indexed (SelectQuery.of_table_indexed table) _
  have begun_targets : begun.targets = preset.map JoinClause.table := by
    simp [begun, SelectQuery.targets, SelectQuery.replay_joins, SelectQuery.ofTable,
      QueryCall.clause?, Function.comp_def]
  have records : (CallLog.start (preset.map JoinClause.table)).Records begun begun :=
    ⟨begun_targets.symm, rfl⟩
  have meet : Alike (CallLog.Records begun)
      ⟨CallLog.start (preset.map JoinClause.table), options, registry, []⟩
      ⟨begun, options, registry, []⟩ :=
    ⟨records, rfl, rfl, .nil⟩
  obtain ⟨same, alike⟩ := play_alike (CallLog.records_interchangeable indexed) steps meet
  exact ⟨same, alike.query_related.query_eq⟩

end Session

end PathSort
