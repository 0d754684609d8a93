import PathSort.Hook.Action
import PathSort.Proofs.Session.Backends

/-!
# Joins and their index

A query keeps its joins in a list and the joined tables in an index beside it, and every decision
about a join asks the index. The two stay in step whatever is done to a query: by calls, by plans,
directives and tokens that are applied, by handlers of any kind, by steps of a session that succeed
or fail, and on copies that are saved and gone back to. The joined tables are the targets of the
joins that were called for, in order and with repeats.

Which joins were called for is told by a history that the same was done to. It can follow whatever
is done to a query from outside, because all of that comes down to calls on a fresh one. This goes
for handlers too, which may ask for everything about their query and even put another one in its
place. -/

namespace PathSort

set_option autoImplicit false

structure History extends CallLog where
  table : String

namespace History

def fresh (table : String) : History := ⟨CallLog.start [], table⟩

instance : QueryBuilder History where
  orderBy history term :=
    { history with toCallLog := QueryBuilder.orderBy history.toCallLog term }
  leftJoin history clause :=
    { history with toCallLog := QueryBuilder.leftJoin history.toCallLog clause }
  select history columns :=
    { history with toCallLog := QueryBuilder.select history.toCallLog columns }
  joinedTables history := QueryBuilder.joinedTables history.toCallLog

def Tells (history : History) (query : SelectQuery) : Prop :=
  history.toCallLog.Records (SelectQuery.ofTable history.table) query

theorem tells_fresh (table : String) : (fresh table).Tells (SelectQuery.ofTable table) :=
  ⟨rfl, rfl⟩

/-- A history can be exchanged for the query that it tells of. -/
theorem tells_interchangeable : Interchangeable Tells where
  call_related := by
    intro history query told made
    have exchange := CallLog.records_interchangeable (SelectQuery.of_table_indexed history.table)
    have called : made.on history = { history with toCallLog := made.on history.toCallLog } := by
      cases made <;> rfl
    rw [called]
    exact exchange.call_related told made
  joined_tables_eq := CallLog.records_joined_tables
  has_join_eq := by
    intro history query told
    exact (CallLog.records_interchangeable
      (SelectQuery.of_table_indexed history.table)).has_join_eq told

end History

namespace SelectQuery

/-- The answers of a query about its joins are in step with its joins, with each other and with the
calls of a history. -/
structure InStep (query : SelectQuery) (history : History) : Prop where
  told : history.Tells query
  has_join_iff : ∀ table, QueryBuilder.hasJoin query table = true ↔
    table ∈ QueryBuilder.joinedTables query
  joined_iff : ∀ table, table ∈ QueryBuilder.joinedTables query ↔
    ∃ clause ∈ query.joins, clause.table = table
  search_eq : ∀ table, QueryBuilder.hasJoin query table =
    (QueryBuilder.joinedTables query).contains table
  tables_eq : QueryBuilder.joinedTables query = history.calls.filterMap QueryCall.target?
  indexed_once : query.joined.Nodup

theorem in_step_of_told {history : History} {query : SelectQuery} (told : history.Tells query) :
    query.InStep history := by
  have indexed : query.Indexed := by
    rw [told.query_eq]
    exact replay_indexed (of_table_indexed history.table) history.calls
  have searched := has_join_eq_contains indexed
  have listed : QueryBuilder.joinedTables history =
      history.calls.filterMap QueryCall.target? := by
    have preset : history.preset = [] := told.preset_eq
    simp [QueryBuilder.joinedTables, preset]
  refine ⟨told, ?_, fun _ => List.mem_map, searched, ?_, ?_⟩
  · intro table
    rw [searched table, List.contains_iff_mem]
    rfl
  · rw [← listed]
    exact (CallLog.records_joined_tables told).symm
  · rw [told.query_eq]
    exact replay_index_nodup List.nodup_nil history.calls

/-- A query that is reached from a fresh one, beside the history of what was done on the way. The
handlers are any that a history can follow. -/
inductive Reached : History → SelectQuery → Prop
  | fresh (table : String) : Reached (History.fresh table) (ofTable table)
  | call {history : History} {query : SelectQuery} (before : Reached history query)
      (made : QueryCall) : Reached (made.on history) (made.on query)
  | applyPlan {history : History} {query : SelectQuery} (before : Reached history query)
      (plan : JoinPlan) (order : Direction) :
      Reached ((PathSort.applyPlan plan order : Run History SortError Unit) history).state
        ((PathSort.applyPlan plan order : Run SelectQuery SortError Unit) query).state
  | resolve {history : History} {query : SelectQuery} (before : Reached history query)
      {recorder : Model History} {model : Model SelectQuery}
      (followed : Model.Alike History.Tells recorder model) (directive : Directive) :
      Reached (PathSort.resolve recorder directive history).state
        (PathSort.resolve model directive query).state
  | apply {history : History} {query : SelectQuery} (before : Reached history query)
      {recorder : Model History} {model : Model SelectQuery}
      (followed : Model.Alike History.Tells recorder model) (options : SortOptions)
      (directive : Directive) :
      Reached (options.apply recorder directive history).state
        (options.apply model directive query).state
  | sort {history : History} {query : SelectQuery} (before : Reached history query)
      {recorder : Model History} {model : Model SelectQuery}
      (followed : Model.Alike History.Tells recorder model) (options : SortOptions)
      (raw : String) :
      Reached (options.sort recorder raw history).state (options.sort model raw query).state
  | sortAll {history : History} {query : SelectQuery} (before : Reached history query)
      {recorder : Model History} {model : Model SelectQuery}
      (followed : Model.Alike History.Tells recorder model) (options : SortOptions)
      (raws : List String) :
      Reached (options.sortAll recorder raws history).state
        (options.sortAll model raws query).state

theorem told_of_reached {history : History} {query : SelectQuery}
    (reached : Reached history query) : history.Tells query := by
  have exchange := History.tells_interchangeable
  induction reached with
  | fresh table => exact History.tells_fresh table
  | call _ made ih => exact exchange.call_related ih made
  | applyPlan _ plan order ih => exact (apply_plan_alike exchange plan order _ _ ih).state
  | resolve _ followed directive ih =>
      exact (resolve_alike exchange followed directive _ _ ih).state
  | apply _ followed options directive ih =>
      exact (options.apply_alike exchange followed directive _ _ ih).state
  | sort _ followed options raw ih =>
      exact (options.sort_alike exchange followed raw _ _ ih).state
  | sortAll _ followed options raws ih =>
      exact (options.sort_all_alike exchange followed raws _ _ ih).state

/-- Calls can make the query of a fresh one. No other query can be made from outside. -/
def Built (query : SelectQuery) : Prop := ∃ history : History, history.Tells query

end SelectQuery

def Model.LeavesBuilt (model : Model SelectQuery) : Prop :=
  ∀ field handler, model field = some handler →
    ∀ order query, query.Built → (handler order query).state.Built

/-- What a handler does to the query that a history tells of, with a history that tells of what it
leaves, if there is one. -/
noncomputable def Handler.recorded (handler : Handler SelectQuery) : Handler History :=
  fun order history =>
    let outcome := handler order
      (QueryCall.replay (SelectQuery.ofTable history.table) history.calls)
    have : Nonempty History := ⟨history⟩
    ⟨Classical.epsilon (History.Tells · outcome.state), outcome.events, outcome.result⟩

/-- A history can follow all handlers that leave built queries, whatever they ask of their query. -/
theorem followed_of_leaves_built {model : Model SelectQuery} (leaves : model.LeavesBuilt) :
    Model.Alike History.Tells (fun field => (model field).map Handler.recorded) model := by
  intro field
  cases handled : model field with
  | none => exact Or.inl ⟨congrArg (Option.map Handler.recorded) handled, rfl⟩
  | some handler =>
      refine Or.inr ⟨handler.recorded, handler,
        congrArg (Option.map Handler.recorded) handled, rfl, ?_⟩
      intro order history query told
      have built := leaves field handler handled order query ⟨history, told⟩
      obtain rfl := told.query_eq
      exact ⟨Classical.epsilon_spec built, rfl, rfl⟩

theorem leaves_built_of_followed {recorder : Model History} {model : Model SelectQuery}
    (followed : Model.Alike History.Tells recorder model) : model.LeavesBuilt := by
  intro field handler handled order query built
  obtain ⟨history, told⟩ := built
  obtain ⟨-, absent⟩ | ⟨follower, given, -, found, alike⟩ := followed field
  · rw [handled] at absent
    cases absent
  · rw [handled] at found
    cases found
    exact ⟨_, (alike order history query told).state⟩

namespace Session

/-- Whatever a query was reached by, its answers about joins are in step with its joins and with the
calls made on it. The handlers on the way may be all that leave only queries which calls can make.
In a session this holds after any steps, for the query and for every saved copy of it, with the
calls that a session on a history makes. -/
theorem joins_in_step :
    (∀ (history : History) (query : SelectQuery), SelectQuery.Reached history query →
      query.InStep history) ∧
    (∀ model : Model SelectQuery, model.LeavesBuilt ↔
      ∃ recorder : Model History, Model.Alike History.Tells recorder model) ∧
    ∀ (table : String) (steps : List Step),
      let built := (play steps (start (SelectQuery.ofTable table))).2
      let recorded := (play steps (start (History.fresh table))).2
      List.Forall₂ SelectQuery.InStep (built.query :: built.saved)
        (recorded.query :: recorded.saved) := by
  refine ⟨fun _ _ reached => SelectQuery.in_step_of_told (SelectQuery.told_of_reached reached),
    fun _ => ⟨fun leaves => ⟨_, followed_of_leaves_built leaves⟩,
      fun ⟨_, followed⟩ => leaves_built_of_followed followed⟩, ?_⟩
  intro table steps built recorded
  have meet : Alike History.Tells (start (History.fresh table))
      (start (SelectQuery.ofTable table)) :=
    ⟨History.tells_fresh table, rfl, rfl, .nil⟩
  obtain ⟨-, alike⟩ := play_alike History.tells_interchangeable steps meet
  have told : List.Forall₂ History.Tells (recorded.query :: recorded.saved)
      (built.query :: built.saved) := .cons alike.query_related alike.saved_related
  exact (told.imp fun _ _ => SelectQuery.in_step_of_told).flip

/-- A handler puts a fresh query in place of the one that it is given, with a table joined twice,
and fails. -/
theorem joins_in_step_replaced :
    let script := HookAction.script
      [.leftJoin ⟨"labels", "labels.post_id", "=", "archive.id"⟩,
        .leftJoin ⟨"labels", "labels.note_id", "=", "archive.id"⟩,
        .fail (.custom "archive is closed")] .asc
    let recorder : Model History := fun field =>
      if field = "archived" then some fun _ => do
        Run.update fun _ => History.fresh "archive"
        script.run
      else none
    let model : Model SelectQuery := fun field =>
      if field = "archived" then some fun _ => do
        Run.update fun _ => SelectQuery.ofTable "archive"
        script.run
      else none
    let raws := ["posts.tags.post_id.label", "archived,desc", "title"]
    let history := (SortOptions.standard.sortAll recorder raws (History.fresh "posts")).state
    let sorted := SortOptions.standard.sortAll model raws (SelectQuery.ofTable "posts")
    let joined : QueryCall := .leftJoin ⟨"notes", "notes.id", "=", "labels.note_id"⟩
    sorted.result = .error (.custom "archive is closed") ∧
    model.LeavesBuilt ∧
    SelectQuery.Reached (joined.on history) (joined.on sorted.state) ∧
    (joined.on sorted.state).InStep (joined.on history) ∧
    QueryBuilder.joinedTables (joined.on sorted.state) = ["labels", "labels", "notes"] ∧
    QueryBuilder.hasJoin (joined.on sorted.state) "tags" = false := by
  intro script recorder model raws history sorted joined
  have exchange := History.tells_interchangeable
  have followed : Model.Alike History.Tells recorder model := by
    intro field
    by_cases named : field = "archived"
    · refine Or.inr ⟨_, _, if_pos named, if_pos named, fun _ => ?_⟩
      apply Run.alike_bind
      · exact Run.alike_update fun _ _ _ => History.tells_fresh "archive"
      · exact fun _ => script_alike exchange script
    · exact Or.inl ⟨if_neg named, if_neg named⟩
  have reached : SelectQuery.Reached (joined.on history) (joined.on sorted.state) :=
    ((SelectQuery.Reached.fresh "posts").sortAll followed .standard raws).call joined
  have in_step := joins_in_step.1 _ _ reached
  have leaves := (joins_in_step.2.1 model).2 ⟨recorder, followed⟩
  refine ⟨?_, leaves, reached, in_step, ?_, ?_⟩
  · decide +kernel
  · rw [in_step.tables_eq]
    decide +kernel
  · rw [in_step.search_eq, in_step.tables_eq]
    decide +kernel

end Session

end PathSort
