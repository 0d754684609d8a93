import PathSort.Hook.Action
import PathSort.Proofs.Query.Replay
import PathSort.Proofs.Resolution.Moves
import PathSort.Proofs.Session.Backends

/-!
# Sorting only appends

Whatever a session does to its query, short of going back to a saved copy, only appends: the table
stays, joins and ORDER BY terms are added behind those that are there, and a joined table stays
joined. This holds for steps that succeed, that are ignored and that fail midway, with any handlers.
A join that neither the step nor a handler makes by a call of its own is made by the resolver, at a
moment when its table is not joined.
-/

namespace PathSort

set_option autoImplicit false

structure SelectQuery.Extends (before after : SelectQuery) : Prop where
  table_eq : after.table = before.table
  joins_prefix : before.joins <+: after.joins
  order_prefix : before.orderBy <+: after.orderBy
  joined_kept : ∀ table, QueryBuilder.hasJoin before table = true →
    QueryBuilder.hasJoin after table = true

namespace SelectQuery

theorem extends_refl (query : SelectQuery) : query.Extends query where
  table_eq := rfl
  joins_prefix := List.prefix_rfl
  order_prefix := List.prefix_rfl
  joined_kept := fun _ => id

theorem extends_trans {before middle after : SelectQuery} (first : before.Extends middle)
    (second : middle.Extends after) : before.Extends after where
  table_eq := second.table_eq.trans first.table_eq
  joins_prefix := first.joins_prefix.trans second.joins_prefix
  order_prefix := first.order_prefix.trans second.order_prefix
  joined_kept := fun table joined => second.joined_kept table (first.joined_kept table joined)

theorem extends_call (query : SelectQuery) (made : QueryCall) :
    query.Extends (made.on query) := by
  cases made with
  | orderBy term => exact ⟨rfl, List.prefix_rfl, List.prefix_append _ _, fun _ => id⟩
  | select columns => exact ⟨rfl, List.prefix_rfl, List.prefix_rfl, fun _ => id⟩
  | leftJoin clause =>
      refine ⟨rfl, List.prefix_append _ _, List.prefix_rfl, ?_⟩
      intro table joined
      have listed : table ∈ query.joined := List.contains_iff_mem.mp joined
      exact List.contains_iff_mem.mpr (List.mem_insert_of_mem listed)

variable {own : JoinClause → Prop}

theorem extends_move {before after : SelectQuery} {events : List Event}
    (move : Move own before events after) : before.Extends after := by
  cases move with
  | report => exact extends_refl before
  | call => exact extends_call before _
  | join => exact extends_call before (.leftJoin _)

theorem extends_moves {before after : SelectQuery} {events : List Event}
    (moves : Moves own before events after) : before.Extends after := by
  induction moves with
  | stay query => exact extends_refl query
  | step move _ ih => exact extends_trans (extends_move move) ih

theorem indexed_move {before after : SelectQuery} {events : List Event} (indexed : before.Indexed)
    (move : Move own before events after) : after.Indexed := by
  cases move with
  | report => exact indexed
  | call => exact call_indexed indexed _
  | join => exact call_indexed indexed (.leftJoin _)

theorem indexed_moves {before after : SelectQuery} {events : List Event} (indexed : before.Indexed)
    (moves : Moves own before events after) : after.Indexed := by
  induction moves with
  | stay => exact indexed
  | step move _ ih => exact ih (indexed_move indexed move)

/-- On the way from one query to the other a join to the table was added where no join had it. -/
def JoinedFresh (table : String) (before after : SelectQuery) : Prop :=
  ∃ (reached : SelectQuery) (clause : JoinClause), clause.table = table ∧
    before.Extends reached ∧ table ∉ reached.targets ∧
    (QueryBuilder.leftJoin reached clause).Extends after

theorem joined_fresh_before {table : String} {before middle after : SelectQuery}
    (extended : before.Extends middle) (fresh : JoinedFresh table middle after) :
    JoinedFresh table before after := by
  obtain ⟨reached, clause, named, grown, absent, kept⟩ := fresh
  exact ⟨reached, clause, named, extends_trans extended grown, absent, kept⟩

/-- Each join that is reported as added went to a table that no join had. -/
theorem added_table_fresh {before after : SelectQuery} {events said later : List Event}
    {table : String} (indexed : before.Indexed) (moves : Moves own before events after)
    (split : events = said ++ .join table .added :: later) :
    JoinedFresh table before after := by
  induction moves generalizing said with
  | stay query => simp at split
  | step move moves ih =>
      have grown := extends_move move
      have reached_indexed := indexed_move indexed move
      cases move with
      | report quiet =>
          cases said with
          | nil =>
              cases split
              exact absurd rfl (quiet table)
          | cons event said =>
              exact joined_fresh_before grown (ih reached_indexed (List.cons.inj split).2)
      | call owned =>
          exact joined_fresh_before grown (ih reached_indexed split)
      | @join clause absent =>
          cases said with
          | nil =>
              cases split
              rw [has_join_eq_contains indexed] at absent
              refine ⟨_, clause, rfl, extends_refl _, ?_, extends_moves moves⟩
              simpa using absent
          | cons event said =>
              exact joined_fresh_before grown (ih reached_indexed (List.cons.inj split).2)

end SelectQuery

namespace Session

variable {Q : Type}

/-- The joins that a step makes by a call of its own, or that a handler may make so. -/
def Owns (session : Session Q) (made : Step) (clause : JoinClause) : Prop :=
  made = .call (.leftJoin clause) ∨
    ∃ registry field handler order, session.registry = some registry ∧
      registry.find? field = some handler ∧ (handler order).Makes clause

theorem play_append [QueryBuilder Q] (early late : List Step) (session : Session Q) :
    (play (early ++ late) session).2 = (play late (play early session).2).2 := by
  induction early generalizing session with
  | nil => rfl
  | cons made rest ih => exact ih (step made session).state

theorem on_query_moves {ε α : Type} [QueryBuilder Q] {own : JoinClause → Prop} {run : Run Q ε α}
    {session : Session Q} (moves : Run.MovesFrom own id run session.query) :
    Run.MovesFrom own Session.query (onQuery run) session :=
  moves

theorem on_query_reply_moves {ε α : Type} [QueryBuilder Q] {own : JoinClause → Prop}
    {run : Run Q ε α} {session : Session Q} (moves : Run.MovesFrom own id run session.query)
    (reply : α → Reply) :
    Run.MovesFrom own Session.query (onQuery run >>= fun given => pure (reply given)) session :=
  Run.moves_bind (on_query_moves moves) fun _ => Run.moves_silent rfl rfl

variable [QueryBuilder Q]

theorem model_moves (session : Session Q) (made : Step) :
    session.model.MovesQuery (session.Owns made) := by
  intro field handler handled order query
  cases held : session.registry with
  | none =>
      rw [model, held] at handled
      cases handled
  | some registry =>
      rw [model, held] at handled
      obtain ⟨script, found, rfl⟩ := Option.map_eq_some_iff.mp handled
      apply script_moves
      intro clause makes
      exact Or.inr ⟨registry, field, script, order, held, found, makes⟩

/-- What a step does to the query, unless it goes back to a saved one, are moves. -/
theorem step_moves (session : Session Q) {made : Step} (onward : made ≠ .restore) :
    Run.MovesFrom (session.Owns made) Session.query (step made) session := by
  cases made with
  | configure options => exact Run.moves_silent rfl rfl
  | parse raw =>
      apply Run.moves_read_bind
      exact Run.moves_bind (session.options.read_moves raw session) fun _ =>
        Run.moves_silent rfl rfl
  | sort raw =>
      apply Run.moves_read_bind
      have moves := session.options.sort_moves (model_moves session (.sort raw)) raw session.query
      exact on_query_reply_moves moves .directive
  | sortAll raws =>
      apply Run.moves_read_bind
      have moves := session.options.sort_all_moves (model_moves session (.sortAll raws)) raws
        session.query
      exact on_query_reply_moves moves .directives
  | apply field order =>
      apply Run.moves_read_bind
      apply Run.moves_bind (Run.moves_silent rfl rfl)
      intro directive
      have moves := session.options.apply_moves (model_moves session (.apply field order)) directive
        session.query
      exact on_query_reply_moves moves fun _ => .applied
  | resolve field order =>
      apply Run.moves_read_bind
      apply Run.moves_bind (Run.moves_silent rfl rfl)
      intro directive
      have moves := resolve_moves (model_moves session (.resolve field order)) directive
        session.query
      exact on_query_reply_moves moves fun _ => .applied
  | applyPath field order =>
      apply Run.moves_bind (Run.moves_silent rfl rfl)
      intro plan
      exact on_query_reply_moves (apply_plan_moves plan order _) fun _ => .plan plan
  | applyPlan plan order =>
      exact on_query_reply_moves (apply_plan_moves plan order _) fun _ => .plan plan
  | call call =>
      apply on_query_reply_moves
      exact call_moves call (fun clause same => Or.inl (congrArg Step.call same)) session.query
  | hasJoin table => exact Run.moves_silent rfl rfl
  | joinedTables => exact Run.moves_silent rfl rfl
  | inspect => exact Run.moves_silent rfl rfl
  | save => exact Run.moves_silent rfl rfl
  | restore => exact absurd rfl onward
  | register field handler => exact Run.moves_silent rfl rfl
  | hooks field =>
      apply Run.moves_read_bind
      cases session.registry with
      | none => exact Run.moves_silent rfl rfl
      | some registry => exact Run.moves_silent rfl rfl
  | newRegistry => exact Run.moves_silent rfl rfl
  | dropRegistry => exact Run.moves_silent rfl rfl

/-- What moves keep, steps that do not go back keep. -/
theorem play_related (related : Q → Q → Prop) (refl : ∀ query, related query query)
    (trans : ∀ {before middle after}, related before middle → related middle after →
      related before after)
    (moved : ∀ {own before events after}, Moves own before events after → related before after)
    (session : Session Q) {steps : List Step} (onward : Step.restore ∉ steps) :
    related session.query (play steps session).2.query := by
  induction steps generalizing session with
  | nil => exact refl session.query
  | cons made rest ih =>
      rw [List.mem_cons, not_or] at onward
      have moves := step_moves session (Ne.symm onward.1)
      exact trans (moved moves) (ih (step made session).state onward.2)

/-- However a step ends, it only appends to the query, and so do any steps in a row. What it did are
moves: a join is reported as added when its table is not joined, and every other join is one of the
step's own or of a handler's. Where the index of joined tables is in step with the joins at the
start, no join had the table of a join that is reported as added. -/
theorem sorting_only_appends (session : Session SelectQuery) (steps : List Step)
    (onward : Step.restore ∉ steps) :
    session.query.Extends (play steps session).2.query ∧
    ∀ early made late, steps = early ++ made :: late →
      let before := (play early session).2
      let outcome := step made before
      (play (early ++ [made]) session).2 = outcome.state ∧
      before.query.Extends outcome.state.query ∧
      Moves (before.Owns made) before.query outcome.events outcome.state.query ∧
      (session.query.Indexed → ∀ said table later,
        outcome.events = said ++ .join table .added :: later →
          SelectQuery.JoinedFresh table before.query outcome.state.query) := by
  refine ⟨play_related SelectQuery.Extends SelectQuery.extends_refl SelectQuery.extends_trans
    SelectQuery.extends_moves session onward, ?_⟩
  rintro early made late rfl before outcome
  have early_onward : Step.restore ∉ early := fun member =>
    onward (List.mem_append_left _ member)
  have made_onward : made ≠ .restore := by
    rintro rfl
    exact onward (List.mem_append_right early List.mem_cons_self)
  have moves : Moves (before.Owns made) before.query outcome.events outcome.state.query :=
    step_moves before made_onward
  refine ⟨play_append early [made] session, SelectQuery.extends_moves moves, moves, ?_⟩
  intro indexed said table later split
  have before_indexed : before.query.Indexed :=
    play_related (fun query reached => query.Indexed → reached.Indexed)
      (fun _ => id) (fun first second => second ∘ first)
      (fun moves indexed => SelectQuery.indexed_moves indexed moves) session early_onward indexed
  exact SelectQuery.added_table_fresh before_indexed moves split

/-- A handler applies a path, joins a table by itself and then fails, and its failure is ignored. -/
theorem sorting_only_appends_handled :
    let handler := HookAction.script
      [.apply "posts.tags.tag_id.name.pivot.post_tag.post_id",
        .leftJoin ⟨"tags", "tags.owner_id", "=", "posts.id"⟩,
        .fail (.unsupportedJoinPattern "rank" 1)]
    let session : Session SelectQuery :=
      ⟨SelectQuery.ofTable "posts", ⟨.asc, .ignore⟩, some (HookRegistry.empty.on "rank" handler), []⟩
    let joined : Step := .call (.leftJoin ⟨"tags", "tags.post_id", "=", "posts.id"⟩)
    let sorted : Step := .sortAll ["rank,desc", "title", "name,DESC"]
    Step.restore ∉ [joined, sorted] ∧
    (step sorted (play [joined] session).2).result = .error (.malformedDirective "name,DESC") ∧
    (step sorted (play [joined] session).2).state.query.targets = ["tags", "post_tag", "tags"] ∧
    (play [joined] session).2.query.Extends
      (step sorted (play [joined] session).2).state.query ∧
    SelectQuery.JoinedFresh "post_tag" (play [joined] session).2.query
      (step sorted (play [joined] session).2).state.query := by
  intro handler session joined sorted
  have onward : Step.restore ∉ [joined, sorted] := by
    simp [joined, sorted]
  have reported : (step sorted (play [joined] session).2).events =
      [.directive "rank" .desc, .hook "rank"] ++ .join "post_tag" .added ::
        [.join "tags" .duplicate, .patternIgnored "rank", .directive "title" .asc] := by
    decide +kernel
  have appends := (sorting_only_appends session [joined, sorted] onward).2 [joined] sorted [] rfl
  have indexed : session.query.Indexed := SelectQuery.of_table_indexed "posts"
  refine ⟨onward, ?_, ?_, appends.2.1, appends.2.2.2 indexed _ "post_tag" _ reported⟩
  · decide +kernel
  · decide +kernel

end Session

end PathSort
