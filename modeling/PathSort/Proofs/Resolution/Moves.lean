import PathSort.Hook.Script
import PathSort.Proofs.Resolution.AppliedPlans

/-!
# What a run can do to a query

Whatever is written against the operations of a query moves it by few kinds of moves: an event that
is not about a new join is reported, a call is made, or the resolver adds a join to a table that is
not joined and reports it. Plans, directives, tokens and handler scripts all come down to such
moves, however they end. A join that is not reported as added was made by a call of a handler or of
the caller. -/

namespace PathSort

set_option autoImplicit false

section Moves

variable {Q : Type} [QueryBuilder Q]

/-- One move of a query, with the events reported meanwhile. Calls may make only some joins. -/
inductive Move (own : JoinClause → Prop) : Q → List Event → Q → Prop
  | report (query : Q) {event : Event} (quiet : ∀ table, event ≠ .join table .added) :
      Move own query [event] query
  | call (query : Q) {made : QueryCall} (owned : ∀ clause, made = .leftJoin clause → own clause) :
      Move own query [] (made.on query)
  | join {query : Q} {clause : JoinClause}
      (absent : QueryBuilder.hasJoin query clause.table = false) :
      Move own query [.join clause.table .added] (QueryBuilder.leftJoin query clause)

inductive Moves (own : JoinClause → Prop) : Q → List Event → Q → Prop
  | stay (query : Q) : Moves own query [] query
  | step {query middle final : Q} {events later : List Event} (first : Move own query events middle)
      (rest : Moves own middle later final) : Moves own query (events ++ later) final

variable {own : JoinClause → Prop}

theorem moves_of_move {query final : Q} {events : List Event} (move : Move own query events final) :
    Moves own query events final := by
  simpa using Moves.step move (Moves.stay final)

theorem moves_trans {query middle final : Q} {events later : List Event}
    (first : Moves own query events middle) (rest : Moves own middle later final) :
    Moves own query (events ++ later) final := by
  induction first with
  | stay => exact rest
  | step move _ ih =>
      rw [List.append_assoc]
      exact .step move (ih rest)

end Moves

namespace Run

variable {Q σ ε α β : Type} [QueryBuilder Q] {own : JoinClause → Prop} {view : σ → Q}

def MovesFrom (own : JoinClause → Prop) (view : σ → Q) (run : Run σ ε α) (state : σ) : Prop :=
  Moves own (view state) (run state).events (view (run state).state)

theorem moves_silent {run : Run σ ε α} {state : σ} (silent : (run state).events = [])
    (kept : view (run state).state = view state) : MovesFrom own view run state := by
  rw [MovesFrom, silent, kept]
  exact .stay _

theorem moves_report {event : Event} (quiet : ∀ table, event ≠ .join table .added) (state : σ) :
    MovesFrom own view (report event : Run σ ε Unit) state :=
  moves_of_move (.report (view state) quiet)

theorem moves_bind {run : Run σ ε α} {next : α → Run σ ε β} {state : σ}
    (head : MovesFrom own view run state)
    (tail : ∀ value, MovesFrom own view (next value) (run state).state) :
    MovesFrom own view (run >>= next) state := by
  rw [MovesFrom] at head
  rcases ended : run state with ⟨reached, events, error | value⟩
  · rw [ended] at head
    rw [MovesFrom, bind_of_error ended]
    exact head
  · rw [ended] at head tail
    rw [MovesFrom, bind_of_ok ended]
    exact moves_trans head (tail value)

/-- What follows a reading is only run with what is read. -/
theorem moves_read_bind {γ : Type} {seen : σ → γ} {next : γ → Run σ ε β} {state : σ}
    (tail : MovesFrom own view (next (seen state)) state) :
    MovesFrom own view ((read seen : Run σ ε γ) >>= next) state := by
  have ended : (read seen : Run σ ε γ) state = ⟨state, [], .ok (seen state)⟩ := rfl
  rw [MovesFrom, bind_of_ok ended]
  exact tail

theorem moves_handle {run : Run σ ε α} {handler : ε → Run σ ε α} {state : σ}
    (head : MovesFrom own view run state)
    (handled : ∀ error, MovesFrom own view (handler error) (run state).state) :
    MovesFrom own view (run.handle handler) state := by
  rw [MovesFrom] at head
  rcases ended : run state with ⟨reached, events, error | value⟩
  · rw [ended] at head handled
    rw [MovesFrom, handle, ended]
    exact moves_trans head (handled error)
  · rw [ended] at head
    rw [MovesFrom, handle, ended]
    exact head

theorem moves_attempt {run : Run σ ε α} {state : σ} (moves : MovesFrom own view run state) :
    MovesFrom own view run.attempt state :=
  moves

end Run

section Sorting

variable {Q ε : Type} [QueryBuilder Q] {own : JoinClause → Prop}

theorem call_moves (made : QueryCall) (owned : ∀ clause, made = .leftJoin clause → own clause)
    (query : Q) : Run.MovesFrom own id (Run.update (made.on ·) : Run Q ε Unit) query :=
  moves_of_move (.call query owned)

/-- A join is added only where its table is not joined. -/
theorem add_join_moves (clause : JoinClause) (query : Q) :
    Run.MovesFrom own id (addJoin clause : Run Q ε Unit) query := by
  cases answer : QueryBuilder.hasJoin query clause.table with
  | true =>
      rw [Run.MovesFrom, add_join_of_present answer]
      exact moves_of_move (.report query (by simp))
  | false =>
      rw [Run.MovesFrom, add_join_of_absent answer]
      exact moves_of_move (.join answer)

theorem add_joins_moves (clauses : List JoinClause) (query : Q) :
    Run.MovesFrom own id (addJoins clauses : Run Q ε Unit) query := by
  induction clauses generalizing query with
  | nil => exact Run.moves_silent rfl rfl
  | cons clause rest ih => exact Run.moves_bind (add_join_moves clause query) fun _ => ih _

theorem apply_plan_moves (plan : JoinPlan) (order : Direction) (query : Q) :
    Run.MovesFrom own id (applyPlan plan order : Run Q ε Unit) query := by
  unfold applyPlan
  apply Run.moves_bind (add_joins_moves plan.joins query)
  intro _
  apply Run.moves_bind
  · cases plan.projection? with
    | none => exact Run.moves_silent rfl rfl
    | some columns => exact call_moves (.select columns) (by simp) _
  · exact fun _ => call_moves (.orderBy ⟨plan.orderColumn, order⟩) (by simp) _

def Model.MovesQuery (own : JoinClause → Prop) (model : Model Q) : Prop :=
  ∀ field handler, model field = some handler → ∀ order query,
    Run.MovesFrom own id (handler order) query

theorem plain_moves : Model.MovesQuery own (Model.plain : Model Q) := by
  intro field handler handled
  cases handled

variable {model : Model Q}

theorem resolve_moves (handlers : model.MovesQuery own) (directive : Directive) (query : Q) :
    Run.MovesFrom own id (resolve model directive) query := by
  unfold resolve
  cases handled : model directive.field with
  | some handler =>
      apply Run.moves_bind (Run.moves_report (by simp) query)
      exact fun _ => handlers directive.field handler handled directive.order _
  | none =>
      apply Run.moves_bind (Run.moves_silent rfl rfl)
      exact fun plan => apply_plan_moves plan directive.order _

namespace SortOptions

variable (options : SortOptions)

theorem read_moves {σ : Type} {view : σ → Q} (raw : String) (state : σ) :
    Run.MovesFrom own view (options.read raw : Run σ SortError Directive) state := by
  unfold read
  apply Run.moves_bind (Run.moves_silent rfl rfl)
  intro directive
  exact Run.moves_bind (Run.moves_report (by simp) _) fun _ => Run.moves_silent rfl rfl

theorem apply_moves (handlers : model.MovesQuery own) (directive : Directive) (query : Q) :
    Run.MovesFrom own id (options.apply model directive) query := by
  unfold apply
  apply Run.moves_handle (resolve_moves handlers directive query)
  intro error
  cases options.ignores error with
  | true => exact Run.moves_report (by simp) _
  | false => exact Run.moves_silent rfl rfl

theorem sort_moves (handlers : model.MovesQuery own) (raw : String) (query : Q) :
    Run.MovesFrom own id (options.sort model raw) query := by
  unfold sort
  apply Run.moves_bind (options.read_moves raw query)
  intro directive
  exact Run.moves_bind (options.apply_moves handlers directive _) fun _ => Run.moves_silent rfl rfl

theorem sort_all_moves (handlers : model.MovesQuery own) (raws : List String) (query : Q) :
    Run.MovesFrom own id (options.sortAll model raws) query := by
  induction raws generalizing query with
  | nil => exact Run.moves_silent rfl rfl
  | cons raw rest ih =>
      apply Run.moves_bind (options.sort_moves handlers raw query)
      intro directive
      exact Run.moves_bind (ih _) fun directives => Run.moves_silent rfl rfl

end SortOptions

def Script.Makes (clause : JoinClause) : Script → Prop
  | .done => False
  | .fail _ => False
  | .call made next => made = .leftJoin clause ∨ next.Makes clause
  | .askJoin _ next => ∃ answer, (next answer).Makes clause
  | .askTables next => ∃ answer, (next answer).Makes clause
  | .apply _ _ next => ∃ result, (next result).Makes clause
  | .sort _ _ next => ∃ result, (next result).Makes clause

theorem script_moves {script : Script} (owned : ∀ clause, script.Makes clause → own clause)
    (query : Q) : Run.MovesFrom own id (script.run : Run Q SortError Unit) query := by
  induction script generalizing query with
  | done => exact Run.moves_silent rfl rfl
  | fail error => exact Run.moves_silent rfl rfl
  | call made next ih =>
      apply Run.moves_bind
      · exact call_moves made (fun clause same => owned clause (Or.inl same)) query
      · exact fun _ => ih (fun clause makes => owned clause (Or.inr makes)) _
  | askJoin table next ih =>
      apply Run.moves_bind (Run.moves_silent rfl rfl)
      exact fun answer => ih answer (fun clause makes => owned clause ⟨answer, makes⟩) _
  | askTables next ih =>
      apply Run.moves_bind (Run.moves_silent rfl rfl)
      exact fun answer => ih answer (fun clause makes => owned clause ⟨answer, makes⟩) _
  | apply options directive next ih =>
      apply Run.moves_bind (Run.moves_attempt (options.apply_moves plain_moves directive query))
      exact fun result => ih result (fun clause makes => owned clause ⟨result, makes⟩) _
  | sort options raw next ih =>
      apply Run.moves_bind (Run.moves_attempt (options.sort_moves plain_moves raw query))
      exact fun result => ih result (fun clause makes => owned clause ⟨result, makes⟩) _

end Sorting

end PathSort
