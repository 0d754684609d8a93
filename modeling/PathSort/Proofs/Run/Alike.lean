import PathSort.Hook.Script

/-!
# Runs that act alike

Two runs on states of different kinds act alike under a relation of these states when from related
states they report the same events, end with the same value or error, and leave related states. This
is kept by every way of composing runs. So whatever is written against the operations of a query
alone acts alike on two kinds of queries that answer alike and stay related under every call:
applying plans, directives and tokens, and every handler script.
-/

namespace PathSort

set_option autoImplicit false

structure Outcome.Alike {σ τ ε α : Type} (related : σ → τ → Prop) (outcome : Outcome σ ε α)
    (other : Outcome τ ε α) : Prop where
  state : related outcome.state other.state
  events : outcome.events = other.events
  result : outcome.result = other.result

namespace Run

variable {σ τ ε α β : Type} {related : σ → τ → Prop}

def Alike (related : σ → τ → Prop) (run : Run σ ε α) (other : Run τ ε α) : Prop :=
  ∀ state peer, related state peer → Outcome.Alike related (run state) (other peer)

theorem alike_pure (value : α) :
    Alike related (pure value : Run σ ε α) (pure value : Run τ ε α) :=
  fun _ _ meet => ⟨meet, rfl, rfl⟩

theorem alike_fail (error : ε) : Alike related (fail error : Run σ ε α) (fail error : Run τ ε α) :=
  fun _ _ meet => ⟨meet, rfl, rfl⟩

theorem alike_report (event : Event) :
    Alike related (report event : Run σ ε Unit) (report event : Run τ ε Unit) :=
  fun _ _ meet => ⟨meet, rfl, rfl⟩

theorem alike_of_except (result : Except ε α) :
    Alike related (ofExcept result : Run σ ε α) (ofExcept result : Run τ ε α) :=
  fun _ _ meet => ⟨meet, rfl, rfl⟩

theorem alike_read {view : σ → α} {view' : τ → α}
    (same : ∀ state peer, related state peer → view state = view' peer) :
    Alike related (read view : Run σ ε α) (read view' : Run τ ε α) :=
  fun state peer meet => ⟨meet, rfl, congrArg Except.ok (same state peer meet)⟩

theorem alike_update {change : σ → σ} {change' : τ → τ}
    (kept : ∀ state peer, related state peer → related (change state) (change' peer)) :
    Alike related (update change : Run σ ε Unit) (update change' : Run τ ε Unit) :=
  fun state peer meet => ⟨kept state peer meet, rfl, rfl⟩

theorem alike_after {outcome : Outcome σ ε α} {other : Outcome τ ε α}
    (alike : Outcome.Alike related outcome other) (events : List Event) :
    Outcome.Alike related (outcome.after events) (other.after events) :=
  ⟨alike.state, congrArg (events ++ ·) alike.events, alike.result⟩

theorem alike_bind {run : Run σ ε α} {other : Run τ ε α} (head : Alike related run other)
    {next : α → Run σ ε β} {next' : α → Run τ ε β}
    (tail : ∀ value, Alike related (next value) (next' value)) :
    Alike related (run >>= next) (other >>= next') := by
  intro state peer meet
  obtain ⟨reached_meet, same_events, same_result⟩ := head state peer meet
  -- The other run ends as this one does, so that both go on with one value or neither goes on.
  rcases ended : run state with ⟨reached, events, error | value⟩
  · rcases ended' : other peer with ⟨reached', events', result'⟩
    rw [ended, ended'] at reached_meet same_events same_result
    cases same_events
    cases same_result
    rw [bind_of_error ended, bind_of_error ended']
    exact ⟨reached_meet, rfl, rfl⟩
  · rcases ended' : other peer with ⟨reached', events', result'⟩
    rw [ended, ended'] at reached_meet same_events same_result
    cases same_events
    cases same_result
    rw [bind_of_ok ended, bind_of_ok ended']
    exact alike_after (tail value reached reached' reached_meet) events

/-- What follows a reading may depend on the state that is read. -/
theorem alike_read_bind {γ δ : Type} {view : σ → γ} {view' : τ → δ} {next : γ → Run σ ε β}
    {next' : δ → Run τ ε β}
    (tail : ∀ state peer, related state peer →
      Alike related (next (view state)) (next' (view' peer))) :
    Alike related ((read view : Run σ ε γ) >>= next) ((read view' : Run τ ε δ) >>= next') := by
  intro state peer meet
  have ended : (read view : Run σ ε γ) state = ⟨state, [], .ok (view state)⟩ := rfl
  have ended' : (read view' : Run τ ε δ) peer = ⟨peer, [], .ok (view' peer)⟩ := rfl
  rw [bind_of_ok ended, bind_of_ok ended']
  exact alike_after (tail state peer meet state peer meet) []

theorem alike_handle {run : Run σ ε α} {other : Run τ ε α} (head : Alike related run other)
    {handler : ε → Run σ ε α} {handler' : ε → Run τ ε α}
    (handled : ∀ error, Alike related (handler error) (handler' error)) :
    Alike related (run.handle handler) (other.handle handler') := by
  intro state peer meet
  obtain ⟨reached_meet, same_events, same_result⟩ := head state peer meet
  rcases ended : run state with ⟨reached, events, result⟩
  rcases ended' : other peer with ⟨reached', events', result'⟩
  rw [ended, ended'] at reached_meet same_events same_result
  cases same_events
  cases same_result
  rw [handle, handle, ended, ended']
  cases result with
  | error error => exact alike_after (handled error reached reached' reached_meet) events
  | ok value => exact ⟨reached_meet, rfl, rfl⟩

theorem alike_attempt {run : Run σ ε α} {other : Run τ ε α} (head : Alike related run other) :
    Alike related run.attempt other.attempt := by
  intro state peer meet
  obtain ⟨reached_meet, same_events, same_result⟩ := head state peer meet
  exact ⟨reached_meet, same_events, congrArg Except.ok same_result⟩

end Run

/-- Queries of two kinds that answer alike and stay related under every call. -/
structure Interchangeable {Q R : Type} [QueryBuilder Q] [QueryBuilder R] (related : Q → R → Prop) :
    Prop where
  call_related : ∀ {query : Q} {peer : R}, related query peer → ∀ made : QueryCall,
    related (made.on query) (made.on peer)
  joined_tables_eq : ∀ {query : Q} {peer : R}, related query peer →
    QueryBuilder.joinedTables query = QueryBuilder.joinedTables peer
  has_join_eq : ∀ {query : Q} {peer : R}, related query peer → ∀ table,
    QueryBuilder.hasJoin query table = QueryBuilder.hasJoin peer table

def Model.Alike {Q R : Type} (related : Q → R → Prop) (model : Model Q) (other : Model R) : Prop :=
  ∀ field, (model field = none ∧ other field = none) ∨
    ∃ handler handler', model field = some handler ∧ other field = some handler' ∧
      ∀ order, Run.Alike related (handler order) (handler' order)

section Sorting

variable {Q R : Type} {related : Q → R → Prop}

theorem plain_alike : Model.Alike related (Model.plain : Model Q) (Model.plain : Model R) :=
  fun _ => Or.inl ⟨rfl, rfl⟩

theorem SortOptions.read_alike (options : SortOptions) (raw : String) :
    Run.Alike related (options.read raw : Run Q SortError Directive)
      (options.read raw : Run R SortError Directive) := by
  unfold read
  apply Run.alike_bind (Run.alike_of_except _)
  intro directive
  exact Run.alike_bind (Run.alike_report _) fun _ => Run.alike_pure directive

variable [QueryBuilder Q] [QueryBuilder R]

theorem call_alike {ε : Type} (exchange : Interchangeable related) (made : QueryCall) :
    Run.Alike related (Run.update (made.on ·) : Run Q ε Unit)
      (Run.update (made.on ·) : Run R ε Unit) :=
  Run.alike_update fun _ _ meet => exchange.call_related meet made

theorem has_join_alike {ε : Type} (exchange : Interchangeable related) (table : String) :
    Run.Alike related (Run.read (QueryBuilder.hasJoin · table) : Run Q ε Bool)
      (Run.read (QueryBuilder.hasJoin · table) : Run R ε Bool) :=
  Run.alike_read fun _ _ meet => exchange.has_join_eq meet table

theorem joined_tables_alike {ε : Type} (exchange : Interchangeable related) :
    Run.Alike related (Run.read QueryBuilder.joinedTables : Run Q ε (List String))
      (Run.read QueryBuilder.joinedTables : Run R ε (List String)) :=
  Run.alike_read fun _ _ meet => exchange.joined_tables_eq meet

theorem add_join_alike {ε : Type} (exchange : Interchangeable related) (clause : JoinClause) :
    Run.Alike related (addJoin clause : Run Q ε Unit) (addJoin clause : Run R ε Unit) := by
  unfold addJoin
  apply Run.alike_bind (has_join_alike exchange clause.table)
  intro answer
  cases answer with
  | true => exact Run.alike_report _
  | false =>
      exact Run.alike_bind (call_alike exchange (.leftJoin clause)) fun _ => Run.alike_report _

theorem add_joins_alike {ε : Type} (exchange : Interchangeable related)
    (clauses : List JoinClause) :
    Run.Alike related (addJoins clauses : Run Q ε Unit) (addJoins clauses : Run R ε Unit) := by
  induction clauses with
  | nil => exact Run.alike_pure ()
  | cons clause rest ih => exact Run.alike_bind (add_join_alike exchange clause) fun _ => ih

theorem apply_plan_alike {ε : Type} (exchange : Interchangeable related) (plan : JoinPlan)
    (order : Direction) :
    Run.Alike related (applyPlan plan order : Run Q ε Unit)
      (applyPlan plan order : Run R ε Unit) := by
  unfold applyPlan
  apply Run.alike_bind (add_joins_alike exchange plan.joins)
  intro _
  have ordered := call_alike (ε := ε) exchange (.orderBy ⟨plan.orderColumn, order⟩)
  cases plan.projection? with
  | none => exact Run.alike_bind (Run.alike_pure ()) fun _ => ordered
  | some columns =>
      exact Run.alike_bind (call_alike exchange (.select columns)) fun _ => ordered

variable {model : Model Q} {other : Model R}

theorem resolve_alike (exchange : Interchangeable related)
    (handled : Model.Alike related model other) (directive : Directive) :
    Run.Alike related (resolve model directive) (resolve other directive) := by
  unfold resolve
  rcases handled directive.field with ⟨none, none'⟩ | ⟨handler, handler', some, some', alike⟩
  · rw [none, none']
    exact Run.alike_bind (Run.alike_of_except _) fun plan => apply_plan_alike exchange plan _
  · rw [some, some']
    exact Run.alike_bind (Run.alike_report _) fun _ => alike directive.order

namespace SortOptions

variable (options : SortOptions)

theorem apply_alike (exchange : Interchangeable related)
    (handled : Model.Alike related model other) (directive : Directive) :
    Run.Alike related (options.apply model directive) (options.apply other directive) := by
  unfold apply
  apply Run.alike_handle (resolve_alike exchange handled directive)
  intro error
  cases options.ignores error with
  | true => exact Run.alike_report _
  | false => exact Run.alike_fail error

theorem sort_alike (exchange : Interchangeable related) (handled : Model.Alike related model other)
    (raw : String) : Run.Alike related (options.sort model raw) (options.sort other raw) := by
  unfold sort
  apply Run.alike_bind (options.read_alike raw)
  intro directive
  exact Run.alike_bind (options.apply_alike exchange handled directive) fun _ =>
    Run.alike_pure directive

theorem sort_all_alike (exchange : Interchangeable related)
    (handled : Model.Alike related model other) (raws : List String) :
    Run.Alike related (options.sortAll model raws) (options.sortAll other raws) := by
  induction raws with
  | nil => exact Run.alike_pure []
  | cons raw rest ih =>
      apply Run.alike_bind (options.sort_alike exchange handled raw)
      intro directive
      exact Run.alike_bind ih fun directives => Run.alike_pure (directive :: directives)

end SortOptions

/-- A script acts alike on queries that can be exchanged, since it sees nothing of them but answers
and results. -/
theorem script_alike (exchange : Interchangeable related) (script : Script) :
    Run.Alike related (script.run : Run Q SortError Unit) (script.run : Run R SortError Unit) := by
  induction script with
  | done => exact Run.alike_pure ()
  | fail error => exact Run.alike_fail error
  | call made next ih => exact Run.alike_bind (call_alike exchange made) fun _ => ih
  | askJoin table next ih =>
      exact Run.alike_bind (has_join_alike exchange table) ih
  | askTables next ih =>
      exact Run.alike_bind (joined_tables_alike exchange) ih
  | apply options directive next ih =>
      exact Run.alike_bind
        (Run.alike_attempt (options.apply_alike exchange plain_alike directive)) ih
  | sort options raw next ih =>
      exact Run.alike_bind (Run.alike_attempt (options.sort_alike exchange plain_alike raw)) ih

end Sorting

end PathSort
