import PathSort.Event

/-!
# Runs

A run acts on a state, reports events, and ends with a value or an error. State and events are kept
in every case: a run that fails has still done what it did before failing. Sequencing stops at the
first error, and the monad laws hold.
-/

namespace PathSort

set_option autoImplicit false

/-- What a run leaves behind. -/
structure Outcome (σ ε α : Type) where
  state : σ
  events : List Event
  result : Except ε α

def Outcome.after {σ ε α : Type} (events : List Event) (outcome : Outcome σ ε α) :
    Outcome σ ε α :=
  { outcome with events := events ++ outcome.events }

/-- A computation on a state that reports events and may fail. -/
def Run (σ ε α : Type) : Type := σ → Outcome σ ε α

namespace Run

variable {σ ε α β γ : Type}

def ret (value : α) : Run σ ε α := fun state => ⟨state, [], .ok value⟩

def fail (error : ε) : Run σ ε α := fun state => ⟨state, [], .error error⟩

/-- One run, then another that depends on its value. An error ends the whole. -/
def andThen (first : Run σ ε α) (next : α → Run σ ε β) : Run σ ε β := fun state =>
  match first state with
  | ⟨reached, events, .ok value⟩ => (next value reached).after events
  | ⟨reached, events, .error error⟩ => ⟨reached, events, .error error⟩

/-- A run whose error is handled by another run, which starts from what the first one left. -/
def handle (first : Run σ ε α) (handler : ε → Run σ ε α) : Run σ ε α := fun state =>
  match first state with
  | ⟨reached, events, .ok value⟩ => ⟨reached, events, .ok value⟩
  | ⟨reached, events, .error error⟩ => (handler error reached).after events

instance : Monad (Run σ ε) where
  pure := ret
  bind := andThen

def report (event : Event) : Run σ ε Unit := fun state => ⟨state, [event], .ok ()⟩

def update (change : σ → σ) : Run σ ε Unit := fun state => ⟨change state, [], .ok ()⟩

def read (view : σ → α) : Run σ ε α := fun state => ⟨state, [], .ok (view state)⟩

def ofExcept (result : Except ε α) : Run σ ε α := fun state => ⟨state, [], result⟩

/-- A run whose result, error or not, becomes a value. -/
def attempt (run : Run σ ε α) : Run σ ε (Except ε α) := fun state =>
  let outcome := run state
  ⟨outcome.state, outcome.events, .ok outcome.result⟩

/-- A run that fails in the words of another kind of error. -/
def mapError {ε' : Type} (change : ε → ε') (run : Run σ ε α) : Run σ ε' α := fun state =>
  let outcome := run state
  ⟨outcome.state, outcome.events, outcome.result.mapError change⟩

theorem after_nil (outcome : Outcome σ ε α) : outcome.after [] = outcome := rfl

theorem after_after (first second : List Event) (outcome : Outcome σ ε α) :
    (outcome.after second).after first = outcome.after (first ++ second) := by
  simp [Outcome.after]

theorem pure_apply (value : α) (state : σ) :
    (pure value : Run σ ε α) state = ⟨state, [], .ok value⟩ := rfl

theorem bind_of_ok {first : Run σ ε α} {state reached : σ} {events : List Event} {value : α}
    (ended : first state = ⟨reached, events, .ok value⟩) (next : α → Run σ ε β) :
    (first >>= next) state = (next value reached).after events := by
  change andThen first next state = _
  rw [andThen, ended]

theorem bind_of_error {first : Run σ ε α} {state reached : σ} {events : List Event} {error : ε}
    (ended : first state = ⟨reached, events, .error error⟩) (next : α → Run σ ε β) :
    (first >>= next) state = ⟨reached, events, .error error⟩ := by
  change andThen first next state = _
  rw [andThen, ended]

theorem pure_bind (value : α) (next : α → Run σ ε β) : (pure value >>= next) = next value := by
  funext state
  rw [bind_of_ok (pure_apply value state), after_nil]

theorem bind_pure (run : Run σ ε α) : (run >>= pure) = run := by
  funext state
  rcases ended : run state with ⟨reached, events, error | value⟩
  · exact bind_of_error ended pure
  · rw [bind_of_ok ended, pure_apply, Outcome.after, List.append_nil]

theorem bind_assoc (first : Run σ ε α) (second : α → Run σ ε β) (third : β → Run σ ε γ) :
    (first >>= second >>= third) = first >>= fun value => second value >>= third := by
  funext state
  rcases ended : first state with ⟨reached, events, error | value⟩
  · rw [bind_of_error (bind_of_error ended second) third, bind_of_error ended]
  · have inner := bind_of_ok ended second
    rw [bind_of_ok ended]
    rcases later : second value reached with ⟨final, more, error | result⟩
    · rw [later] at inner
      rw [bind_of_error inner third, bind_of_error later third]
      rfl
    · rw [later] at inner
      rw [bind_of_ok inner third, bind_of_ok later third, after_after]

/-- A sequence ends as its first run fails, or as the next one ends where the first one left off. -/
theorem result_bind (first : Run σ ε α) (next : α → Run σ ε β) (state : σ) :
    ((first >>= next) state).result =
      (first state).result.bind fun value => (next value (first state).state).result := by
  rcases ended : first state with ⟨reached, events, error | value⟩
  · rw [bind_of_error ended]
    rfl
  · rw [bind_of_ok ended]
    rfl

theorem result_map (run : Run σ ε α) (change : α → β) (state : σ) :
    ((run >>= fun value => pure (change value)) state).result =
      (run state).result.map change := by
  rw [result_bind]
  cases (run state).result with
  | error error => rfl
  | ok value => rfl

section Results

variable {ε' : Type} {result : Except ε α}

theorem bind_eq_ok_iff {next : α → Except ε β} {value : β} :
    result.bind next = .ok value ↔ ∃ reached, result = .ok reached ∧ next reached = .ok value := by
  cases result with
  | error error => simp [Except.bind]
  | ok reached => simp [Except.bind]

theorem map_eq_ok_iff {change : α → β} {value : β} :
    result.map change = .ok value ↔ ∃ reached, result = .ok reached ∧ change reached = value := by
  cases result with
  | error error => simp [Except.map]
  | ok reached => simp [Except.map]

theorem map_eq_error_iff {change : α → β} {error : ε} :
    result.map change = .error error ↔ result = .error error := by
  cases result with
  | error failure => simp [Except.map]
  | ok reached => simp [Except.map]

theorem map_error_eq_ok_iff {change : ε → ε'} {value : α} :
    result.mapError change = .ok value ↔ result = .ok value := by
  constructor
  · intro done
    cases result with
    | error error => cases done
    | ok reached => exact congrArg Except.ok (Except.ok.inj done)
  · rintro rfl
    rfl

theorem map_error_eq_error_iff {change : ε → ε'} {error : ε'} :
    result.mapError change = .error error ↔
      ∃ failure, result = .error failure ∧ change failure = error := by
  constructor
  · intro failed
    cases result with
    | error failure => exact ⟨failure, rfl, Except.error.inj failed⟩
    | ok reached => cases failed
  · rintro ⟨failure, rfl, rfl⟩
    rfl

end Results

end Run

end PathSort
