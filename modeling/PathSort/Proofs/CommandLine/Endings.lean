import PathSort.CommandLine.Execution
import PathSort.Proofs.Command.Refusals
import PathSort.Proofs.Settings.Sources

/-!
# How a command line ends

A command line that is understood succeeds or fails as a whole. It shows the whole text of its
command, or one error and no text. The error is the first one in a fixed order: the settings cannot
be loaded, `explain` has no table, a token is refused. As long as one of the first two stands, no
token is looked at. -/

namespace PathSort.CommandLine

set_option autoImplicit false

open Settings

namespace Invocation

/-- The command has the table that it needs. Only `explain` needs one. -/
def HasTable (invocation : Invocation) (settings : Settings) : Prop :=
  invocation.verb = .plan ∨ settings.table.isSome = true

instance (invocation : Invocation) (settings : Settings) :
    Decidable (invocation.HasTable settings) :=
  inferInstanceAs (Decidable (invocation.verb = .plan ∨ settings.table.isSome = true))

/-- A text is what the command comes to under settings: for `explain` the SELECT and a line feed,
for `plan` the report on all tokens. -/
def Writes (invocation : Invocation) (palette : Report.Palette) (settings : Settings)
    (text : String) : Prop :=
  match invocation.verb with
  | .explain => ∃ table, settings.table = some table ∧
      text = (settings.options.sortedQuery table invocation.tokens).sql ++ "\n"
  | .plan => ∃ shown, (Report.lines settings.options invocation.tokens ()).result = .ok shown ∧
      text = Report.text palette shown

section Runs

variable {invocation : Invocation} {files : FileSystem} {palette : Report.Palette}
  {settings : Settings}

theorem run_of_unloadable {error : LoadError}
    (unloadable : Unloadable files invocation.config error) :
    invocation.run files palette () = ⟨(), [], .error (.settings error)⟩ := by
  rw [run, load_of_unloadable unloadable]
  rfl

theorem run_of_source {stated : Stated} (source : Source files invocation.config stated) :
    invocation.run files palette () =
      invocation.runUnder palette (stated.inForce invocation.overrides) () := by
  rw [← override_in_force stated invocation.overrides, run, load_of_source source]
  exact congrFun (Run.pure_bind _ _) ()

theorem run_under_without_table (without : ¬invocation.HasTable settings) :
    invocation.runUnder palette settings () = ⟨(), [], .error .missingTable⟩ := by
  rcases settings with ⟨_ | table, options⟩
  · cases verb : invocation.verb with
    | explain =>
        rw [runUnder, verb]
        rfl
    | plan => exact absurd (Or.inl verb) without
  · exact absurd (Or.inr rfl) without

theorem run_without_table {stated : Stated} (source : Source files invocation.config stated)
    (without : ¬invocation.HasTable (stated.inForce invocation.overrides)) :
    invocation.run files palette () = ⟨(), [], .error .missingTable⟩ :=
  (run_of_source source).trans (run_under_without_table without)

theorem explain_run_result (explains : invocation.verb = .explain) :
    (invocation.runUnder palette settings ()).result =
      (settings.explain invocation.tokens ()).result.map (· ++ "\n") := by
  rw [runUnder, explains]
  exact Run.result_map (settings.explain invocation.tokens) (· ++ "\n") ()

theorem plan_run_result (plans : invocation.verb = .plan) :
    (invocation.runUnder palette settings ()).result =
      (settings.plan palette invocation.tokens ()).result := by
  rw [runUnder, plans]

theorem run_under_of_refused {error : SortError} (has_table : invocation.HasTable settings)
    (refused : invocation.tokens.findSome? settings.options.refusal? = some error) :
    (invocation.runUnder palette settings ()).result = .error (.sort error) := by
  cases verb : invocation.verb with
  | explain =>
      rcases settings with ⟨_ | table, options⟩
      · simp [HasTable, verb] at has_table
      · rw [explain_run_result verb, (explain_error_iff table).mpr refused]
        rfl
  | plan => rw [plan_run_result verb, (plan_error_iff settings palette).mpr refused]

theorem run_under_of_passing (has_table : invocation.HasTable settings)
    (passing : ∀ raw ∈ invocation.tokens, settings.options.Passes raw) :
    ∃ text, (invocation.runUnder palette settings ()).result = .ok text ∧
      invocation.Writes palette settings text := by
  cases verb : invocation.verb with
  | explain =>
      rcases settings with ⟨_ | table, options⟩
      · simp [HasTable, verb] at has_table
      · refine ⟨(options.sortedQuery table invocation.tokens).sql ++ "\n", ?_, ?_⟩
        · rw [explain_run_result verb, explain_of_passing passing]
          rfl
        · rw [Writes, verb]
          exact ⟨table, rfl, rfl⟩
  | plan =>
      obtain ⟨shown, listed, planned⟩ := plan_of_passing passing palette
      refine ⟨Report.text palette shown, ?_, ?_⟩
      · rw [plan_run_result verb, planned]
      · rw [Writes, verb]
        exact ⟨shown, listed, rfl⟩

end Runs

end Invocation

namespace Exit

variable {limit : Option Level} {outcome : Outcome Unit CommandError String}

theorem of_outcome_failed {error : CommandError} (failed : outcome.result = .error error) :
    ofOutcome limit outcome = ⟨1, "", some error, outcome.events.filter (Event.isShown limit)⟩ := by
  simp only [ofOutcome, failed]

theorem of_outcome_done {text : String} (done : outcome.result = .ok text) :
    ofOutcome limit outcome = ⟨0, text, none, outcome.events.filter (Event.isShown limit)⟩ := by
  simp only [ofOutcome, done]

end Exit

section Execution

variable {arguments : List String} {invocation : Invocation} {files : FileSystem}
  {environment : Environment}

theorem execute_of_accepted (accepted : parse arguments = .ok invocation) :
    execute files environment arguments =
      .ofOutcome (invocation.logLimit environment)
        (invocation.run files environment.palette ()) := by
  rw [execute, accepted]

theorem exit_of_error {error : CommandError} (accepted : parse arguments = .ok invocation)
    (failed : invocation.run files environment.palette () = ⟨(), [], .error error⟩) :
    execute files environment arguments = ⟨1, "", some error, []⟩ := by
  rw [execute_of_accepted accepted, failed]
  rfl

/-- A command line that is understood ends with a text, or with one error and no text. -/
theorem execute_whole (accepted : parse arguments = .ok invocation) :
    let exit := execute files environment arguments
    (exit.code = 0 ∧ exit.error = none) ∨
      exit.code = 1 ∧ exit.output = "" ∧ exit.error.isSome = true := by
  intro exit
  have executed : exit = _ := execute_of_accepted accepted
  cases ended : (invocation.run files environment.palette ()).result with
  | ok text =>
      rw [executed, Exit.of_outcome_done ended]
      exact Or.inl ⟨rfl, rfl⟩
  | error error =>
      rw [executed, Exit.of_outcome_failed ended]
      exact Or.inr ⟨rfl, rfl, rfl⟩

section InForce

variable {stated : Stated}

theorem exit_of_refused {error : SortError} (accepted : parse arguments = .ok invocation)
    (source : Source files invocation.config stated)
    (has_table : invocation.HasTable (stated.inForce invocation.overrides))
    (refused : invocation.tokens.findSome?
      (stated.inForce invocation.overrides).options.refusal? = some error) :
    let exit := execute files environment arguments
    exit.code = 1 ∧ exit.output = "" ∧ exit.error = some (.sort error) := by
  intro exit
  have failed : (invocation.run files environment.palette ()).result = .error (.sort error) := by
    rw [Invocation.run_of_source source]
    exact Invocation.run_under_of_refused has_table refused
  have ended : exit = _ := (execute_of_accepted accepted).trans (Exit.of_outcome_failed failed)
  rw [ended]
  exact ⟨rfl, rfl, rfl⟩

theorem exit_of_passing (accepted : parse arguments = .ok invocation)
    (source : Source files invocation.config stated)
    (has_table : invocation.HasTable (stated.inForce invocation.overrides))
    (passing : ∀ raw ∈ invocation.tokens,
      (stated.inForce invocation.overrides).options.Passes raw) :
    let exit := execute files environment arguments
    exit.code = 0 ∧ exit.error = none ∧
      invocation.Writes environment.palette (stated.inForce invocation.overrides)
        exit.output := by
  intro exit
  obtain ⟨text, done, written⟩ :
      ∃ text, (invocation.run files environment.palette ()).result = .ok text ∧
        invocation.Writes environment.palette (stated.inForce invocation.overrides) text := by
    rw [Invocation.run_of_source source]
    exact Invocation.run_under_of_passing has_table passing
  have ended : exit = _ := (execute_of_accepted accepted).trans (Exit.of_outcome_done done)
  rw [ended]
  exact ⟨rfl, rfl, written⟩

end InForce

/-- A command line succeeds exactly when its settings load, it has the table that it needs and every
token passes. -/
theorem exit_code_zero_iff (accepted : parse arguments = .ok invocation) :
    (execute files environment arguments).code = 0 ↔
      ∃ stated, Source files invocation.config stated ∧
        invocation.HasTable (stated.inForce invocation.overrides) ∧
        ∀ raw ∈ invocation.tokens,
          (stated.inForce invocation.overrides).options.Passes raw := by
  constructor
  · intro succeeded
    -- Every other ending has an error, and so another code.
    have no_error : ∀ error,
        invocation.run files environment.palette () ≠ ⟨(), [], .error error⟩ := by
      intro error failed
      rw [exit_of_error accepted failed] at succeeded
      cases succeeded
    rcases source_or_unloadable files invocation.config with
      ⟨stated, source⟩ | ⟨error, unloadable⟩
    · by_cases has_table : invocation.HasTable (stated.inForce invocation.overrides)
      · refine ⟨stated, source, has_table, SortOptions.no_refusal_iff.mp ?_⟩
        cases refused : invocation.tokens.findSome?
            (stated.inForce invocation.overrides).options.refusal? with
        | none => rfl
        | some error =>
            have failed : (execute files environment arguments).code = 1 :=
              (exit_of_refused accepted source has_table refused).1
            rw [succeeded] at failed
            cases failed
      · exact absurd (Invocation.run_without_table source has_table) (no_error _)
    · exact absurd (Invocation.run_of_unloadable unloadable) (no_error _)
  · rintro ⟨stated, source, has_table, passing⟩
    exact (exit_of_passing accepted source has_table passing).1

end Execution

end PathSort.CommandLine
