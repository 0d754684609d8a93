import PathSort.Proofs.Command.ExplainedQueries
import PathSort.Proofs.Sorting.TokenOrder

/-!
# The token that a command fails at

What a token is refused for is known without a query, and without the other tokens. So both commands
fail with what the first refused token from the left is refused for, and they come to their text
when no token is refused. The error names the token or the field that was read from it.
-/

namespace PathSort

set_option autoImplicit false

namespace SortOptions

def refusal? (options : SortOptions) (raw : String) : Option SortError :=
  (options.reading raw).refusal?

theorem refusal_names {options : SortOptions} {raw : String} {error : SortError}
    (refused : options.refusal? raw = some error) :
    error = .malformedDirective raw ∨
      ∃ directive, Directive.parse raw options.defaultOrder = .ok directive ∧
        error = .unsupportedJoinPattern directive.field directive.segments.length := by
  cases reading : options.reading raw with
  | malformed failure =>
      simp only [refusal?, reading, Reading.refusal?, Option.some.injEq] at refused
      rw [← refused]
      exact Or.inl (Directive.parse_error_eq (reading_malformed_iff.mp reading))
  | refused directive failure =>
      simp only [refusal?, reading, Reading.refusal?, Option.some.injEq] at refused
      obtain ⟨parsed, unsupported, -⟩ := reading_refused_iff.mp reading
      rw [← refused]
      exact Or.inr ⟨directive, parsed, JoinPlan.classify_error_eq unsupported⟩
  | skipped directive => simp [refusal?, reading, Reading.refusal?] at refused
  | planned directive plan => simp [refusal?, reading, Reading.refusal?] at refused

theorem no_refusal_iff {options : SortOptions} {raws : List String} :
    raws.findSome? options.refusal? = none ↔ ∀ raw ∈ raws, options.Passes raw := by
  simp only [List.findSome?_eq_none_iff, passes_iff, refusal?]

end SortOptions

namespace Report

variable {options : SortOptions}

theorem token_lines_error_iff (raw : String) (error : SortError) :
    (tokenLines options raw ()).result = .error error ↔ options.refusal? raw = some error := by
  rw [token_lines_result, SortOptions.refusal?]
  cases options.reading raw <;> simp [Reading.lines, Reading.refusal?]

/-- A report fails at the first token from the left that is refused. -/
theorem lines_error_iff (raws : List String) (error : SortError) :
    (lines options raws ()).result = .error error ↔
      raws.findSome? options.refusal? = some error := by
  induction raws with
  | nil =>
      have nothing : (lines options [] ()).result = .ok [] := rfl
      simp [nothing]
  | cons raw rest ih =>
      rw [lines_result_cons]
      cases refused : options.refusal? raw with
      | some refusal =>
          rw [(token_lines_error_iff raw refusal).mpr refused, List.findSome?_cons, refused]
          simp [Except.bind]
      | none =>
          rw [List.findSome?_cons, refused, ← ih]
          cases shown : (tokenLines options raw ()).result with
          | error failure =>
              rw [token_lines_error_iff, refused] at shown
              cases shown
          | ok block =>
              cases (lines options rest ()).result with
              | error failure => rfl
              | ok blocks => simp [Except.bind, Except.map]

theorem lines_of_passing {raws : List String} (passing : ∀ raw ∈ raws, options.Passes raw) :
    ∃ shown, (lines options raws ()).result = .ok shown := by
  cases ended : (lines options raws ()).result with
  | ok shown => exact ⟨shown, rfl⟩
  | error failure =>
      rw [lines_error_iff, SortOptions.no_refusal_iff.mpr passing] at ended
      cases ended

end Report

namespace Settings

variable {options : SortOptions} {raws : List String} {error : SortError}

theorem rendered_error_iff {α : Type} (render : List Report.Line → α) :
    ((Report.lines options raws ()).result.map render).mapError CommandError.sort =
        .error (.sort error) ↔
      raws.findSome? options.refusal? = some error := by
  simp [← Report.lines_error_iff, Run.map_error_eq_error_iff, Run.map_eq_error_iff]

theorem plan_error_iff (settings : Settings) (palette : Report.Palette) :
    (settings.plan palette raws ()).result = .error (.sort error) ↔
      raws.findSome? settings.options.refusal? = some error := by
  rw [plan_result, rendered_error_iff]

theorem explain_error_iff (table : String) :
    (explain ⟨some table, options⟩ raws ()).result = .error (.sort error) ↔
      raws.findSome? options.refusal? = some error := by
  rw [explain_from_lines, rendered_error_iff]

theorem plan_of_passing {settings : Settings}
    (passing : ∀ raw ∈ raws, settings.options.Passes raw) (palette : Report.Palette) :
    ∃ shown, (Report.lines settings.options raws ()).result = .ok shown ∧
      (settings.plan palette raws ()).result = .ok (Report.text palette shown) := by
  obtain ⟨shown, listed⟩ := Report.lines_of_passing passing
  refine ⟨shown, listed, ?_⟩
  rw [plan_result, listed]
  rfl

theorem explain_of_passing (passing : ∀ raw ∈ raws, options.Passes raw) (table : String) :
    (explain ⟨some table, options⟩ raws ()).result =
      .ok (options.sortedQuery table raws).sql := by
  obtain ⟨shown, listed⟩ := Report.lines_of_passing passing
  have explained : (explain ⟨some table, options⟩ raws ()).result =
      .ok (Report.selectSql table shown) := by
    rw [explain_from_lines, listed]
    rfl
  rw [explained, explain_text explained]

end Settings

end PathSort
