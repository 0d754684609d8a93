import PathSort.Proofs.Command.Refusals
import PathSort.Proofs.SortError.Messages

/-!
# The line of an error

What a command prints when a token is refused is one line of visible characters, whatever the token
holds, and the line can be read back: it tells the token, or the field of the token and the number
of its pieces. -/

namespace PathSort.Settings

set_option autoImplicit false

def FailsWith (settings : Settings) (raws : List String) (error : SortError) : Prop :=
  (settings.plan .plain raws ()).result = .error (.sort error) ∨
    (settings.explain raws ()).result = .error (.sort error)

def errorLine (error : SortError) : String :=
  Report.Palette.plain.errorLine (CommandError.sort error).message

theorem refused_of_fails {settings : Settings} {raws : List String} {error : SortError}
    (fails : settings.FailsWith raws error) :
    raws.findSome? settings.options.refusal? = some error := by
  rcases fails with plan_failed | explain_failed
  · exact (plan_error_iff settings .plain).mp plan_failed
  · rcases settings with ⟨_ | table, options⟩
    · cases explain_failed
    · exact (explain_error_iff table).mp explain_failed

theorem fails_names {settings : Settings} {raws : List String} {error : SortError}
    (fails : settings.FailsWith raws error) :
    ∃ raw ∈ raws, error = .malformedDirective raw ∨
      ∃ directive, Directive.parse raw settings.options.defaultOrder = .ok directive ∧
        error = .unsupportedJoinPattern directive.field directive.segments.length := by
  obtain ⟨raw, listed, refused⟩ := List.exists_of_findSome?_eq_some (refused_of_fails fails)
  exact ⟨raw, listed, SortOptions.refusal_names refused⟩

theorem visible_error_line {error : SortError} (visible : Text.Visible error.message.toList) :
    Text.Visible (errorLine error).toList := by
  have label : Text.Visible ("Error:" ++ " ").toList := Text.visible_ascii (by decide +kernel)
  exact Text.visible_text_append label visible

theorem error_line_inj {error other : SortError} (same : errorLine error = errorLine other) :
    error = other :=
  SortError.message_inj ((String.append_right_inj ("Error:" ++ " ")).mp same)

/-- Errors that print alike are the same, and both runs were given the same unreadable token, or
tokens with the same field, which has no known shape. -/
theorem same_line_same_cause {settings other : Settings} {raws otherRaws : List String}
    {error otherError : SortError} (fails : settings.FailsWith raws error)
    (other_fails : other.FailsWith otherRaws otherError)
    (same : errorLine error = errorLine otherError) :
    error = otherError ∧
      ((∃ raw, raw ∈ raws ∧ raw ∈ otherRaws ∧ error = .malformedDirective raw) ∨
        ∃ raw ∈ raws, ∃ otherRaw ∈ otherRaws, ∃ directive otherDirective,
          Directive.parse raw settings.options.defaultOrder = .ok directive ∧
          Directive.parse otherRaw other.options.defaultOrder = .ok otherDirective ∧
          directive.field = otherDirective.field ∧
          error = .unsupportedJoinPattern directive.field directive.segments.length) := by
  obtain rfl := error_line_inj same
  refine ⟨rfl, ?_⟩
  obtain ⟨raw, listed, rfl | ⟨directive, parsed, rfl⟩⟩ := fails_names fails
  · obtain ⟨otherRaw, other_listed, named | ⟨_, _, named⟩⟩ := fails_names other_fails
    · cases named
      exact Or.inl ⟨raw, listed, other_listed, rfl⟩
    · cases named
  · obtain ⟨otherRaw, other_listed, named | ⟨otherDirective, other_parsed, named⟩⟩ :=
      fails_names other_fails
    · cases named
    · exact Or.inr ⟨raw, listed, otherRaw, other_listed, directive, otherDirective, parsed,
        other_parsed, (SortError.unsupportedJoinPattern.inj named).1, rfl⟩

/-- The line that a command prints when it fails at a token holds no control character, whatever the
tokens are, and its error is that a token of the list cannot be read, or that the field which was
read from one has no known shape. Two commands that print the same line have failed with the same
error, at the same token or the same field. No two errors at all have the same message, those of
handlers included. -/
theorem error_lines_identify :
    (∀ (settings : Settings) (raws : List String) (error : SortError),
      settings.FailsWith raws error →
        (∀ c ∈ (errorLine error).toList, ¬Text.IsControl c) ∧
        ∃ raw ∈ raws, error = .malformedDirective raw ∨
          ∃ directive, Directive.parse raw settings.options.defaultOrder = .ok directive ∧
            error = .unsupportedJoinPattern directive.field directive.segments.length) ∧
    (∀ (settings other : Settings) (raws otherRaws : List String) (error otherError : SortError),
      settings.FailsWith raws error → other.FailsWith otherRaws otherError →
        errorLine error = errorLine otherError →
        error = otherError ∧
        ((∃ raw, raw ∈ raws ∧ raw ∈ otherRaws ∧ error = .malformedDirective raw) ∨
          ∃ raw ∈ raws, ∃ otherRaw ∈ otherRaws, ∃ directive otherDirective,
            Directive.parse raw settings.options.defaultOrder = .ok directive ∧
            Directive.parse otherRaw other.options.defaultOrder = .ok otherDirective ∧
            directive.field = otherDirective.field ∧
            error = .unsupportedJoinPattern directive.field directive.segments.length)) ∧
    ∀ error other : SortError, error.message = other.message → error = other := by
  refine ⟨?_, ?_, ?_⟩
  · intro settings raws error fails
    refine ⟨?_, fails_names fails⟩
    apply Text.not_control_of_visible
    apply visible_error_line
    obtain ⟨raw, -, rfl | ⟨directive, -, rfl⟩⟩ := fails_names fails
    · exact SortError.visible_malformed raw
    · exact SortError.visible_unsupported directive.field directive.segments.length
  · intro settings other raws otherRaws error otherError fails other_fails same
    exact same_line_same_cause fails other_fails same
  · intro error other same
    exact SortError.message_inj same

/-- Two tokens that look like the ends of messages, with a line break and an escape character in
them. -/
theorem error_lines_identify_forged :
    let settings : Settings := ⟨some "posts", .standard⟩
    let malformed := "a.b\"\n,DESC"
    let unsupported := "a.b\" (3 segments)\x1b"
    settings.FailsWith ["title", malformed] (.malformedDirective malformed) ∧
    settings.FailsWith [unsupported, "title"] (.unsupportedJoinPattern unsupported 2) ∧
    errorLine (.malformedDirective malformed) =
      "Error: Malformed sort directive: \"a.b\\\"\\n,DESC\"" ∧
    errorLine (.unsupportedJoinPattern unsupported 2) =
      "Error: Unsupported join pattern \"a.b\\\" (3 segments)\\u\x7b1b\x7d\" (2 segments)" ∧
    (∀ c ∈ (errorLine (.malformedDirective malformed)).toList, ¬Text.IsControl c) ∧
    (∀ c ∈ (errorLine (.unsupportedJoinPattern unsupported 2)).toList, ¬Text.IsControl c) ∧
    errorLine (.malformedDirective malformed) ≠
      errorLine (.unsupportedJoinPattern unsupported 2) := by
  intro settings malformed unsupported
  have first : settings.FailsWith ["title", malformed] (.malformedDirective malformed) :=
    Or.inl (by decide +kernel)
  have second : settings.FailsWith [unsupported, "title"]
      (.unsupportedJoinPattern unsupported 2) :=
    Or.inr (by decide +kernel)
  obtain ⟨one_line, told_apart, -⟩ := error_lines_identify
  refine ⟨first, second, by decide +kernel, by decide +kernel, (one_line _ _ _ first).1,
    (one_line _ _ _ second).1, ?_⟩
  intro same
  cases (told_apart _ _ _ _ _ _ first second same).1

end PathSort.Settings
