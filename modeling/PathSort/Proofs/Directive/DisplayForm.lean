import PathSort.Proofs.Directive.WireForm

/-!
# The display form of directives

A directive is displayed as its field, a comma and the word of its direction. That is a token, and
it reads as the same directive exactly when the field has no comma and does not begin with a blank:
a comma would end the field too early, and a blank in front would be trimmed, while one at the end
is kept by the comma behind it. Directives that were read have such fields, so for them the display
form is canonical. -/

namespace PathSort.Directive

set_option autoImplicit false

/-- The directive's field is one that a token can carry in front of a comma. -/
structure Readable (directive : Directive) : Prop where
  field_unmarked : ',' ∉ directive.field.toList
  field_starts : Text.StartsBare directive.field.toList

theorem display_eq (directive : Directive) :
    directive.display = directive.field ++ suffix (some directive.order) := by
  obtain ⟨field, order, field_ne⟩ := directive
  cases order with
  | asc => exact String.append_assoc
  | desc => exact String.append_assoc

/-- A display form is a wire form that always gives the direction and has no blanks around it. -/
theorem display_wire_form {directive : Directive} (readable : directive.Readable) :
    WireForm directive.display "" directive.field (some directive.order) "" where
  raw_eq := by
    rw [display_eq, String.empty_append, String.append_empty]
  lead_blank := by simp [Text.Blank]
  tail_blank := by simp [Text.Blank]
  field_ne := directive.field_ne
  field_unmarked := readable.field_unmarked
  field_starts := readable.field_starts
  field_ends := fun given => absurd given (Option.some_ne_none _)

theorem parse_display {directive : Directive} (readable : directive.Readable)
    (fallback : Direction) : parse directive.display fallback = .ok directive :=
  parse_of_wire_form (display_wire_form readable) fallback

theorem readable_of_parsed {raw : String} {fallback : Direction} {directive : Directive}
    (parsed : parse raw fallback = .ok directive) : directive.Readable := by
  obtain ⟨lead, given, tail, form, -⟩ := wire_form_of_parsed parsed
  exact ⟨form.field_unmarked, form.field_starts⟩

/-- A display form reads as its directive exactly when the field has no comma and does not begin
with a blank. What is read from any token is such a directive: its display form reads as the
directive again, whatever the fallback is, and no other directive that is read has the same display
form. -/
theorem display_round_trips :
    (∀ (directive : Directive) (fallback : Direction),
      parse directive.display fallback = .ok directive ↔
        ',' ∉ directive.field.toList ∧
        ∀ first, directive.field.toList.head? = some first →
          first ∉ [' ', '\t', '\n', '\r', '\x00', '\x0b']) ∧
    (∀ raw fallback directive, parse raw fallback = .ok directive →
      directive.Readable ∧ ∀ again, parse directive.display again = .ok directive) ∧
    ∀ raw fallback directive other again read, parse raw fallback = .ok directive →
      parse other again = .ok read → directive.display = read.display → directive = read := by
  refine ⟨?_, ?_, ?_⟩
  · intro directive fallback
    constructor
    · intro parsed
      have readable := readable_of_parsed parsed
      exact ⟨readable.field_unmarked, readable.field_starts⟩
    · rintro ⟨unmarked, starts⟩
      exact parse_display ⟨unmarked, starts⟩ fallback
  · intro raw fallback directive parsed
    have readable := readable_of_parsed parsed
    exact ⟨readable, parse_display readable⟩
  · intro raw fallback directive other again read parsed parsed_other same
    have first := parse_display (readable_of_parsed parsed) fallback
    rw [same, parse_display (readable_of_parsed parsed_other)] at first
    exact (Except.ok.inj first).symm

/-- A blank in front of the comma stays in the field, and one in front of the field does not. -/
theorem display_round_trips_blank_kept :
    let raw := "\n name ,desc\t"
    let directive : Directive := ⟨"name ", .desc, by decide⟩
    let indented : Directive := ⟨" name", .desc, by decide⟩
    parse raw .asc = .ok directive ∧ directive.display = "name ,desc" ∧
    parse directive.display .asc = .ok directive ∧
    parse indented.display .asc ≠ .ok indented := by
  intro raw directive indented
  have parsed : parse raw .asc = .ok directive := by decide +kernel
  obtain ⟨round_trip, read_again, -⟩ := display_round_trips
  refine ⟨parsed, by decide +kernel, (read_again raw .asc directive parsed).2 .asc, ?_⟩
  intro same
  exact ((round_trip indented .asc).mp same).2 ' ' (by decide +kernel) (by decide)

end PathSort.Directive
