import PathSort.Proofs.JoinPlan.References
import PathSort.Proofs.Sorting.Tokens

/-!
# The paths of a plan

A plan is written as a path by putting its names and the markers of its shape between dots. A
pivot-flipped plan can be written in two ways, a short one and a long one with a piece that stands
for nothing. Classifying is the inverse of writing: a field is classified as a plan exactly when the
plan's names can stand between dots and the field is one of its paths. So two fields mean the same
plan only as two paths of a pivot-flipped one, and then they do the same to every query.
-/

namespace PathSort

set_option autoImplicit false

namespace Text

def Piece (text : String) : Prop := text ≠ "" ∧ '.' ∉ text.toList

instance decidablePiece (text : String) : Decidable (Piece text) :=
  inferInstanceAs (Decidable (_ ∧ _))

theorem dotted_singleton (name : String) : dotted [name] = name := by
  simp [dotted]

theorem segments_dotted_pieces {pieces : List String} (some_piece : pieces ≠ [])
    (written : ∀ piece ∈ pieces, Piece piece) : segments (dotted pieces) = pieces := by
  apply segments_dotted some_piece
  intro piece member
  exact Bool.eq_false_iff.mpr (mt (is_dotted_iff piece).mp (written piece member).2)

theorem dot_mem_dotted {pieces : List String} (several : 2 ≤ pieces.length)
    (written : ∀ piece ∈ pieces, Piece piece) : '.' ∈ (dotted pieces).toList := by
  have some_piece : pieces ≠ [] := by
    rintro rfl
    simp at several
  have counted := length_segments (dotted pieces)
  rw [segments_dotted_pieces some_piece written] at counted
  exact List.count_pos_iff.mp (by omega)

end Text

namespace JoinPlan

/-- What stands between the dots of a plan's path. For a pivot-flipped plan it is the short path,
whose fourth piece is the column to order by. -/
def pieces : JoinPlan → List String
  | column field => [field]
  | normal main join fk sort => [main, join, fk, sort]
  | flipped main join fk sort => [main, join, fk, sort, "flip"]
  | polymorphic main poly polyFk join fk sort => [main, poly, polyFk, join, fk, sort, "flip"]
  | pivot main join fk sort pivotTable localKey =>
      [main, join, fk, sort, "pivot", pivotTable, localKey]
  | pivotFlipped main join fk pivotTable localKey join2 fk2 sort2 =>
      [main, join, fk, sort2, "pivot", pivotTable, localKey, join2, fk2, "flip"]

/-- The same for the long path of a pivot-flipped plan. Its fourth piece stands for nothing. -/
def longPieces? (unused : String) : JoinPlan → Option (List String)
  | pivotFlipped main join fk pivotTable localKey join2 fk2 sort2 =>
      some [main, join, fk, unused, "pivot", pivotTable, localKey, join2, fk2, sort2, "flip"]
  | _ => none

def path (plan : JoinPlan) : String := Text.dotted plan.pieces

def longPath? (unused : String) (plan : JoinPlan) : Option String :=
  (plan.longPieces? unused).map Text.dotted

/-- The names of the plan can be told apart in a path. A column is a path by itself and may be
empty. A pivot plan whose last name is the marker of another shape has no path. -/
def Valid (plan : JoinPlan) : Prop :=
  match plan with
  | column field => '.' ∉ field.toList
  | pivot _ _ _ _ _ localKey => (∀ name ∈ plan.names, Text.Piece name) ∧ localKey ≠ "flip"
  | _ => ∀ name ∈ plan.names, Text.Piece name

instance decidableValid (plan : JoinPlan) : Decidable plan.Valid :=
  match plan with
  | column _ => inferInstanceAs (Decidable (¬_))
  | normal .. => inferInstanceAs (Decidable (∀ name ∈ _, Text.Piece name))
  | flipped .. => inferInstanceAs (Decidable (∀ name ∈ _, Text.Piece name))
  | polymorphic .. => inferInstanceAs (Decidable (∀ name ∈ _, Text.Piece name))
  | pivot .. => inferInstanceAs (Decidable (_ ∧ _))
  | pivotFlipped .. => inferInstanceAs (Decidable (∀ name ∈ _, Text.Piece name))

def WrittenAs (plan : JoinPlan) (field : String) : Prop :=
  field = plan.path ∨ ∃ unused, Text.Piece unused ∧ plan.longPath? unused = some field

structure LaidOut (plan : JoinPlan) (field : String) (pieces : List String) : Prop where
  field_eq : field = Text.dotted pieces
  spelled : Spells pieces plan
  written : ∀ piece ∈ pieces, Text.Piece piece

theorem classify_of_laid_out {plan : JoinPlan} {field : String} {pieces : List String}
    (laid : plan.LaidOut field pieces) : classify field = .ok plan := by
  have several : 2 ≤ pieces.length := by
    rcases shaped_of_spells laid.spelled with four | five | seven | seven | ten | eleven <;> omega
  have cut : Text.segments field = pieces := by
    rw [laid.field_eq]
    exact Text.segments_dotted_pieces (List.ne_nil_of_length_pos (by omega)) laid.written
  have dotted : '.' ∈ field.toList := by
    rw [laid.field_eq]
    exact Text.dot_mem_dotted several laid.written
  rw [classify_dotted_ok_iff dotted, cut]
  exact ⟨fun empty => (laid.written "" empty).1 rfl, laid.spelled⟩

theorem laid_out_of_classified {plan : JoinPlan} {field : String} (dotted : '.' ∈ field.toList)
    (classified : classify field = .ok plan) : plan.LaidOut field (Text.segments field) := by
  obtain ⟨none_empty, spelled⟩ := (classify_dotted_ok_iff dotted plan).mp classified
  refine ⟨(Text.dotted_segments field).symm, spelled, ?_⟩
  intro piece member
  refine ⟨?_, ?_⟩
  · rintro rfl
    exact none_empty member
  · exact mt (Text.is_dotted_iff piece).mpr (Bool.eq_false_iff.mp (Text.segments_dotless member))

theorem valid_of_laid_out {plan : JoinPlan} {field : String} {pieces : List String}
    (laid : plan.LaidOut field pieces) : plan.Valid := by
  have named : ∀ name ∈ plan.names, Text.Piece name := by
    intro name member
    exact laid.written name (names_of_spells laid.spelled member)
  cases plan with
  | column field => exact laid.spelled.elim
  | normal => exact named
  | flipped => exact named
  | polymorphic => exact named
  | pivot => exact ⟨named, laid.spelled.2⟩
  | pivotFlipped => exact named

theorem written_as_of_laid_out {plan : JoinPlan} {field : String} {pieces : List String}
    (laid : plan.LaidOut field pieces) : plan.WrittenAs field := by
  obtain ⟨rfl, spelled, written⟩ := laid
  cases plan with
  | column field => exact spelled.elim
  | normal => exact Or.inl (congrArg Text.dotted spelled)
  | flipped => exact Or.inl (congrArg Text.dotted spelled)
  | polymorphic => exact Or.inl (congrArg Text.dotted spelled)
  | pivot => exact Or.inl (congrArg Text.dotted spelled.1)
  | pivotFlipped =>
      rcases spelled with short | ⟨unused, rfl⟩
      · exact Or.inl (congrArg Text.dotted short)
      · exact Or.inr ⟨unused, written unused (by simp), rfl⟩

theorem pieces_subset (plan : JoinPlan) : plan.pieces ⊆ plan.names ++ ["pivot", "flip"] := by
  cases plan <;> simp [pieces, names]

theorem long_pieces_subset {plan : JoinPlan} {unused : String} {pieces : List String}
    (long : plan.longPieces? unused = some pieces) :
    pieces ⊆ unused :: (plan.names ++ ["pivot", "flip"]) := by
  cases plan with
  | pivotFlipped =>
      cases long
      simp [names]
  | _ => cases long

theorem markers_written : ∀ marker ∈ ["pivot", "flip"], Text.Piece marker := by decide

theorem spells_pieces {plan : JoinPlan} (valid : plan.Valid) (joined : plan.mainTable? ≠ none) :
    Spells plan.pieces plan := by
  cases plan with
  | column field => exact joined rfl
  | normal => rfl
  | flipped => rfl
  | polymorphic => rfl
  | pivot => exact ⟨rfl, valid.2⟩
  | pivotFlipped => exact Or.inl rfl

theorem spells_long_pieces {plan : JoinPlan} {unused : String} {pieces : List String}
    (long : plan.longPieces? unused = some pieces) : Spells pieces plan := by
  cases plan with
  | pivotFlipped =>
      cases long
      exact Or.inr ⟨unused, rfl⟩
  | _ => cases long

theorem named_of_valid {plan : JoinPlan} (valid : plan.Valid) (joined : plan.mainTable? ≠ none) :
    ∀ name ∈ plan.names, Text.Piece name := by
  cases plan with
  | column field => exact absurd rfl joined
  | normal => exact valid
  | flipped => exact valid
  | polymorphic => exact valid
  | pivot => exact valid.1
  | pivotFlipped => exact valid

theorem laid_out_of_written_as {plan : JoinPlan} {field : String} (valid : plan.Valid)
    (joined : plan.mainTable? ≠ none) (written : plan.WrittenAs field) :
    ∃ pieces, plan.LaidOut field pieces := by
  have named : ∀ name ∈ plan.names ++ ["pivot", "flip"], Text.Piece name :=
    List.forall_mem_append.mpr ⟨named_of_valid valid joined, markers_written⟩
  rcases written with short | ⟨unused, unused_written, long⟩
  · refine ⟨plan.pieces, short, spells_pieces valid joined, ?_⟩
    intro piece member
    exact named piece (plan.pieces_subset member)
  · obtain ⟨pieces, laid, whole⟩ := Option.map_eq_some_iff.mp long
    refine ⟨pieces, whole.symm, spells_long_pieces laid, ?_⟩
    intro piece member
    rcases List.mem_cons.mp (long_pieces_subset laid member) with rfl | listed
    · exact unused_written
    · exact named piece listed

theorem written_as_column_iff (column field : String) :
    (JoinPlan.column column).WrittenAs field ↔ field = column := by
  simp [WrittenAs, path, pieces, longPath?, longPieces?, Text.dotted_singleton]

theorem classify_of_written_as {plan : JoinPlan} {field : String} (valid : plan.Valid)
    (written : plan.WrittenAs field) : classify field = .ok plan := by
  cases plan with
  | column column =>
      rw [(written_as_column_iff column field).mp written]
      exact classify_of_dotless valid
  | _ =>
      obtain ⟨pieces, laid⟩ := laid_out_of_written_as valid (Option.some_ne_none _) written
      exact classify_of_laid_out laid

theorem written_as_of_classified {plan : JoinPlan} {field : String}
    (classified : classify field = .ok plan) : plan.Valid ∧ plan.WrittenAs field := by
  by_cases dotted : '.' ∈ field.toList
  · have laid := laid_out_of_classified dotted classified
    exact ⟨valid_of_laid_out laid, written_as_of_laid_out laid⟩
  · rw [classify_of_dotless dotted] at classified
    cases classified
    exact ⟨dotted, (written_as_column_iff field field).mpr rfl⟩

/-- The fields are two paths of one plan, the short one and a long one or two long ones. Long paths
of one plan differ in the piece that stands for nothing, and in no other. -/
def Variants (field other : String) : Prop :=
  ∃ (plan : JoinPlan) (unused : String), plan.Valid ∧ Text.Piece unused ∧
    ((field = plan.path ∧ plan.longPath? unused = some other) ∨
      (other = plan.path ∧ plan.longPath? unused = some field) ∨
      ∃ another, Text.Piece another ∧ another ≠ unused ∧
        plan.longPath? unused = some field ∧ plan.longPath? another = some other)

theorem variants_of_written_as {plan : JoinPlan} {field other : String} (valid : plan.Valid)
    (first : plan.WrittenAs field) (second : plan.WrittenAs other) (different : field ≠ other) :
    Variants field other := by
  rcases first with short | ⟨unused, unused_written, long⟩
  · rcases second with again | ⟨unused, unused_written, long⟩
    · exact absurd (short.trans again.symm) different
    · exact ⟨plan, unused, valid, unused_written, Or.inl ⟨short, long⟩⟩
  · rcases second with short | ⟨another, another_written, again⟩
    · exact ⟨plan, unused, valid, unused_written, Or.inr (Or.inl ⟨short, long⟩)⟩
    · have apart : another ≠ unused := by
        rintro rfl
        exact different (Option.some.inj (long.symm.trans again))
      exact ⟨plan, unused, valid, unused_written,
        Or.inr (Or.inr ⟨another, another_written, apart, long, again⟩)⟩

theorem written_as_of_variants {field other : String} (variants : Variants field other) :
    ∃ plan : JoinPlan, plan.Valid ∧ plan.WrittenAs field ∧ plan.WrittenAs other := by
  obtain ⟨plan, unused, valid, unused_written, ⟨short, long⟩ | ⟨short, long⟩ |
    ⟨another, another_written, -, long, again⟩⟩ := variants
  · exact ⟨plan, valid, Or.inl short, Or.inr ⟨unused, unused_written, long⟩⟩
  · exact ⟨plan, valid, Or.inr ⟨unused, unused_written, long⟩, Or.inl short⟩
  · exact ⟨plan, valid, Or.inr ⟨unused, unused_written, long⟩,
      Or.inr ⟨another, another_written, again⟩⟩

/-- Directives whose fields are paths of one plan do the same to every query, in one direction. -/
theorem apply_eq_of_same_plan {Q : Type} [QueryBuilder Q] {plan : JoinPlan}
    {directive other : Directive} (classified : classify directive.field = .ok plan)
    (classified_other : classify other.field = .ok plan)
    (same_order : directive.order = other.order)
    (options : SortOptions) (query : Q) :
    options.apply Model.plain directive query = options.apply Model.plain other query := by
  obtain ⟨reached, events, ended⟩ := apply_plan_ends (ε := SortError) query plan directive.order
  have resolved : resolve Model.plain directive query = ⟨reached, events, .ok ()⟩ :=
    (SortOptions.resolve_of_plan rfl classified).trans ended
  have resolved_other : resolve Model.plain other query = ⟨reached, events, .ok ()⟩ := by
    rw [SortOptions.resolve_of_plan rfl classified_other, ← same_order, ended]
  rw [SortOptions.apply_of_ok resolved, SortOptions.apply_of_ok resolved_other]

/-- A field is classified as a plan exactly when the plan can be written and the field is one of its
paths. Two fields have the same plan only as two paths of a pivot-flipped one, and then directives
with these fields do the same to every query. -/
theorem classify_inverts_paths :
    (∀ field plan, classify field = .ok plan ↔ plan.Valid ∧ plan.WrittenAs field) ∧
    (∀ field other, field ≠ other →
      ((∃ plan, classify field = .ok plan ∧ classify other = .ok plan) ↔ Variants field other)) ∧
    ∀ directive other : Directive, Variants directive.field other.field →
      directive.order = other.order →
        ∀ (Q : Type) [QueryBuilder Q] (options : SortOptions) (query : Q),
          options.apply Model.plain directive query = options.apply Model.plain other query := by
  refine ⟨?_, ?_, ?_⟩
  · exact fun field plan =>
      ⟨written_as_of_classified, fun written => classify_of_written_as written.1 written.2⟩
  · intro field other different
    constructor
    · rintro ⟨plan, classified, classified_other⟩
      obtain ⟨valid, first⟩ := written_as_of_classified classified
      obtain ⟨-, second⟩ := written_as_of_classified classified_other
      exact variants_of_written_as valid first second different
    · intro variants
      obtain ⟨plan, valid, first, second⟩ := written_as_of_variants variants
      exact ⟨plan, classify_of_written_as valid first, classify_of_written_as valid second⟩
  · intro directive other variants same_order Q builder options query
    obtain ⟨plan, valid, first, second⟩ := written_as_of_variants variants
    exact apply_eq_of_same_plan (classify_of_written_as valid first)
      (classify_of_written_as valid second) same_order options query

/-- The pivot table and the column to order by are called as the markers are, and so is the piece
that stands for nothing. -/
theorem classify_inverts_paths_marked :
    let plan : JoinPlan :=
      .pivotFlipped "users" "roles" "role_id" "pivot" "user_id" "teams" "team_id" "flip"
    let short : Directive := ⟨"users.roles.role_id.flip.pivot.pivot.user_id.teams.team_id.flip",
      .desc, by decide⟩
    let long : Directive := ⟨"users.roles.role_id.pivot.pivot.pivot.user_id.teams.team_id.flip.flip",
      .desc, by decide⟩
    plan.Valid ∧ plan.path = short.field ∧ plan.longPath? "pivot" = some long.field ∧
    classify short.field = .ok plan ∧ classify long.field = .ok plan ∧
    ∀ query : SelectQuery, SortOptions.standard.apply Model.plain short query =
      SortOptions.standard.apply Model.plain long query := by
  intro plan short long
  have valid : plan.Valid := by decide
  have short_path : plan.path = short.field := by decide +kernel
  have long_path : plan.longPath? "pivot" = some long.field := by decide +kernel
  have unused_written : Text.Piece "pivot" := by decide
  obtain ⟨inverse, -, same_effect⟩ := classify_inverts_paths
  have variants : Variants short.field long.field :=
    ⟨plan, "pivot", valid, unused_written, Or.inl ⟨short_path.symm, long_path⟩⟩
  exact ⟨valid, short_path, long_path, (inverse _ plan).mpr ⟨valid, Or.inl short_path.symm⟩,
    (inverse _ plan).mpr ⟨valid, Or.inr ⟨"pivot", unused_written, long_path⟩⟩,
    fun query => same_effect short long variants rfl SelectQuery SortOptions.standard query⟩

/-- Seven pieces that end with the marker of another shape are no path of a pivot plan. -/
example : ¬(JoinPlan.pivot "a" "b" "c" "d" "f" "flip").Valid := by decide

end JoinPlan

end PathSort
