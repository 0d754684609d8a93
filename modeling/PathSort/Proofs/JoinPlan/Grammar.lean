import Mathlib.Data.List.Basic
import PathSort.JoinPlan.Path

/-!
# The grammar of paths

Which pieces spell which plan is written down here from the plan's side, as the layouts of each
shape, and once more by length and marker alone. Reading a field agrees with both: a field without a
dot is a column, a dotted one is read exactly when no piece is empty and its pieces have a known
layout, and every other field is reported unchanged with the number of its pieces.
-/

namespace PathSort

set_option autoImplicit false

namespace Text

theorem length_split_on (mark : Char) (text : List Char) :
    (text.splitOn mark).length = text.count mark + 1 := by
  induction text with
  | nil => rfl
  | cons c rest ih =>
      rw [List.splitOn_cons_eq_if_modifyHead, List.count_cons]
      by_cases cut : (c == mark) = true
      · rw [if_pos cut, if_pos cut, List.length_cons, ih]
      · rw [if_neg cut, if_neg cut, List.length_modifyHead, ih]

theorem length_segments (name : String) :
    (segments name).length = name.toList.count '.' + 1 := by
  rw [segments, List.length_map]
  exact length_split_on '.' name.toList

theorem is_dotted_iff (name : String) : isDotted name = true ↔ '.' ∈ name.toList :=
  List.contains_iff_mem

end Text

namespace JoinPlan

/-- The pieces are laid out as a path of the plan. -/
def Spells (pieces : List String) : JoinPlan → Prop
  | column _ => False
  | normal main join fk sort => pieces = [main, join, fk, sort]
  | flipped main join fk sort => pieces = [main, join, fk, sort, "flip"]
  | polymorphic main poly polyFk join fk sort =>
      pieces = [main, poly, polyFk, join, fk, sort, "flip"]
  | pivot main join fk sort pivotTable localKey =>
      pieces = [main, join, fk, sort, "pivot", pivotTable, localKey] ∧ localKey ≠ "flip"
  | pivotFlipped main join fk pivotTable localKey join2 fk2 sort2 =>
      pieces = [main, join, fk, sort2, "pivot", pivotTable, localKey, join2, fk2, "flip"] ∨
      ∃ unused, pieces =
        [main, join, fk, unused, "pivot", pivotTable, localKey, join2, fk2, sort2, "flip"]

def Shaped (pieces : List String) : Prop :=
  pieces.length = 4 ∨
  (pieces.length = 5 ∧ pieces[4]? = some "flip") ∨
  (pieces.length = 7 ∧ pieces[6]? = some "flip") ∨
  (pieces.length = 7 ∧ pieces[4]? = some "pivot" ∧ pieces[6]? ≠ some "flip") ∨
  (pieces.length = 10 ∧ pieces[4]? = some "pivot" ∧ pieces[9]? = some "flip") ∨
  (pieces.length = 11 ∧ pieces[4]? = some "pivot" ∧ pieces[10]? = some "flip")

theorem spells_of_segments {pieces : List String} {plan : JoinPlan}
    (read : ofSegments? pieces = some plan) : Spells pieces plan := by
  unfold ofSegments? at read
  split at read
  · cases read
    rfl
  · split at read
    · rename_i last
      cases read
      rw [last]
      rfl
    · cases read
  · split at read
    · rename_i last
      cases read
      rw [last]
      rfl
    · split at read
      · rename_i free fifth
        cases read
        rw [fifth]
        exact ⟨rfl, free⟩
      · cases read
  · split at read
    · rename_i marks
      cases read
      rw [marks.1, marks.2]
      exact Or.inl rfl
    · cases read
  · split at read
    · rename_i marks
      cases read
      rw [marks.1, marks.2]
      exact Or.inr ⟨_, rfl⟩
    · cases read
  · cases read

theorem of_segments_of_spells {pieces : List String} {plan : JoinPlan}
    (spelled : Spells pieces plan) : ofSegments? pieces = some plan := by
  cases plan with
  | column field => exact spelled.elim
  | normal main join fk sort =>
      rw [spelled]
      rfl
  | flipped main join fk sort =>
      rw [spelled]
      rfl
  | polymorphic main poly polyFk join fk sort =>
      rw [spelled]
      rfl
  | pivot main join fk sort pivotTable localKey =>
      obtain ⟨rfl, free⟩ := spelled
      simp [ofSegments?, flipMark, pivotMark, free]
  | pivotFlipped main join fk pivotTable localKey join2 fk2 sort2 =>
      rcases spelled with rfl | ⟨unused, rfl⟩
      · simp [ofSegments?, flipMark, pivotMark]
      · simp [ofSegments?, flipMark, pivotMark]

theorem of_segments_iff (pieces : List String) (plan : JoinPlan) :
    ofSegments? pieces = some plan ↔ Spells pieces plan :=
  ⟨spells_of_segments, of_segments_of_spells⟩

theorem shaped_of_spells {pieces : List String} {plan : JoinPlan}
    (spelled : Spells pieces plan) : Shaped pieces := by
  cases plan with
  | column field => exact spelled.elim
  | normal main join fk sort =>
      rw [spelled]
      simp [Shaped]
  | flipped main join fk sort =>
      rw [spelled]
      simp [Shaped]
  | polymorphic main poly polyFk join fk sort =>
      rw [spelled]
      simp [Shaped]
  | pivot main join fk sort pivotTable localKey =>
      obtain ⟨rfl, free⟩ := spelled
      simp [Shaped, free]
  | pivotFlipped main join fk pivotTable localKey join2 fk2 sort2 =>
      rcases spelled with rfl | ⟨unused, rfl⟩
      · simp [Shaped]
      · simp [Shaped]

theorem spells_of_shaped {pieces : List String} (shaped : Shaped pieces) :
    ∃ plan, Spells pieces plan := by
  rcases shaped with four | ⟨five, last⟩ | ⟨seven, last⟩ | ⟨seven, fifth, last⟩ |
    ⟨ten, fifth, last⟩ | ⟨eleven, fifth, last⟩
  · match pieces, four with
    | [main, join, fk, sort], _ => exact ⟨.normal main join fk sort, rfl⟩
  · match pieces, five with
    | [main, join, fk, sort, mark], _ =>
        cases last
        exact ⟨.flipped main join fk sort, rfl⟩
  · match pieces, seven with
    | [main, poly, polyFk, join, fk, sort, mark], _ =>
        cases last
        exact ⟨.polymorphic main poly polyFk join fk sort, rfl⟩
  · match pieces, seven with
    | [main, join, fk, sort, mark, pivotTable, localKey], _ =>
        cases fifth
        exact ⟨.pivot main join fk sort pivotTable localKey, rfl,
          fun same => last (congrArg some same)⟩
  · match pieces, ten with
    | [main, join, fk, sort, mark, pivotTable, localKey, join2, fk2, ending], _ =>
        cases fifth
        cases last
        exact ⟨.pivotFlipped main join fk pivotTable localKey join2 fk2 sort, Or.inl rfl⟩
  · match pieces, eleven with
    | [main, join, fk, unused, mark, pivotTable, localKey, join2, fk2, sort2, ending], _ =>
        cases fifth
        cases last
        exact ⟨.pivotFlipped main join fk pivotTable localKey join2 fk2 sort2,
          Or.inr ⟨unused, rfl⟩⟩

theorem shaped_iff_spells (pieces : List String) :
    Shaped pieces ↔ ∃ plan, Spells pieces plan :=
  ⟨spells_of_shaped, fun ⟨_, spelled⟩ => shaped_of_spells spelled⟩

theorem classify_of_dotless {field : String} (dotless : '.' ∉ field.toList) :
    classify field = .ok (.column field) := by
  rw [classify, if_neg]
  exact fun dotted => dotless ((Text.is_dotted_iff field).mp dotted)

/-- A dotted field is read as the plan that its pieces spell, if no piece is empty. -/
theorem classify_dotted_ok_iff {field : String} (dotted : '.' ∈ field.toList) (plan : JoinPlan) :
    classify field = .ok plan ↔
      "" ∉ Text.segments field ∧ Spells (Text.segments field) plan := by
  rw [← of_segments_iff, classify, if_pos ((Text.is_dotted_iff field).mpr dotted)]
  by_cases empty : "" ∈ Text.segments field
  · simp [empty]
  · cases spelled : ofSegments? (Text.segments field) <;> simp [empty, spelled]

theorem classify_error_eq {field : String} {error : SortError}
    (refused : classify field = .error error) :
    error = .unsupportedJoinPattern field (Text.segments field).length := by
  unfold classify at refused
  split at refused
  · simp only at refused
    split at refused
    · cases refused
      rfl
    · split at refused
      · cases refused
      · cases refused
        rfl
  · cases refused

/-- Classification accepts exactly the grammar, takes the parts from their places, and otherwise
reports the field unchanged with the number of its pieces. -/
theorem classify_accepts_grammar (field : String) :
    ('.' ∉ field.toList → classify field = .ok (.column field)) ∧
    ('.' ∈ field.toList →
      ((∃ plan, classify field = .ok plan) ↔
        "" ∉ Text.segments field ∧ Shaped (Text.segments field)) ∧
      (∀ plan, classify field = .ok plan ↔
        "" ∉ Text.segments field ∧ Spells (Text.segments field) plan) ∧
      (¬("" ∉ Text.segments field ∧ Shaped (Text.segments field)) →
        classify field =
          .error (.unsupportedJoinPattern field (Text.segments field).length)) ∧
      (Text.segments field).length = field.toList.count '.' + 1 ∧
      2 ≤ (Text.segments field).length ∧
      ∀ directive : Directive, directive.field = field →
        directive.segments.length = (Text.segments field).length) := by
  refine ⟨classify_of_dotless, ?_⟩
  intro dotted
  have counted := Text.length_segments field
  have someDot : 0 < field.toList.count '.' := List.count_pos_iff.mpr dotted
  have accepted : (∃ plan, classify field = .ok plan) ↔
      "" ∉ Text.segments field ∧ Shaped (Text.segments field) := by
    simp only [classify_dotted_ok_iff dotted, shaped_iff_spells, exists_and_left]
  refine ⟨accepted, classify_dotted_ok_iff dotted, ?_, counted, by omega, ?_⟩
  · intro outside
    rcases answer : classify field with error | plan
    · rw [classify_error_eq answer]
    · exact absurd (accepted.mp ⟨plan, answer⟩) outside
  · intro directive named
    rw [Directive.segments, named]

/-- The polymorphic layout is read first, whatever stands fifth. -/
example : classify "a.b.c.d.pivot.f.flip" = .ok (.polymorphic "a" "b" "c" "d" "pivot" "f") := by
  decide +kernel

end JoinPlan

end PathSort
