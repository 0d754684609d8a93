import Mathlib.Data.List.Basic
import PathSort.Directive

/-!
# The wire form of tokens

A token is written as blanks, a field, nothing or a comma with the word of a direction, and blanks.
Here this is said from the writer's side, and reading is shown to accept exactly what can be written
so: it gives back the field and the direction, of which there is only one choice, and reports every
other text as it was given. Trimming cuts off all the blanks at both ends and nothing else, so a
field that gives no direction cannot end in a blank, while one before a comma can.
-/

namespace PathSort

set_option autoImplicit false

namespace Text

def blanks : List Char := [' ', '\t', '\n', '\r', '\x00', '\x0b']

theorem is_blank_iff (c : Char) : isBlank c = true ↔ c ∈ blanks := by
  simp [isBlank, blanks, or_assoc]

def Blank (text : List Char) : Prop := ∀ c ∈ text, c ∈ blanks

def StartsBare (text : List Char) : Prop := ∀ c, text.head? = some c → c ∉ blanks

def EndsBare (text : List Char) : Prop := ∀ c, text.getLast? = some c → c ∉ blanks

theorem blank_reverse {text : List Char} (blank : Blank text) : Blank text.reverse := by
  intro c member
  exact blank c (List.mem_reverse.mp member)

theorem ends_bare_reverse {text : List Char} (bare : StartsBare text) : EndsBare text.reverse := by
  intro c last
  rw [List.getLast?_reverse] at last
  exact bare c last

theorem starts_bare_reverse {text : List Char} (bare : EndsBare text) :
    StartsBare text.reverse := by
  intro c first
  rw [List.head?_reverse] at first
  exact bare c first

/-- A text with something in it begins as any text that it begins. -/
theorem starts_bare_append {text rest : List Char} (bare : StartsBare text)
    (some_text : text ≠ []) :
    StartsBare (text ++ rest) := by
  intro c first
  rw [List.head?_append_of_ne_nil _ some_text] at first
  exact bare c first

theorem starts_bare_of_append {text rest : List Char} (bare : StartsBare (text ++ rest)) :
    StartsBare text := by
  intro c first
  apply bare
  rw [List.head?_append, first]
  rfl

/-- A text is cut where its front, which has a property throughout, meets a character without it. -/
theorem cut_append {has : Char → Bool} {front rest : List Char}
    (inside : ∀ c ∈ front, has c = true) (stop : ∀ c, rest.head? = some c → has c = false) :
    (front ++ rest).takeWhile has = front ∧ (front ++ rest).dropWhile has = rest := by
  rw [List.takeWhile_append_of_pos inside, List.dropWhile_append_of_pos inside]
  cases rest with
  | nil => exact ⟨List.append_nil front, rfl⟩
  | cons c others =>
      have outside : ¬has c = true := by simp [stop c rfl]
      rw [List.takeWhile_cons_of_neg outside, List.dropWhile_cons_of_neg outside]
      exact ⟨List.append_nil front, rfl⟩

theorem drop_blanks_append {lead rest : List Char} (blank : Blank lead) (bare : StartsBare rest) :
    dropBlanks (lead ++ rest) = rest := by
  refine (cut_append ?_ ?_).2
  · intro c member
    exact (is_blank_iff c).mpr (blank c member)
  · intro c first
    exact Bool.eq_false_iff.mpr (mt (is_blank_iff c).mp (bare c first))

theorem drop_blanks_split (text : List Char) :
    ∃ lead, Blank lead ∧ text = lead ++ dropBlanks text ∧ StartsBare (dropBlanks text) := by
  refine ⟨text.takeWhile isBlank, ?_, List.takeWhile_append_dropWhile.symm, ?_⟩
  · intro c member
    have inside := List.all_eq_true.mp (List.all_takeWhile (p := isBlank) (l := text)) c member
    exact (is_blank_iff c).mp inside
  · intro c first
    have stop := List.head?_dropWhile_not isBlank text
    rw [dropBlanks] at first
    rw [first] at stop
    simpa [← is_blank_iff] using stop

/-- Trimming gives back a text that neither begins nor ends with a blank, whatever blanks are put
around it. -/
theorem trim_append {lead core tail : List Char} (lead_blank : Blank lead)
    (tail_blank : Blank tail) (some_core : core ≠ []) (starts : StartsBare core)
    (ends : EndsBare core) : trim (lead ++ core ++ tail) = core := by
  have front : dropBlanks (lead ++ core ++ tail) = core ++ tail := by
    rw [List.append_assoc]
    exact drop_blanks_append lead_blank (starts_bare_append starts some_core)
  have back : dropBlanks (core ++ tail).reverse = core.reverse := by
    rw [List.reverse_append]
    exact drop_blanks_append (blank_reverse tail_blank) (starts_bare_reverse ends)
  rw [trim, front, back, List.reverse_reverse]

theorem trim_split (text : List Char) :
    ∃ lead tail, Blank lead ∧ Blank tail ∧ text = lead ++ trim text ++ tail ∧
      StartsBare (trim text) ∧ EndsBare (trim text) := by
  obtain ⟨lead, lead_blank, front, starts⟩ := drop_blanks_split text
  obtain ⟨tail, tail_blank, back, ends⟩ := drop_blanks_split (dropBlanks text).reverse
  -- The blanks at the end were dropped from the reversed text, and are turned back here.
  have trimmed : dropBlanks text = trim text ++ tail.reverse := by
    have turned := congrArg List.reverse back
    rw [List.reverse_reverse, List.reverse_append] at turned
    exact turned
  refine ⟨lead, tail.reverse, lead_blank, blank_reverse tail_blank, ?_, ?_,
    ends_bare_reverse ends⟩
  · rw [List.append_assoc, ← trimmed]
    exact front
  · rw [trimmed] at starts
    exact starts_bare_of_append starts

end Text

namespace Directive

def suffix : Option Direction → String
  | none => ""
  | some .asc => ",asc"
  | some .desc => ",desc"

/-- The text is a token for the field: the field stands between blanks, with the direction that is
given behind it. The field holds no comma and does not begin with a blank, nor does it end with one
where no direction is given. -/
structure WireForm (raw lead field : String) (given : Option Direction) (tail : String) :
    Prop where
  raw_eq : raw = lead ++ field ++ suffix given ++ tail
  lead_blank : Text.Blank lead.toList
  tail_blank : Text.Blank tail.toList
  field_ne : field ≠ ""
  field_unmarked : ',' ∉ field.toList
  field_starts : Text.StartsBare field.toList
  field_ends : given = none → Text.EndsBare field.toList

theorem suffix_given (direction : Direction) :
    (suffix (some direction)).toList = ',' :: direction.word.toList := by
  cases direction <;> rfl

theorem suffix_order (fallback : Direction) (given : Option Direction) :
    suffixOrder? fallback (suffix given).toList = some (given.getD fallback) := by
  cases given with
  | none => rfl
  | some direction =>
      rw [suffix_given, suffixOrder?, String.ofList_toList]
      exact Direction.of_word_word direction

theorem suffix_marked (given : Option Direction) :
    ∀ c, (suffix given).toList.head? = some c → c = ',' := by
  intro c first
  cases given with
  | none => cases first
  | some direction =>
      rw [suffix_given] at first
      exact (Option.some.inj first).symm

theorem suffix_ends_bare (direction : Direction) :
    Text.EndsBare (suffix (some direction)).toList := by
  intro c last
  cases direction with
  | asc =>
      cases last
      decide
  | desc =>
      cases last
      decide

/-- The part of a token behind its field begins with the comma, if there is any. -/
theorem suffix_of_order {fallback order : Direction} {rest : List Char}
    (marked : ∀ c, rest.head? = some c → c = ',') (read : suffixOrder? fallback rest = some order) :
    ∃ given : Option Direction, rest = (suffix given).toList ∧ order = given.getD fallback := by
  cases rest with
  | nil =>
      cases read
      exact ⟨none, rfl, rfl⟩
  | cons c word =>
      have comma : c = ',' := marked c rfl
      have named : String.ofList word = order.word := Direction.word_of_of_word read
      refine ⟨some order, ?_, rfl⟩
      rw [comma, suffix_given, ← named, String.toList_ofList]

theorem field_part_append {field rest : List Char} (unmarked : ',' ∉ field)
    (marked : ∀ c, rest.head? = some c → c = ',') :
    fieldPart (field ++ rest) = field ∧ orderPart (field ++ rest) = rest := by
  apply Text.cut_append
  · intro c member
    apply decide_eq_true
    rintro rfl
    exact unmarked member
  · intro c first
    rw [marked c first]
    decide

/-- A wire form without its blanks is the field and what is given behind it. -/
theorem trim_of_wire_form {raw lead field tail : String} {given : Option Direction}
    (form : WireForm raw lead field given tail) :
    Text.trim raw.toList = field.toList ++ (suffix given).toList := by
  have some_field : field.toList ≠ [] := by
    simpa using form.field_ne
  have some_core : field.toList ++ (suffix given).toList ≠ [] := by
    simp [some_field]
  have starts : Text.StartsBare (field.toList ++ (suffix given).toList) :=
    Text.starts_bare_append form.field_starts some_field
  have ends : Text.EndsBare (field.toList ++ (suffix given).toList) := by
    cases given with
    | none => simpa [suffix] using form.field_ends rfl
    | some direction =>
        intro c last
        rw [List.getLast?_append_of_ne_nil _ (by simp [suffix_given])] at last
        exact suffix_ends_bare direction c last
  have laid_out : raw.toList =
      lead.toList ++ (field.toList ++ (suffix given).toList) ++ tail.toList := by
    rw [form.raw_eq]
    simp only [String.toList_append, List.append_assoc]
  rw [laid_out]
  exact Text.trim_append form.lead_blank form.tail_blank some_core starts ends

theorem parse_of_wire_form {raw lead field tail : String} {given : Option Direction}
    (form : WireForm raw lead field given tail) (fallback : Direction) :
    parse raw fallback = .ok ⟨field, given.getD fallback, form.field_ne⟩ := by
  obtain ⟨before, behind⟩ := field_part_append form.field_unmarked (suffix_marked given)
  have field_eq : String.ofList (fieldPart (Text.trim raw.toList)) = field := by
    rw [trim_of_wire_form form, before, String.ofList_toList]
  have order_eq : suffixOrder? fallback (orderPart (Text.trim raw.toList)) =
      some (given.getD fallback) := by
    rw [trim_of_wire_form form, behind, suffix_order]
  simp only [parse, order_eq, field_eq]
  exact dif_pos form.field_ne

theorem parsed_parts {raw : String} {fallback : Direction} {directive : Directive}
    (parsed : parse raw fallback = .ok directive) :
    suffixOrder? fallback (orderPart (Text.trim raw.toList)) = some directive.order ∧
      fieldPart (Text.trim raw.toList) = directive.field.toList := by
  unfold parse at parsed
  simp only at parsed
  split at parsed
  · rename_i order read
    split at parsed
    · cases parsed
      exact ⟨read, String.toList_ofList.symm⟩
    · cases parsed
  · cases parsed

theorem order_part_marked (token : List Char) :
    ∀ c, (orderPart token).head? = some c → c = ',' := by
  intro c first
  have stop := List.head?_dropWhile_not (fun c => decide (c ≠ fieldMark)) token
  rw [orderPart] at first
  rw [first] at stop
  exact of_not_not (of_decide_eq_false stop)

theorem field_part_unmarked (token : List Char) : ',' ∉ fieldPart token := by
  intro member
  have inside := List.all_eq_true.mp List.all_takeWhile ',' member
  simp [fieldMark] at inside

/-- Whatever is read is written in a wire form. -/
theorem wire_form_of_parsed {raw : String} {fallback : Direction} {directive : Directive}
    (parsed : parse raw fallback = .ok directive) :
    ∃ lead given tail, WireForm raw lead directive.field given tail ∧
      directive.order = given.getD fallback := by
  obtain ⟨read, field_eq⟩ := parsed_parts parsed
  obtain ⟨given, behind, order_eq⟩ := suffix_of_order (order_part_marked _) read
  obtain ⟨lead, tail, lead_blank, tail_blank, laid_out, starts, ends⟩ :=
    Text.trim_split raw.toList
  have token_eq : Text.trim raw.toList = directive.field.toList ++ (suffix given).toList := by
    rw [← field_eq, ← behind]
    exact List.takeWhile_append_dropWhile.symm
  rw [token_eq] at laid_out starts ends
  refine ⟨String.ofList lead, given, String.ofList tail, ?_, order_eq⟩
  exact {
    raw_eq := by
      rw [← String.toList_inj, laid_out]
      simp only [String.toList_append, String.toList_ofList, List.append_assoc]
    lead_blank := by rwa [String.toList_ofList]
    tail_blank := by rwa [String.toList_ofList]
    field_ne := directive.field_ne
    field_unmarked := by
      rw [← field_eq]
      exact field_part_unmarked _
    field_starts := Text.starts_bare_of_append starts
    field_ends := by
      rintro rfl
      simpa [suffix] using ends }

theorem parse_error_eq {raw : String} {fallback : Direction} {error : SortError}
    (refused : parse raw fallback = .error error) : error = .malformedDirective raw := by
  unfold parse at refused
  simp only at refused
  split at refused
  · split at refused
    · cases refused
    · cases refused
      rfl
  · cases refused
    rfl

/-- The checked constructors accept the parts of every wire form, and what they make of them is
what is read. -/
theorem parse_eq_constructed {raw lead field tail : String} {given : Option Direction}
    (form : WireForm raw lead field given tail) (fallback : Direction) :
    parse raw fallback =
      match given with
      | none => make field fallback
      | some direction => ofParts field direction.word := by
  rw [parse_of_wire_form form fallback]
  cases given with
  | none => exact (make_field_order ⟨field, fallback, form.field_ne⟩).symm
  | some direction =>
      have checked : Direction.parse direction.word = .ok direction := by
        rw [Direction.parse, Direction.of_word_word]
      have built : ofParts field direction.word = make field direction := by
        unfold ofParts
        rw [checked]
        rfl
      exact ((make_field_order ⟨field, direction, form.field_ne⟩).symm).trans built.symm

/-- Reading accepts exactly the wire forms and gives back the field and the direction, of which a
text has at most one choice. Every other text is reported as it was given. -/
theorem parse_accepts_wire_forms (raw : String) (fallback : Direction) :
    (∀ field order,
      (parse raw fallback).map (fun directive => (directive.field, directive.order)) =
          .ok (field, order) ↔
        ∃ lead given tail, WireForm raw lead field given tail ∧
          order = given.getD fallback) ∧
    (∀ lead field given tail lead' field' given' tail',
      WireForm raw lead field given tail → WireForm raw lead' field' given' tail' →
        field = field' ∧ given.getD fallback = given'.getD fallback) ∧
    ((¬∃ lead field given tail, WireForm raw lead field given tail) →
      parse raw fallback = .error (.malformedDirective raw)) := by
  refine ⟨?_, ?_, ?_⟩
  · intro field order
    constructor
    · intro read
      rcases parsed : parse raw fallback with error | directive
      · rw [parsed] at read
        cases read
      · rw [parsed] at read
        cases read
        exact wire_form_of_parsed parsed
    · rintro ⟨lead, given, tail, form, rfl⟩
      rw [parse_of_wire_form form fallback]
      rfl
  · intro lead field given tail lead' field' given' tail' form form'
    have same := Except.ok.inj
      ((parse_of_wire_form form fallback).symm.trans (parse_of_wire_form form' fallback))
    exact ⟨congrArg Directive.field same, congrArg Directive.order same⟩
  · intro outside
    rcases parsed : parse raw fallback with error | directive
    · rw [parse_error_eq parsed]
    · obtain ⟨lead, given, tail, form, _⟩ := wire_form_of_parsed parsed
      exact absurd ⟨lead, directive.field, given, tail, form⟩ outside

/-- Line breaks and blanks of other kinds inside the text belong to the field, and so does a blank
before the comma. -/
example : (parse "\n a\n\u00a0b ,desc\t" .asc).map (fun read => (read.field, read.order)) =
    .ok ("a\n\u00a0b ", .desc) := by
  decide +kernel

end Directive

end PathSort
