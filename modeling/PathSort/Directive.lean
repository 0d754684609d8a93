import PathSort.Direction
import PathSort.SortError

/-!
# Sort directives

A directive orders by one field in one direction. The field is a column or a dotted path and is
never empty, which the type carries. A dotted name is cut at every dot, so a name without a dot is
one piece and empty pieces count.

A directive is read from a token: a field, then optionally a comma and the word of a direction, with
blanks allowed at both ends of the whole. Blanks are space, tab, line feed, carriage return,
vertical tab and NUL; every other kind of space is part of the text. The field takes everything
before the comma, line breaks and blanks included, so a blank before the comma belongs to the field
and one after it spoils the direction. -/

namespace PathSort

set_option autoImplicit false

namespace Text

def dot : Char := '.'

/-- The pieces of a name between its dots. There is always at least one. -/
def segments (name : String) : List String :=
  (name.toList.splitOn dot).map String.ofList

def dotted (pieces : List String) : String :=
  String.ofList ([dot].intercalate (pieces.map String.toList))

def isDotted (name : String) : Bool := name.toList.contains dot

theorem dotted_segments (name : String) : dotted (segments name) = name := by
  have unfolded : (segments name).map String.toList = name.toList.splitOn dot := by
    simp [segments, Function.comp_def]
  rw [dotted, unfolded, List.intercalate_splitOn, String.ofList_toList]

theorem segments_dotted {pieces : List String} (nonempty : pieces ≠ [])
    (dotless : ∀ piece ∈ pieces, isDotted piece = false) : segments (dotted pieces) = pieces := by
  have apart : ∀ piece ∈ pieces.map String.toList, dot ∉ piece := by
    intro piece member
    obtain ⟨name, listed, rfl⟩ := List.mem_map.mp member
    have := dotless name listed
    simpa [isDotted] using this
  rw [segments, dotted, String.toList_ofList,
    List.splitOn_intercalate dot apart (by simpa using nonempty), List.map_map]
  simp [Function.comp_def]

theorem segments_ne_nil (name : String) : segments name ≠ [] := by
  simp [segments, List.splitOn_ne_nil]

def isBlank (c : Char) : Bool :=
  c = ' ' || c = '\t' || c = '\n' || c = '\r' || c = '\x00' || c = '\x0b'

def dropBlanks (text : List Char) : List Char := text.dropWhile isBlank

/-- A text without the blanks at both ends. Blanks inside stay. -/
def trim (text : List Char) : List Char := (dropBlanks (dropBlanks text).reverse).reverse

end Text

def Direction.parse (text : String) : Except SortError Direction :=
  match Direction.ofWord? text with
  | some direction => .ok direction
  | none => .error (.invalidDirection text)

structure Directive where
  field : String
  order : Direction
  field_ne : field ≠ ""
deriving DecidableEq, Repr

namespace Directive

def make (field : String) (order : Direction) : Except SortError Directive :=
  if nonempty : field ≠ "" then .ok ⟨field, order, nonempty⟩
  else .error (.malformedDirective field)

/-- A directive from a field and the word of a direction. The word is checked first. -/
def ofParts (field orderWord : String) : Except SortError Directive := do
  let order ← Direction.parse orderWord
  make field order

def isDotted (directive : Directive) : Bool := Text.isDotted directive.field

def segments (directive : Directive) : List String := Text.segments directive.field

def display (directive : Directive) : String := directive.field ++ "," ++ directive.order.word

theorem make_field_order (directive : Directive) :
    make directive.field directive.order = .ok directive := by
  rw [make, dif_pos directive.field_ne]

theorem make_empty (order : Direction) : make "" order = .error (.malformedDirective "") := by
  rw [make, dif_neg (by simp)]

end Directive

def fieldMark : Char := ','

/-- The direction that the part of a token after its field asks for: the fallback when there is no
such part, and otherwise the direction whose word follows the comma. -/
def suffixOrder? (fallback : Direction) : List Char → Option Direction
  | [] => some fallback
  | _ :: word => Direction.ofWord? (String.ofList word)

namespace Directive

def fieldPart (token : List Char) : List Char := token.takeWhile (· ≠ fieldMark)

def orderPart (token : List Char) : List Char := token.dropWhile (· ≠ fieldMark)

/-- Reads a token. A token that gives no direction takes the fallback, and a token that cannot be
read is reported as it was given, blanks included. -/
def parse (raw : String) (fallback : Direction) : Except SortError Directive :=
  let token := Text.trim raw.toList
  let field := String.ofList (fieldPart token)
  match suffixOrder? fallback (orderPart token) with
  | some order =>
      if nonempty : field ≠ "" then .ok ⟨field, order, nonempty⟩
      else .error (.malformedDirective raw)
  | none => .error (.malformedDirective raw)

end Directive

end PathSort
