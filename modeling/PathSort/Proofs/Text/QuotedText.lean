import Mathlib.Tactic.SplitIfs
import PathSort.Text.Quoted

/-!
# Reading quoted text

A quoted text can be read back, whatever text it quotes and whatever stands behind it: each of its
characters begins with the escape mark or stands for itself, and neither is the quote that ends it.
So two texts that are quoted alike are the same, also within a longer text.

Every character of a quoted text is visible. Controls are not, so no line break and no terminal
sequence gets into it.
-/

namespace PathSort.Text

set_option autoImplicit false

section Digits

variable {base : Nat}

def digitValue (digit : Char) : Nat :=
  if digit.isDigit then digit.toNat - 48 else digit.toNat - 87

def readDigits (base : Nat) (digits : List Char) : Nat :=
  digits.foldl (fun number digit => base * number + digitValue digit) 0

theorem digit_value_char : ∀ value < 16, digitValue (Nat.digitChar value) = value := by
  decide

theorem read_digits_append (digits : List Char) (last : Char) :
    readDigits base (digits ++ [last]) = base * readDigits base digits + digitValue last := by
  simp [readDigits, List.foldl_append]

theorem read_to_digits (proper : 1 < base) (small_base : base ≤ 16) (n : Nat) :
    readDigits base (Nat.toDigits base n) = n := by
  induction n using Nat.strongRecOn with
  | ind n ih =>
      rw [Nat.toDigits_eq_if proper]
      by_cases small : n < base
      · rw [if_pos small]
        simp [readDigits, digit_value_char n (by omega)]
      · have below : n % base < base := Nat.mod_lt n (by omega)
        have earlier := ih (n / base) (Nat.div_lt_self (by omega) proper)
        rw [if_neg small, read_digits_append, digit_value_char _ (by omega), earlier]
        exact Nat.div_add_mod n base

theorem mem_to_digits (proper : 1 < base) {n : Nat} {c : Char}
    (member : c ∈ Nat.toDigits base n) : ∃ value < base, c = Nat.digitChar value := by
  induction n using Nat.strongRecOn with
  | ind n ih =>
      rw [Nat.toDigits_eq_if proper] at member
      by_cases small : n < base
      · rw [if_pos small] at member
        exact ⟨n, small, List.mem_singleton.mp member⟩
      · rw [if_neg small, List.mem_append] at member
        rcases member with earlier | last
        · exact ih (n / base) (Nat.div_lt_self (by omega) proper) earlier
        · exact ⟨n % base, Nat.mod_lt n (by omega), List.mem_singleton.mp last⟩

theorem repr_inj {n other : Nat} (same : Nat.repr n = Nat.repr other) : n = other := by
  rw [Nat.repr_eq_ofList_toDigits, Nat.repr_eq_ofList_toDigits, String.ofList_inj] at same
  have read := congrArg (readDigits 10) same
  rwa [read_to_digits (by decide) (by decide), read_to_digits (by decide) (by decide)] at read

end Digits

section Reading

/-- The character that an escape stands for, read behind the escape mark, and what is behind it. -/
def readEscape? : List Char → Option (Char × List Char)
  | [] => none
  | mark :: rest =>
      if mark = 'u' then
        some (Char.ofNat (readDigits 16 ((rest.drop 1).takeWhile (· ≠ '\x7d'))),
          (rest.dropWhile (· ≠ '\x7d')).drop 1)
      else if mark = '0' then some ('\x00', rest)
      else if mark = 't' then some ('\t', rest)
      else if mark = 'r' then some ('\r', rest)
      else if mark = 'n' then some ('\n', rest)
      else some (mark, rest)

/-- The first character of a text that is being quoted, and what is behind it. There is none at the
quote that ends the text. -/
def readChar? : List Char → Option (Char × List Char)
  | [] => none
  | first :: rest =>
      if first = quoteMark then none
      else if first = escapeMark then readEscape? rest
      else some (first, rest)

theorem read_char_code_point (c : Char) (rest : List Char) :
    readChar? (codePointEscape c ++ rest) = some (c, rest) := by
  have spelled : codePointEscape c ++ rest =
      escapeMark :: 'u' :: '\x7b' :: (hexDigits c.toNat ++ '\x7d' :: rest) := by
    simp [codePointEscape]
  have inside : ∀ digit ∈ hexDigits c.toNat, decide (digit ≠ '\x7d') = true := by
    intro digit member
    obtain ⟨value, small, rfl⟩ := mem_to_digits (by decide) member
    exact (by decide : ∀ value < 16, decide (Nat.digitChar value ≠ '\x7d') = true) value small
  have digits : (hexDigits c.toNat ++ '\x7d' :: rest).takeWhile (· ≠ '\x7d') =
      hexDigits c.toNat := by
    rw [List.takeWhile_append_of_pos inside]
    simp
  have behind : (hexDigits c.toNat ++ '\x7d' :: rest).dropWhile (· ≠ '\x7d') =
      '\x7d' :: rest := by
    rw [List.dropWhile_append_of_pos inside]
    simp
  have opening : ('\x7b' :: (hexDigits c.toNat ++ '\x7d' :: rest)).dropWhile (· ≠ '\x7d') =
      (hexDigits c.toNat ++ '\x7d' :: rest).dropWhile (· ≠ '\x7d') := rfl
  have mark_ne : escapeMark ≠ quoteMark := by decide
  rw [spelled, readChar?, if_neg mark_ne, if_pos rfl, readEscape?, if_pos rfl, List.drop_one,
    List.tail_cons, digits, opening, behind, hexDigits, read_to_digits (by decide) (by decide),
    Char.ofNat_toNat]
  rfl

def escapeLetters : List Char := [quoteMark, escapeMark, '0', 't', 'r', 'n']

/-- A character is quoted by a short escape, by its code point or by itself. -/
theorem quote_char_cases (c : Char) :
    (∃ letter ∈ escapeLetters, quoteChar c = [escapeMark, letter] ∧
      ∀ rest, readEscape? (letter :: rest) = some (c, rest)) ∨
    quoteChar c = codePointEscape c ∨
    quoteChar c = [c] ∧ c ≠ quoteMark ∧ c ≠ escapeMark ∧ needsCodePoint c = false := by
  unfold quoteChar
  split_ifs with quote mark nul tab carriage feed unseen
  · exact Or.inl ⟨quoteMark, by decide, rfl, fun _ => by rw [quote]; rfl⟩
  · exact Or.inl ⟨escapeMark, by decide, rfl, fun _ => by rw [mark]; rfl⟩
  · exact Or.inl ⟨'0', by decide, rfl, fun _ => by rw [nul]; rfl⟩
  · exact Or.inl ⟨'t', by decide, rfl, fun _ => by rw [tab]; rfl⟩
  · exact Or.inl ⟨'r', by decide, rfl, fun _ => by rw [carriage]; rfl⟩
  · exact Or.inl ⟨'n', by decide, rfl, fun _ => by rw [feed]; rfl⟩
  · exact Or.inr (Or.inl rfl)
  · exact Or.inr (Or.inr ⟨rfl, quote, mark, Bool.eq_false_iff.mpr unseen⟩)

theorem read_char_quoted (c : Char) (rest : List Char) :
    readChar? (quoteChar c ++ rest) = some (c, rest) := by
  rcases quote_char_cases c with ⟨letter, -, short, read⟩ | long | ⟨bare, quote, mark, -⟩
  · rw [short]
    exact read rest
  · rw [long, read_char_code_point]
  · rw [bare, List.singleton_append, readChar?, if_neg quote, if_neg mark]

theorem read_char_ended (tail : List Char) :
    readChar? (List.flatMap quoteChar [] ++ quoteMark :: tail) = none := rfl

theorem read_char_body (c : Char) (later tail : List Char) :
    readChar? ((c :: later).flatMap quoteChar ++ quoteMark :: tail) =
      some (c, later.flatMap quoteChar ++ quoteMark :: tail) := by
  rw [List.flatMap_cons, List.append_assoc, read_char_quoted]

/-- The quote that ends a quoted text is found, and so are the characters before it. -/
theorem quoted_body_inj {text other rest behind : List Char}
    (same : text.flatMap quoteChar ++ quoteMark :: rest =
      other.flatMap quoteChar ++ quoteMark :: behind) : text = other ∧ rest = behind := by
  induction text generalizing other with
  | nil =>
      cases other with
      | nil => exact ⟨rfl, (List.cons.inj same).2⟩
      | cons d others =>
          -- One text ends where the other goes on, and reading a character tells which.
          have read := congrArg readChar? same
          rw [read_char_ended, read_char_body] at read
          cases read
  | cons c later ih =>
      have read := congrArg readChar? same
      rw [read_char_body] at read
      cases other with
      | nil =>
          rw [read_char_ended] at read
          cases read
      | cons d others =>
          rw [read_char_body, Option.some.injEq, Prod.mk.injEq] at read
          obtain ⟨rfl, rfl⟩ := ih read.2
          exact ⟨by rw [read.1], rfl⟩

theorem quoted_append_toList (text behind : String) :
    (quoted text ++ behind).toList =
      quoteMark :: (text.toList.flatMap quoteChar ++ quoteMark :: behind.toList) := by
  simp [quoted]

/-- A quoted text and what stands behind it can be told apart and read. -/
theorem quoted_append_inj {text other behind after : String}
    (same : quoted text ++ behind = quoted other ++ after) : text = other ∧ behind = after := by
  rw [← String.toList_inj, quoted_append_toList, quoted_append_toList] at same
  obtain ⟨texts, behinds⟩ := quoted_body_inj (List.cons.inj same).2
  exact ⟨String.toList_inj.mp texts, String.toList_inj.mp behinds⟩

theorem quoted_inj {text other : String} (same : quoted text = quoted other) : text = other :=
  (quoted_append_inj (congrArg (· ++ "") same)).1

end Reading

section Visible

/-- The control characters of Unicode: those below the space, DEL, and those just above it. -/
def IsControl (c : Char) : Prop := c.toNat ≤ 0x1f ∨ 0x7f ≤ c.toNat ∧ c.toNat ≤ 0x9f

instance (c : Char) : Decidable (IsControl c) :=
  inferInstanceAs (Decidable (c.toNat ≤ 0x1f ∨ 0x7f ≤ c.toNat ∧ c.toNat ≤ 0x9f))

def Visible (text : List Char) : Prop := ∀ c ∈ text, needsCodePoint c = false

theorem control_needs_code_point {c : Char} (control : IsControl c) : needsCodePoint c = true := by
  have hidden : isUnprintable c = true := by
    rw [isUnprintable, List.any_eq_true]
    rcases control with below | ⟨above, up_to⟩
    · exact ⟨(0x0, 0x1f), by decide, by simpa using below⟩
    · refine ⟨(0x7f, 0xa0), by decide, ?_⟩
      simp only [Bool.and_eq_true, decide_eq_true_eq]
      omega
  rw [needsCodePoint, hidden, Bool.true_or]

theorem not_control_of_visible {text : List Char} (visible : Visible text) :
    ∀ c ∈ text, ¬IsControl c := by
  intro c member control
  have seen := visible c member
  rw [control_needs_code_point control] at seen
  cases seen

def isAsciiGraphic (c : Char) : Bool := 0x20 ≤ c.toNat && c.toNat < 0x7f

theorem visible_ascii {text : List Char} (ascii : text.all isAsciiGraphic = true) :
    Visible text := by
  have apart : (∀ range ∈ unprintableRanges, range.2 < 0x20 ∨ 0x7f ≤ range.1) ∧
      ∀ range ∈ combiningRanges, range.2 < 0x20 ∨ 0x7f ≤ range.1 := by
    decide +kernel
  have outside : ∀ c ∈ text, ∀ range : Nat × Nat, range.2 < 0x20 ∨ 0x7f ≤ range.1 →
      (decide (range.1 ≤ c.toNat) && decide (c.toNat ≤ range.2)) = false := by
    intro c member range away
    have bounds := List.all_eq_true.mp ascii c member
    simp only [isAsciiGraphic, Bool.and_eq_true, decide_eq_true_eq] at bounds
    simp only [Bool.and_eq_false_iff, decide_eq_false_iff_not]
    omega
  intro c member
  rw [needsCodePoint, isUnprintable, isCombining, Bool.or_eq_false_iff, List.any_eq_false,
    List.any_eq_false]
  refine ⟨?_, ?_⟩
  · intro range listed
    simpa using outside c member range (apart.1 range listed)
  · intro range listed
    simpa using outside c member range (apart.2 range listed)

theorem visible_append {text behind : List Char} (first : Visible text) (second : Visible behind) :
    Visible (text ++ behind) :=
  List.forall_mem_append.mpr ⟨first, second⟩

theorem visible_text_append {text behind : String} (first : Visible text.toList)
    (second : Visible behind.toList) : Visible (text ++ behind).toList := by
  rw [String.toList_append]
  exact visible_append first second

theorem visible_digits {base : Nat} (proper : 1 < base) (small_base : base ≤ 16) (n : Nat) :
    Visible (Nat.toDigits base n) := by
  apply visible_ascii
  rw [List.all_eq_true]
  intro digit member
  obtain ⟨value, small, rfl⟩ := mem_to_digits proper member
  exact (by decide : ∀ value < 16, isAsciiGraphic (Nat.digitChar value) = true) value (by omega)

theorem visible_code_point (c : Char) : Visible (codePointEscape c) := by
  have opening : Visible [escapeMark, 'u', '\x7b'] := visible_ascii (by decide)
  have closing : Visible ['\x7d'] := visible_ascii (by decide)
  exact visible_append (visible_append opening (visible_digits (by decide) (by decide) c.toNat))
    closing

theorem visible_quote_char (c : Char) : Visible (quoteChar c) := by
  rcases quote_char_cases c with ⟨letter, listed, short, -⟩ | long | ⟨bare, -, -, seen⟩
  · have letters :
        escapeLetters.all (fun other => [escapeMark, other].all isAsciiGraphic) = true := by
      decide
    rw [short]
    exact visible_ascii (List.all_eq_true.mp letters letter listed)
  · rw [long]
    exact visible_code_point c
  · rw [bare]
    intro shown member
    rw [List.mem_singleton.mp member, seen]

theorem visible_quoted (text : String) : Visible (quoted text).toList := by
  have mark : Visible [quoteMark] := visible_ascii (by decide)
  have body : Visible (text.toList.flatMap quoteChar) := by
    intro shown member
    obtain ⟨c, -, inside⟩ := List.mem_flatMap.mp member
    exact visible_quote_char c shown inside
  rw [quoted, String.toList_ofList]
  exact visible_append (visible_append mark body) mark

theorem visible_repr (n : Nat) : Visible (Nat.repr n).toList := by
  rw [Nat.repr_eq_ofList_toDigits, String.toList_ofList]
  exact visible_digits (by decide) (by decide) n

end Visible

end PathSort.Text
