import PathSort.Text.Quoted

/-!
# Lines and texts of TOML

The pieces that every other part of a document is made of: spaces, comments, line breaks, and the
four kinds of quoted text. Each reader takes what it reads off the front of a list of characters
and gives the rest.
-/

namespace PathSort.Settings.Toml

set_option autoImplicit false

open PathSort.Text (quoteMark escapeMark)

def apostrophe : Char := '\x27'

/-- Whether a character may stand in a comment or a text: a tab, or anything but an ASCII control.
-/
def isPlain (c : Char) : Bool := c = '\t' || (0x20 ≤ c.toNat && c.toNat ≠ 0x7f)

def dropSpace (input : List Char) : List Char := input.dropWhile fun c => c = ' ' || c = '\t'

def dropComment : List Char → List Char
  | '#' :: rest => rest.dropWhile isPlain
  | input => input

/-- What follows a line break: a line feed, with or without a carriage return before it. -/
def lineBreak? : List Char → Option (List Char)
  | '\n' :: rest => some rest
  | '\r' :: '\n' :: rest => some rest
  | _ => none

/-- What follows the end of a line: spaces, a comment, then a line break or the end of input. -/
def lineEnd? (input : List Char) : Option (List Char) :=
  match dropComment (dropSpace input) with
  | [] => some []
  | rest => lineBreak? rest

/-- Drops spaces, comments and line breaks. The fuel bounds the number of lines. -/
def dropLines : Nat → List Char → List Char
  | 0, input => input
  | fuel + 1, input =>
      let input := dropComment (dropSpace input)
      match lineBreak? input with
      | some rest => dropLines fuel rest
      | none => input

def digitValue? (base : Nat) (c : Char) : Option Nat :=
  let value? : Option Nat :=
    if '0' ≤ c ∧ c ≤ '9' then some (c.toNat - '0'.toNat)
    else if 'a' ≤ c ∧ c ≤ 'f' then some (c.toNat - 'a'.toNat + 10)
    else if 'A' ≤ c ∧ c ≤ 'F' then some (c.toNat - 'A'.toNat + 10)
    else none
  value?.filter (· < base)

def readHex : Nat → Nat → List Char → Option (Nat × List Char)
  | 0, value, rest => some (value, rest)
  | _ + 1, _, [] => none
  | count + 1, value, c :: rest => do
      let digit ← digitValue? 16 c
      readHex count (value * 16 + digit) rest

/-- The character of a code point, which must not be a surrogate. -/
def character? (codePoint : Nat) : Option Char :=
  if codePoint < 0xd800 ∨ (0xdfff < codePoint ∧ codePoint < 0x110000) then
    some (Char.ofNat codePoint)
  else none

def readCodePoint (count : Nat) (input : List Char) : Option (Char × List Char) := do
  let (codePoint, rest) ← readHex count 0 input
  some (← character? codePoint, rest)

def readEscape : List Char → Option (Char × List Char)
  | 'b' :: rest => some ('\x08', rest)
  | 't' :: rest => some ('\t', rest)
  | 'n' :: rest => some ('\n', rest)
  | 'f' :: rest => some ('\x0c', rest)
  | 'r' :: rest => some ('\r', rest)
  | 'e' :: rest => some ('\x1b', rest)
  | '\x22' :: rest => some (quoteMark, rest)
  | '\x5c' :: rest => some (escapeMark, rest)
  | 'x' :: rest => readCodePoint 2 rest
  | 'u' :: rest => readCodePoint 4 rest
  | 'U' :: rest => readCodePoint 8 rest
  | _ => none

def after (front : List Char) : Option (List Char × List Char) → Option (List Char × List Char)
  | some (text, rest) => some (front ++ text, rest)
  | none => none

def readEscaped : Nat → List Char → Option (List Char × List Char)
  | 0, _ => none
  | _ + 1, [] => none
  | fuel + 1, c :: rest =>
      if c = quoteMark then some ([], rest)
      else if c = escapeMark then do
        let (escaped, rest) ← readEscape rest
        after [escaped] (readEscaped fuel rest)
      else if isPlain c then after [c] (readEscaped fuel rest)
      else none

def readLiteral (input : List Char) : Option (List Char × List Char) :=
  let inside : Char → Bool := fun c => isPlain c && c ≠ apostrophe
  match input.dropWhile inside with
  | '\x27' :: rest => some (input.takeWhile inside, rest)
  | _ => none

/-- Drops spaces, tabs and line breaks. The fuel bounds the number of lines. -/
def dropBlankLines : Nat → List Char → List Char
  | 0, input => input
  | fuel + 1, input =>
      match lineBreak? (dropSpace input) with
      | some rest => dropBlankLines fuel rest
      | none => dropSpace input

/-- What follows a backslash at the end of a line: the first text on a later line. -/
def continuation? (input : List Char) : Option (List Char) :=
  (lineBreak? (dropSpace input)).map fun rest => dropBlankLines (rest.length + 1) rest

/-- Reads a text over several lines, up to three closing marks. Up to two marks more belong to the
text, and so do marks that are fewer than three. Line breaks are kept as they are written. Escapes
count only where the kind of text has them. -/
def readLong (mark : Char) (escapes : Bool) : Nat → List Char → Option (List Char × List Char)
  | 0, _ => none
  | _ + 1, [] => none
  | fuel + 1, '\n' :: rest => after ['\n'] (readLong mark escapes fuel rest)
  | fuel + 1, '\r' :: '\n' :: rest => after ['\r', '\n'] (readLong mark escapes fuel rest)
  | fuel + 1, c :: rest =>
      if c = mark then
        let marks := ((c :: rest).takeWhile (· = mark)).length
        let rest := (c :: rest).drop marks
        if marks < 3 then after (List.replicate marks mark) (readLong mark escapes fuel rest)
        else if marks ≤ 5 then some (List.replicate (marks - 3) mark, rest)
        else none
      else if escapes && c = escapeMark then
        match continuation? rest with
        | some rest => readLong mark escapes fuel rest
        | none => do
            let (escaped, rest) ← readEscape rest
            after [escaped] (readLong mark escapes fuel rest)
      else if isPlain c then after [c] (readLong mark escapes fuel rest)
      else none

def dropFirstBreak (input : List Char) : List Char := (lineBreak? input).getD input

def readShort : List Char → Option (String × List Char)
  | '\x22' :: rest => (readEscaped (rest.length + 1) rest).map fun (text, rest) =>
      (String.ofList text, rest)
  | '\x27' :: rest => (readLiteral rest).map fun (text, rest) => (String.ofList text, rest)
  | _ => none

def readText : List Char → Option (String × List Char)
  | '\x22' :: '\x22' :: '\x22' :: rest =>
      (readLong quoteMark true (rest.length + 1) (dropFirstBreak rest)).map fun (text, rest) =>
        (String.ofList text, rest)
  | '\x27' :: '\x27' :: '\x27' :: rest =>
      (readLong apostrophe false (rest.length + 1) (dropFirstBreak rest)).map fun (text, rest) =>
        (String.ofList text, rest)
  | input => readShort input

end PathSort.Settings.Toml
