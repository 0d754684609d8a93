import PathSort.Settings.Toml.Number

/-!
# Dates and times of TOML

Which spellings are a date, a time, or both with or without an offset from UTC. The date must be one
of the calendar, and the seconds of a time may be left out.
-/

namespace PathSort.Settings.Toml

set_option autoImplicit false

def pair? (tens ones : Char) : Option Nat := natural? 10 [tens, ones]

def daysInMonth (year month : Nat) : Nat :=
  if month = 2 then
    if year % 4 = 0 ∧ (year % 100 ≠ 0 ∨ year % 400 = 0) then 29 else 28
  else if month = 4 ∨ month = 6 ∨ month = 9 ∨ month = 11 then 30
  else 31

def afterDate? : List Char → Option (List Char)
  | y1 :: y2 :: y3 :: y4 :: '-' :: m1 :: m2 :: '-' :: d1 :: d2 :: rest => do
      let century ← pair? y1 y2
      let year ← pair? y3 y4
      let month ← pair? m1 m2
      let day ← pair? d1 d2
      if 1 ≤ month ∧ month ≤ 12 ∧ 1 ≤ day ∧ day ≤ daysInMonth (century * 100 + year) month then
        some rest
      else none
  | _ => none

/-- What follows an hour and a minute, of a time or of an offset. -/
def afterMinutes? : List Char → Option (List Char)
  | h1 :: h2 :: ':' :: m1 :: m2 :: rest => do
      let hour ← pair? h1 h2
      let minute ← pair? m1 m2
      if hour ≤ 23 ∧ minute ≤ 59 then some rest else none
  | _ => none

/-- What follows a time. A leap second is a second of a minute. -/
def afterTime? (input : List Char) : Option (List Char) := do
  match ← afterMinutes? input with
  | ':' :: s1 :: s2 :: rest =>
      if (← pair? s1 s2) ≤ 60 then
        match rest with
        | '.' :: fraction =>
            if (fraction.takeWhile Char.isDigit).isEmpty then none
            else some (fraction.dropWhile Char.isDigit)
        | rest => some rest
      else none
  | ':' :: _ => none
  | rest => some rest

def isOffset : List Char → Bool
  | [] => true
  | ['Z'] => true
  | ['z'] => true
  | '+' :: rest => afterMinutes? rest = some []
  | '-' :: rest => afterMinutes? rest = some []
  | _ => false

def isMoment (spelling : List Char) : Bool :=
  match afterDate? spelling with
  | some [] => true
  | some (separator :: rest) =>
      (separator = 'T' || separator = 't' || separator = ' ') && (afterTime? rest).any isOffset
  | none => afterTime? spelling = some []

end PathSort.Settings.Toml
