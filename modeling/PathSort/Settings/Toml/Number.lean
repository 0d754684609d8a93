import PathSort.Settings.Toml.Text

/-!
# Numbers of TOML

Which spellings are integers or floats, and which of them fit. Integers are decimal with an optional
sign, or hexadecimal, octal or binary without one, and must fit into 64 bits. Floats are decimal
and must be finite unless they are spelled as infinite. An underscore may stand between two digits.
-/

namespace PathSort.Settings.Toml

set_option autoImplicit false

/-- The digits of a spelling in a base, without the underscores between them. -/
def digits? (base : Nat) : List Char → Option (List Nat)
  | [] => none
  | [c] => (digitValue? base c).map ([·])
  | c :: '_' :: rest => do some ((← digitValue? base c) :: (← digits? base rest))
  | c :: rest => do some ((← digitValue? base c) :: (← digits? base rest))

def ofDigits (base : Nat) (digits : List Nat) : Nat :=
  digits.foldl (fun value digit => value * base + digit) 0

def natural? (base : Nat) (spelling : List Char) : Option Nat :=
  (digits? base spelling).map (ofDigits base)

def decimalDigits? (spelling : List Char) : Option (List Nat) :=
  match digits? 10 spelling with
  | some (0 :: _ :: _) => none
  | digits => digits

def splitSign : List Char → Bool × List Char
  | '-' :: rest => (true, rest)
  | '+' :: rest => (false, rest)
  | spelling => (false, spelling)

def integer? : List Char → Option Int
  | '0' :: 'x' :: rest => (natural? 16 rest).map Int.ofNat
  | '0' :: 'o' :: rest => (natural? 8 rest).map Int.ofNat
  | '0' :: 'b' :: rest => (natural? 2 rest).map Int.ofNat
  | spelling => do
      let (negative, magnitude) := splitSign spelling
      let value := ofDigits 10 (← decimalDigits? magnitude)
      some (if negative then -Int.ofNat value else Int.ofNat value)

/-- Whether an integer fits into 64 bits, with or without a sign. -/
def fits (value : Int) : Bool :=
  -Int.ofNat (Nat.pow 2 63) ≤ value && value < Int.ofNat (Nat.pow 2 64)

/-- A decimal number: its digits as a whole, and the power of ten that they are scaled by. -/
structure Decimal where
  digits : Nat
  exponent : Int
deriving DecidableEq, Repr

/-- The decimal number that a spelling with a point or an exponent makes, its sign left out. -/
def decimal? (spelling : List Char) : Option Decimal := do
  let isPower : Char → Bool := fun c => c = 'e' || c = 'E'
  let body := spelling.takeWhile (!isPower ·)
  let exponent ← match spelling.dropWhile (!isPower ·) with
    | [] => some 0
    | _ :: power => do
        let (negative, magnitude) := splitSign power
        let value ← natural? 10 magnitude
        some (if negative then -Int.ofNat value else Int.ofNat value)
  let whole ← decimalDigits? (body.takeWhile (· ≠ '.'))
  match body.dropWhile (· ≠ '.') with
  | [] => if body.length = spelling.length then none else some ⟨ofDigits 10 whole, exponent⟩
  | _ :: fraction => do
      let fraction ← digits? 10 fraction
      some ⟨ofDigits 10 (whole ++ fraction), exponent - fraction.length⟩

/-- The least number that rounds to no finite double: half a step above the greatest one. -/
def overflowBound : Nat := Nat.pow 2 1024 - Nat.pow 2 970

/-- Whether a decimal number rounds to a finite double. Only numbers near the bound are compared
with it, so that the size of the exponent does not matter. -/
def Decimal.isFinite (number : Decimal) : Bool :=
  let size := (Nat.repr number.digits).length + number.exponent
  if number.digits = 0 ∨ size ≤ 308 then true
  else if 310 < size then false
  else if 0 ≤ number.exponent then number.digits * Nat.pow 10 number.exponent.toNat < overflowBound
  else number.digits < overflowBound * Nat.pow 10 (-number.exponent).toNat

def isFloat (spelling : List Char) : Bool :=
  let magnitude := (splitSign spelling).2
  magnitude = ['i', 'n', 'f'] || magnitude = ['n', 'a', 'n'] ||
    (decimal? magnitude).any Decimal.isFinite

def isNumber (spelling : List Char) : Bool :=
  match integer? spelling with
  | some value => fits value
  | none => isFloat spelling

end PathSort.Settings.Toml
