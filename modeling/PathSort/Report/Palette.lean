/-!
# Colors of a report

A report is plain text or colored by terminal sequences. Every colored piece ends with the sequence
that resets the terminal. A piece that holds this sequence itself, because a token does, is colored
behind it as well.
-/

namespace PathSort.Report

set_option autoImplicit false

inductive Ink where
  | heading
  | label
  | muted
  | alarm
deriving DecidableEq, Repr

/-- The terminal's numbers for an ink: bright cyan, bright blue, bright black, bold red. -/
def Ink.code : Ink → String
  | heading => "96"
  | label => "94"
  | muted => "90"
  | alarm => "1;31"

inductive Palette where
  | plain
  | colored
deriving DecidableEq, Repr

def Ink.start (ink : Ink) : String := "\x1b[" ++ ink.code ++ "m"

namespace Palette

def reset : List Char := ['\x1b', '[', '0', 'm']

/-- The text with a sequence to start again behind each reset in it. -/
def resumed (start : List Char) : List Char → List Char
  | '\x1b' :: '[' :: '0' :: 'm' :: rest => reset ++ start ++ resumed start rest
  | c :: rest => c :: resumed start rest
  | [] => []

def paint (palette : Palette) (ink : Ink) (text : String) : String :=
  match palette with
  | plain => text
  | colored =>
      ink.start ++ String.ofList (resumed ink.start.toList text.toList) ++ String.ofList reset

/-- A text in which nothing starts a sequence stays as it is up to the first reset behind it, and
from there on it is colored anew. -/
theorem resumed_append_reset (start : List Char) {text : List Char} (bare : '\x1b' ∉ text)
    (rest : List Char) :
    resumed start (text ++ reset ++ rest) = text ++ reset ++ start ++ resumed start rest := by
  induction text with
  | nil => simp [reset, resumed]
  | cons c behind ih =>
      rw [List.mem_cons, not_or] at bare
      have kept : resumed start (c :: (behind ++ reset ++ rest)) =
          c :: resumed start (behind ++ reset ++ rest) := by
        rw [resumed]
        intro others same
        exact absurd same.symm bare.1
      exact kept.trans (congrArg (c :: ·) (ih bare.2))

example : colored.paint .heading "a\x1b[0mb" = "\x1b[96ma\x1b[0m\x1b[96mb\x1b[0m" := by decide

def errorLine (palette : Palette) (message : String) : String :=
  palette.paint .alarm "Error:" ++ " " ++ message

/-- Whether a switch of the environment is set to anything but zero. -/
def isOn (switch : String) : Bool := switch ≠ "0"

/-- The palette that an environment asks for: coloring can be forced, else it can be refused, and
otherwise a terminal is colored unless coloring is switched off. -/
def choose (forced refused enabled : Option String) (terminal : Bool) : Palette :=
  if forced.any isOn then colored
  else if refused.isSome then plain
  else if enabled.all isOn && terminal then colored
  else plain

end Palette

end PathSort.Report
