import PathSort.Resolution

/-!
# Sorting by tokens

Sort options say how tokens are read and applied: the direction of a token that gives none, and what
becomes of a dotted field of no known shape. Under fixed options a token is read and its directive
applied. With the policy to ignore them, dotted fields of no known shape are skipped with a warning;
every other error stands. A list of tokens is worked from the left and stops at the first error, and
what was applied before it stays. -/

namespace PathSort

set_option autoImplicit false

inductive UnsupportedPolicy where
  | error
  | ignore
deriving DecidableEq, Repr

namespace UnsupportedPolicy

def word : UnsupportedPolicy → String
  | error => "error"
  | ignore => "ignore"

/-- The policy that a word names. Case and blanks count. -/
def ofWord? (text : String) : Option UnsupportedPolicy :=
  if text = error.word then some error
  else if text = ignore.word then some ignore
  else none

end UnsupportedPolicy

structure SortOptions where
  defaultOrder : Direction
  unsupported : UnsupportedPolicy
deriving DecidableEq, Repr

namespace SortOptions

/-- Ascending unless a token says otherwise, and no dotted field is skipped. -/
def standard : SortOptions := ⟨.asc, .error⟩

def ignores (options : SortOptions) (error : SortError) : Bool :=
  options.unsupported = .ignore && error.isUnsupported

def read {Q : Type} (options : SortOptions) (raw : String) : Run Q SortError Directive := do
  let directive ← Run.ofExcept (Directive.parse raw options.defaultOrder)
  Run.report (.directive directive.field directive.order)
  pure directive

variable {Q : Type} [QueryBuilder Q]

/-- Applies a directive under the options' policy. -/
def apply (options : SortOptions) (model : Model Q) (directive : Directive) :
    Run Q SortError Unit :=
  (resolve model directive).handle fun error =>
    if options.ignores error then Run.report (.patternIgnored directive.field)
    else Run.fail error

def sort (options : SortOptions) (model : Model Q) (raw : String) : Run Q SortError Directive := do
  let directive ← options.read raw
  options.apply model directive
  pure directive

/-- Sorts by each token in turn, up to the first error. -/
def sortAll (options : SortOptions) (model : Model Q) :
    List String → Run Q SortError (List Directive)
  | [] => pure []
  | raw :: rest => do
      let directive ← options.sort model raw
      let directives ← options.sortAll model rest
      pure (directive :: directives)

end SortOptions

end PathSort
