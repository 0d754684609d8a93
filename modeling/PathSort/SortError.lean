import PathSort.Text.Quoted

/-!
# Why sorting fails

Each constructor is one cause. `SortError.message` is the only place that words them: a text that
comes from outside is quoted, except the text that a handler reports about itself.
-/

namespace PathSort

set_option autoImplicit false

inductive SortError where
  /-- The token does not split into a field and a direction. Carries the token as it was given. -/
  | malformedDirective (raw : String)
  | invalidDirection (text : String)
  /-- A dotted field of no known shape, with the number of pieces between its dots. -/
  | unsupportedJoinPattern (field : String) (segments : Nat)
  | custom (text : String)
deriving DecidableEq, Repr

namespace SortError

def isUnsupported : SortError → Bool
  | unsupportedJoinPattern _ _ => true
  | _ => false

def message : SortError → String
  | malformedDirective raw => "Malformed sort directive: " ++ Text.quoted raw
  | invalidDirection text =>
      "Invalid sort direction: " ++ Text.quoted text ++ " (expected \"asc\" or \"desc\")"
  | unsupportedJoinPattern field segments =>
      "Unsupported join pattern " ++ Text.quoted field ++ " (" ++ Nat.repr segments ++ " segments)"
  | custom text => "Custom sort error: " ++ text

end SortError

end PathSort
