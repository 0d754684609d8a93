/-!
# Sort directions

A direction has two spellings: the word that a sort token carries and the keyword that an ORDER BY
term carries. Only the exact word names a direction, so reading a word back is the inverse of
writing it.
-/

namespace PathSort

set_option autoImplicit false

inductive Direction where
  | asc
  | desc
deriving DecidableEq, Repr

namespace Direction

def word : Direction → String
  | asc => "asc"
  | desc => "desc"

def keyword : Direction → String
  | asc => "ASC"
  | desc => "DESC"

def reverse : Direction → Direction
  | asc => desc
  | desc => asc

/-- The direction that a word names. Case and blanks count. -/
def ofWord? (text : String) : Option Direction :=
  if text = asc.word then some asc
  else if text = desc.word then some desc
  else none

theorem of_word_word (direction : Direction) : ofWord? direction.word = some direction := by
  cases direction <;> decide

theorem word_of_of_word {text : String} {direction : Direction}
    (named : ofWord? text = some direction) : text = direction.word := by
  unfold ofWord? at named
  split at named
  · cases named
    assumption
  · split at named
    · cases named
      assumption
    · cases named

end Direction

end PathSort
