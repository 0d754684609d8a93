import PathSort.Settings.Toml.Moment
import PathSort.Settings.Toml.Entries

/-!
# TOML documents

A document is a sequence of lines: keys with values, and headers that open the table to which the
keys after them belong. The reader accepts TOML 1.1 and gives the entries of the root table, or
nothing when the text is no document. Keys of too many parts and values that are nested too deep
make a text no document, so that reading needs a bounded depth.
-/

namespace PathSort.Settings.Toml

set_option autoImplicit false

def isBare (c : Char) : Bool := c.isAlphanum || c = '_' || c = '-'

def readKeyPart (input : List Char) : Option (String × List Char) :=
  match input.takeWhile isBare with
  | [] => readShort input
  | bare => some (String.ofList bare, input.dropWhile isBare)

/-- How many parts a key may have, and how many lists and tables may be open at once within a value.
-/
def nestingLimit : Nat := 80

/-- Reads a key of at most so many parts with dots between them. Spaces may surround each part. -/
def readParts : Nat → List Char → Option (List String × List Char)
  | 0, _ => none
  | limit + 1, input => do
      let (part, rest) ← readKeyPart (dropSpace input)
      match dropSpace rest with
      | '.' :: rest => do
          let (parts, rest) ← readParts limit rest
          some (part :: parts, rest)
      | rest => some ([part], rest)

def readKey (input : List Char) : Option (List String × List Char) := readParts nestingLimit input

def isAtom (c : Char) : Bool := isBare c || c = '+' || c = '.' || c = ':'

/-- Reads the characters of a value without quotes. A date may be divided from its time by a space.
-/
def readAtom (input : List Char) : Option (List Char × List Char) :=
  let atom := input.takeWhile isAtom
  match atom, input.dropWhile isAtom with
  | [], _ => none
  | _, ' ' :: rest =>
      if afterDate? atom = some [] ∧ (afterTime? (rest.takeWhile isAtom)).isSome then
        some (atom ++ ' ' :: rest.takeWhile isAtom, rest.dropWhile isAtom)
      else some (atom, ' ' :: rest)
  | _, rest => some (atom, rest)

def atomValue? (atom : List Char) : Option Value :=
  let spelling := String.ofList atom
  if spelling = "true" then some (.boolean true)
  else if spelling = "false" then some (.boolean false)
  else if isNumber atom then some (.number spelling)
  else if isMoment atom then some (.moment spelling)
  else none

mutual

/-- Reads a value in which at most so many lists and tables are open at once. The fuel comes first
and bounds the number of values and lines. -/
def readValue : Nat → Nat → List Char → Option (Value × List Char)
  | 0, _, _ => none
  | fuel + 1, levels, input =>
      match input, levels with
      | '[' :: _, 0 => none
      | '[' :: rest, levels + 1 => do
          let (items, rest) ← readItems fuel levels rest
          some (.list items, rest)
      | '\x7b' :: _, 0 => none
      | '\x7b' :: rest, levels + 1 => do
          let (entries, rest) ← readInline fuel levels [] rest
          some (.table (entryValues entries), rest)
      | '\x22' :: _, _ => (readText input).map fun (text, rest) => (.text text, rest)
      | '\x27' :: _, _ => (readText input).map fun (text, rest) => (.text text, rest)
      | _, _ => do
          let (atom, rest) ← readAtom input
          some (← atomValue? atom, rest)

/-- Reads the items of a list up to its closing bracket. A comma may follow the last item. -/
def readItems : Nat → Nat → List Char → Option (List Value × List Char)
  | 0, _, _ => none
  | fuel + 1, levels, input =>
      match dropLines (fuel + 1) input with
      | ']' :: rest => some ([], rest)
      | input => do
          let (item, rest) ← readValue fuel levels input
          match dropLines (fuel + 1) rest with
          | ',' :: rest => do
              let (items, rest) ← readItems fuel levels rest
              some (item :: items, rest)
          | ']' :: rest => some ([item], rest)
          | _ => none

/-- Reads the entries of a table that is written as a value, up to its closing brace, onto those
read before. Line breaks may stand wherever spaces may, except within a key. A comma may follow the
last entry. -/
def readInline : Nat → Nat → Entries → List Char → Option (Entries × List Char)
  | 0, _, _, _ => none
  | fuel + 1, levels, entries, input =>
      match dropLines (fuel + 1) input with
      | '\x7d' :: rest => some (entries, rest)
      | input => do
          let (key, rest) ← readKey input
          match dropLines (fuel + 1) rest with
          | '=' :: rest => do
              let (value, rest) ← readValue fuel levels (dropLines (fuel + 1) rest)
              let entries ← entries.insert value key
              match dropLines (fuel + 1) rest with
              | ',' :: rest => readInline fuel levels entries rest
              | '\x7d' :: rest => some (entries, rest)
              | _ => none
          | _ => none

end

/-- What is known of a document while it is read: the entries of the root table, and the path of the
table that keys belong to. -/
structure Progress where
  root : Entries
  current : List String

/-- Reads the key of a header and opens its table. Two brackets add a table to a list. -/
def readHeader (progress : Progress) : List Char → Option (Progress × List Char)
  | '[' :: rest => do
      let (key, rest) ← readKey rest
      match rest with
      | ']' :: ']' :: rest => some (⟨← progress.root.appendTable key, key⟩, rest)
      | _ => none
  | input => do
      let (key, rest) ← readKey input
      match rest with
      | ']' :: rest => some (⟨← progress.root.openTable key, key⟩, rest)
      | _ => none

def readEntry (progress : Progress) (input : List Char) : Option (Progress × List Char) := do
  let (key, rest) ← readKey input
  match rest with
  | '=' :: rest => do
      let rest := dropSpace rest
      let (value, rest) ← readValue (2 * rest.length + 2) nestingLimit rest
      let root ← progress.root.changeAt (Entries.insert value key) progress.current
      some (⟨root, progress.current⟩, rest)
  | _ => none

/-- Reads lines to the end of the input. The fuel bounds their number. -/
def readLines : Nat → Progress → List Char → Option Progress
  | 0, _, _ => none
  | fuel + 1, progress, input =>
      match dropSpace input with
      | [] => some progress
      | '[' :: rest => do
          let (progress, rest) ← readHeader progress rest
          readLines fuel progress (← lineEnd? rest)
      | input =>
          match lineEnd? input with
          | some rest => readLines fuel progress rest
          | none => do
              let (progress, rest) ← readEntry progress input
              readLines fuel progress (← lineEnd? rest)

/-- The input without the byte order mark that may start it. -/
def dropByteOrderMark : List Char → List Char
  | '\ufeff' :: rest => rest
  | input => input

def parse? (document : String) : Option (List (String × Value)) := do
  let input := dropByteOrderMark document.toList
  let progress ← readLines (input.length + 1) ⟨[], []⟩ input
  some (entryValues progress.root)

end PathSort.Settings.Toml
