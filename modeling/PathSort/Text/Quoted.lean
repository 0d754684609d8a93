import PathSort.Text.Unprintable
import PathSort.Text.Combining

/-!
# Quoted text

A quoted text shows any text on one line, between double quotes, so that a reader sees every
character of it. The quote and the backslash are escaped by a backslash, four controls have short
forms, and every other character that has no visible form or attaches to its neighbour is written
as its code point in hexadecimal.
-/

namespace PathSort.Text

set_option autoImplicit false

def quoteMark : Char := '\x22'

def escapeMark : Char := '\x5c'

/-- The lowercase hexadecimal digits of a number, without leading zeros. -/
def hexDigits (n : Nat) : List Char := Nat.toDigits 16 n

def codePointEscape (c : Char) : List Char :=
  escapeMark :: 'u' :: '\x7b' :: hexDigits c.toNat ++ ['\x7d']

def needsCodePoint (c : Char) : Bool := isUnprintable c || isCombining c

def quoteChar (c : Char) : List Char :=
  if c = quoteMark then [escapeMark, quoteMark]
  else if c = escapeMark then [escapeMark, escapeMark]
  else if c = '\x00' then [escapeMark, '0']
  else if c = '\t' then [escapeMark, 't']
  else if c = '\r' then [escapeMark, 'r']
  else if c = '\n' then [escapeMark, 'n']
  else if needsCodePoint c then codePointEscape c
  else [c]

/-- A text between quotes, every character of it visible. -/
def quoted (text : String) : String :=
  String.ofList (quoteMark :: text.toList.flatMap quoteChar ++ [quoteMark])

end PathSort.Text
