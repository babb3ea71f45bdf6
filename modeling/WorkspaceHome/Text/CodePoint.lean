/-!
# Code points

A text is a row of code points. Most of them are characters. A surrogate is none, but a text that
was decoded leniently, or written with escapes, may hold one that has no partner.
-/

namespace WorkspaceHome.Text

/-- A code point: a character, or a surrogate that has no partner. -/
inductive CodePoint where
  | char (c : Char)
  | surrogate (n : Nat)
  deriving DecidableEq, Repr

/-- A text of characters is one of code points. -/
instance : Coe (List Char) (List CodePoint) := ⟨List.map .char⟩

namespace CodePoint

/-- Whether a number is that of a surrogate. -/
def isSurrogate (n : Nat) : Bool := 0xD800 ≤ n && n ≤ 0xDFFF

/-- The code point of a number. -/
def ofNat (n : Nat) : CodePoint := if isSurrogate n then .surrogate n else .char (Char.ofNat n)

/-- The number of a code point. -/
def toNat : CodePoint → Nat
  | char c => c.toNat
  | surrogate n => n

/-- The character that a code point is, if it is one. -/
def char? : CodePoint → Option Char
  | char c => some c
  | surrogate _ => none

/-- Whether a code point is a character of which a condition holds. -/
def isChar (p : Char → Bool) : CodePoint → Bool
  | char c => p c
  | surrogate _ => false

end CodePoint

/-- The number of the code point of two surrogates, if they are the two halves of a pair. -/
def joinSurrogates? (high low : Nat) : Option Nat :=
  if 0xD800 ≤ high ∧ high ≤ 0xDBFF ∧ 0xDC00 ≤ low ∧ low ≤ 0xDFFF then
    some (0x10000 + (high - 0xD800) * 0x400 + (low - 0xDC00))
  else none

end WorkspaceHome.Text
