/-!
# Binary floating-point numbers by value

A `Binary64` is a number of the 64-bit binary format, kept as the value it stands for: a sign and a
magnitude `mantissa * 2 ^ exponent`, an infinity, or not a number. Nothing here goes through a
hardware float, so every question about a value (is it equal to that integer, which integer lies
below it) is answered by arithmetic on natural numbers.

`Binary64.ofRatio` rounds an exact quotient to the nearest value of the format, a half going to the
even mantissa; `Binary64.ofDecimal` reads a decimal with it.
-/

namespace WorkspaceHome

/-- A number of the 64-bit binary format. A finite one stands for `± mantissa * 2 ^ exponent`. -/
inductive Binary64 where
  | finite (negative : Bool) (mantissa : Nat) (exponent : Int)
  | infinite (negative : Bool)
  | nan
  deriving DecidableEq, Repr, Inhabited

namespace Binary64

/-! ### The format -/

/-- The number of bits of a full mantissa. -/
def mantissaBits : Nat := 53

/-- The exponent of the smallest positive value. -/
def leastExponent : Int := -1074

/-- The greatest exponent of a finite value with a full mantissa. -/
def greatestExponent : Int := 971

/-- The power of a base; an exponent below zero counts as zero. -/
def power (base : Nat) (exponent : Int) : Nat := Nat.pow base exponent.toNat

/-- The least mantissa that has all its bits. -/
def leastFull : Nat := power 2 (mantissaBits - 1)

/-! ### Rounding -/

/-- The integer nearest to `num / den`; a half goes to the even neighbour. -/
def nearestEven (num den : Nat) : Nat :=
  let low := num / den
  let twice := 2 * (num % den)
  if twice < den then low
  else if den < twice then low + 1
  else if low % 2 = 0 then low else low + 1

/-- The quotient `num / den` measured in units of `2 ^ exponent`, as numerator and denominator. -/
def inUnits (num den : Nat) (exponent : Int) : Nat × Nat :=
  (num * power 2 (-exponent), den * power 2 exponent)

/-- The exponent at which `num / den` fills the mantissa, never below the least one. -/
def fillingExponent (num den : Nat) : Int :=
  -- The sizes in bits settle the exponent up to one, and the guess is never too low.
  let guess : Int := (num.log2 : Int) - (den.log2 : Int) - (mantissaBits - 1 : Nat)
  let (n, d) := inUnits num den guess
  let fitted := if n / d < leastFull then guess - 1 else guess
  max fitted leastExponent

/-- The value of the format nearest to `± num / den`. -/
def ofRatio (negative : Bool) (num den : Nat) : Binary64 :=
  if num = 0 then .finite negative 0 leastExponent
  else
    let e := fillingExponent num den
    let (n, d) := inUnits num den e
    let m := nearestEven n d
    let (m, e) := if m = 2 * leastFull then (leastFull, e + 1) else (m, e)
    if greatestExponent < e then .infinite negative else .finite negative m e

/-- The value nearest to `± digits * 10 ^ scale`. Decimals far outside the range of the format are
settled by their magnitude alone. -/
def ofDecimal (negative : Bool) (digits : Nat) (scale : Int) : Binary64 :=
  let size : Int := (Nat.toDigits 10 digits).length + scale
  if digits = 0 ∨ size < -330 then .finite negative 0 leastExponent
  else if 330 < size then .infinite negative
  else ofRatio negative (digits * power 10 scale) (power 10 (-scale))

/-! ### Values -/

/-- Whether a number is zero, of either sign. -/
def isZero : Binary64 → Bool
  | .finite _ 0 _ => true
  | _ => false

/-- Whether a number is less than zero. -/
def isNegative : Binary64 → Bool
  | .finite negative m _ => negative && m != 0
  | .infinite negative => negative
  | .nan => false

/-- Equality of values: the two zeros are equal, and not-a-number equals nothing. -/
def same : Binary64 → Binary64 → Bool
  | .finite s m e, .finite s' m' e' =>
    let low := min e e'
    let a := m * power 2 (e - low)
    let b := m' * power 2 (e' - low)
    a == b && (a == 0 || s == s')
  | .infinite s, .infinite s' => s == s'
  | _, _ => false

/-- Whether a number has the value of an integer. -/
def sameInt (x : Binary64) (n : Int) : Bool :=
  x.same (.finite (n < 0) n.natAbs 0)

/-- The integer reached by dropping the fraction; none for an infinity and for not-a-number. -/
def truncate? : Binary64 → Option Int
  | .finite s m e =>
    let size := m * power 2 e / power 2 (-e)
    some (if s then -(size : Int) else size)
  | _ => none

/-- The least integer that is not below a number; none for an infinity and for not-a-number. -/
def ceiling? : Binary64 → Option Int
  | .finite s m e =>
    let size := m * power 2 e
    let unit := power 2 (-e)
    let low := size / unit
    some (if s then -(low : Int) else if size % unit = 0 then low else (low : Int) + 1)
  | _ => none

/-- The integer nearest to `factor` times a number, a half going to the even neighbour. -/
def scaled? (factor : Nat) : Binary64 → Option Int
  | .finite s m e =>
    let size := nearestEven (m * factor * power 2 e) (power 2 (-e))
    some (if s then -(size : Int) else size)
  | _ => none

end Binary64

end WorkspaceHome
