import WorkspaceHome.Number.Binary64

/-!
# The shortest decimal that reads back

`Binary64.shortest?` finds, for a positive finite value, the decimal with the fewest digits among
those that round to the value; of two with equally many digits the nearer one is taken. A decimal
rounds to the value when it lies in the interval between the midpoints to the two neighbouring
values, the ends included exactly when the mantissa is even.

`Layout` says how such a decimal is written: up to which size it stays positional, and how an
exponent looks. `Binary64.write` puts the two together.
-/

namespace WorkspaceHome

/-- The decimal `digits * 10 ^ scale`. -/
structure Decimal where
  digits : Nat
  scale : Int
  deriving DecidableEq, Repr

namespace Decimal

/-- The digits as characters. -/
def digitChars (d : Decimal) : List Char := Nat.toDigits 10 d.digits

/-- The place of the decimal point: `10 ^ (point - 1) ≤ d < 10 ^ point` for a nonzero `d`. -/
def point (d : Decimal) : Int := d.digitChars.length + d.scale

end Decimal

namespace Binary64

/-! ### The interval of a value -/

/-- A value with the ends of its rounding interval, as numerators over one denominator. -/
structure Interval where
  low : Nat
  value : Nat
  high : Nat
  den : Nat
  closed : Bool

/-- The rounding interval of `mantissa * 2 ^ exponent`. Below a power of two the gap to the next
value is half as wide, except at the least exponent. -/
def interval (mantissa : Nat) (exponent : Int) : Interval :=
  let below := if mantissa = leastFull ∧ leastExponent < exponent then 1 else 2
  let unit := power 2 exponent
  { low := (4 * mantissa - below) * unit
    value := 4 * mantissa * unit
    high := (4 * mantissa + 2) * unit
    den := 4 * power 2 (-exponent)
    closed := mantissa % 2 = 0 }

namespace Interval

/-- Whether `n / d` lies in the interval. -/
def holds (i : Interval) (n d : Nat) : Bool :=
  if i.closed then decide (i.low * d ≤ n * i.den) && decide (n * i.den ≤ i.high * d)
  else decide (i.low * d < n * i.den) && decide (n * i.den < i.high * d)

/-- The place of the decimal point of the value, looked up among the places that its size in bits
leaves open. -/
def point (i : Interval) : Int :=
  let guess : Int := (((i.value.log2 : Int) - (i.den.log2 : Int)) * 30103) / 100000
  let above (k : Int) : Bool :=
    decide (i.value * power 10 (-k) < i.den * power 10 k)
  ([guess - 1, guess, guess + 1, guess + 2].find? above).getD (guess + 2)

/-- The neighbour of the value on the grid of `10 ^ scale` that rounds to it, the nearer one if
both do, the even one if both are as near. -/
def onGrid? (i : Interval) (scale : Int) : Option Decimal :=
  let up := power 10 (-scale)
  let down := power 10 scale
  let num := i.value * up
  let den := i.den * down
  let low := num / den
  let fits (n : Nat) : Bool := i.holds (n * down) up
  let nearest := nearestEven num den
  if fits nearest then some ⟨nearest, scale⟩
  else if fits low then some ⟨low, scale⟩
  else if fits (low + 1) then some ⟨low + 1, scale⟩
  else none

end Interval

/-- Drops the zeros at the end of the digits; `fuel` bounds their number. -/
def dropZeros : Nat → Decimal → Decimal
  | 0, d => d
  | fuel + 1, d =>
    if d.digits ≠ 0 ∧ d.digits % 10 = 0 then dropZeros fuel ⟨d.digits / 10, d.scale + 1⟩ else d

/-- The shortest decimal that rounds to `mantissa * 2 ^ exponent`, for a positive mantissa.
Seventeen digits always suffice. -/
def shortest (mantissa : Nat) (exponent : Int) : Decimal :=
  let i := interval mantissa exponent
  let k := i.point
  let found := (List.range 17).findSome? fun n => i.onGrid? (k - (n + 1 : Nat))
  dropZeros 20 (found.getD ⟨0, 0⟩)

/-! ### Layout -/

/-- How a decimal is written. -/
structure Layout where
  /-- The least and the greatest place of the point at which no exponent is written. -/
  leastPoint : Int
  greatestPoint : Int
  /-- Whether a whole number in positional form ends in `.0`. -/
  keepsPoint : Bool
  /-- The least number of digits of an exponent. -/
  exponentDigits : Nat
  infinity : String
  notANumber : String

/-- The digits of a positive decimal with a point after the first `point` of them. -/
def positional (layout : Layout) (digits : List Char) (point : Int) : List Char :=
  if point ≤ 0 then '0' :: '.' :: (List.replicate (-point).toNat '0' ++ digits)
  else
    let p := point.toNat
    let whole := digits.take p ++ List.replicate (p - digits.length) '0'
    match digits.drop p with
    | [] => if layout.keepsPoint then whole ++ ['.', '0'] else whole
    | fraction => whole ++ '.' :: fraction

/-- One digit before the point, and the exponent with its sign. -/
def scientific (layout : Layout) (digits : List Char) (point : Int) : List Char :=
  let e := point - 1
  let size := Nat.toDigits 10 e.natAbs
  let padded := List.replicate (layout.exponentDigits - size.length) '0' ++ size
  let lead := match digits with
    | [] => []
    | [d] => [d]
    | d :: rest => d :: '.' :: rest
  lead ++ 'e' :: (if e < 0 then '-' else '+') :: padded

/-- Writes a number in a layout. -/
def write (layout : Layout) : Binary64 → String
  | .nan => layout.notANumber
  | .infinite s => if s then "-" ++ layout.infinity else layout.infinity
  | .finite s m e =>
    let body :=
      if m = 0 then positional layout ['0'] 1
      else
        let d := shortest m e
        if layout.leastPoint ≤ d.point ∧ d.point ≤ layout.greatestPoint then
          positional layout d.digitChars d.point
        else scientific layout d.digitChars d.point
    String.ofList (if s then '-' :: body else body)

end Binary64

end WorkspaceHome
