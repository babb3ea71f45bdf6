/-!
# Punycode

A label of a host name that is not ASCII is written with ASCII letters and digits alone: first its
ASCII characters and a hyphen, then the other characters in rising order, each by the distance from
the one before, counted over all places where it could be put in. Distances are numbers of digits
in base 36, whose last digit is known by a threshold that adapts to the distances met so far.
-/

namespace WorkspaceHome.Url.Punycode

/-- A digit: twenty-six letters, then the ten figures. -/
def digit (n : Nat) : Char := if n < 26 then Char.ofNat (97 + n) else Char.ofNat (22 + n)

/-- The threshold of the digit at a place, which grows by 36 from digit to digit. -/
def threshold (place bias : Nat) : Nat :=
  if place ≤ bias + 1 then 1 else if bias + 26 ≤ place then 26 else place - bias

theorem threshold_pos (place bias : Nat) : 1 ≤ threshold place bias := by
  unfold threshold
  split
  · omega
  · split <;> omega

/-- The digits of a distance. -/
def digits (bias place distance : Nat) : List Char :=
  let t := threshold place bias
  if distance < t then [digit distance]
  else
    digit (t + (distance - t) % (36 - t)) :: digits bias (place + 36) ((distance - t) / (36 - t))
  termination_by distance
  decreasing_by
    have := threshold_pos place bias
    have := Nat.div_le_self (distance - threshold place bias) (36 - threshold place bias)
    omega

/-- Divides a distance by 35 until it is at most 455, and counts 36 for every division. -/
def reduce (distance count : Nat) : Nat × Nat :=
  if 455 < distance then reduce (distance / 35) (count + 36) else (distance, count)

/-- The bias after a distance; the first one of a label is damped. -/
def adapt (distance points : Nat) (isFirst : Bool) : Nat :=
  let damped := if isFirst then distance / 700 else distance / 2
  let (rest, count) := reduce (damped + damped / points) 0
  count + 36 * rest / (rest + 38)

/-- How far a label has been written. -/
structure Progress where
  written : List Char
  distance : Nat
  bias : Nat
  points : Nat

/-- Passes a character of the label while the character `next` is being put in. -/
def pass (basic next : Nat) (p : Progress) (c : Char) : Progress :=
  if c.toNat < next then { p with distance := p.distance + 1 }
  else if c.toNat == next then
    { written := p.written ++ digits p.bias 36 p.distance
      distance := 0
      bias := adapt p.distance (p.points + 1) (p.points == basic)
      points := p.points + 1 }
  else p

/-- Puts in the characters that are not ASCII, in rising order; `reached` is the code point up to
which all have been put in. -/
def putIn (label : List Char) (basic : Nat) : List Nat → Nat → Progress → Progress
  | [], _, p => p
  | next :: rest, reached, p =>
    let p := { p with distance := p.distance + (next - reached) * (p.points + 1) }
    let p := label.foldl (pass basic next) p
    putIn label basic rest (next + 1) { p with distance := p.distance + 1 }

/-- The written form of a label. -/
def encode (label : List Char) : List Char :=
  let basic := label.filter fun c => c.toNat < 128
  let others := ((label.map Char.toNat).filter fun n => 128 ≤ n).mergeSort.eraseDups
  let p := putIn label basic.length others 128 ⟨[], 0, 72, basic.length⟩
  (if basic.isEmpty then [] else basic ++ ['-']) ++ p.written

end WorkspaceHome.Url.Punycode
