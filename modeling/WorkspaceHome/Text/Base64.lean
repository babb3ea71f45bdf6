/-!
# Base64

Three bytes are written as four digits of six bits each. One or two bytes at the end are written as
two or three digits, and equals signs fill the four places.

`Base64.decode` passes over what is no digit, so it reads what `Base64.encode` writes, with its
equals signs or without, and on one line or on several. `Base64.decodePadded?` passes over the same,
but asks for whole groups of four places, and reads nothing behind the equals signs that fill one.
-/

namespace WorkspaceHome.Text.Base64

/-- The digits in the order of their values. -/
def digits : List Char :=
  "ABCDEFGHIJKLMNOPQRSTUVWXYZabcdefghijklmnopqrstuvwxyz0123456789+/".toList

/-- The digit of a value. -/
def digit (n : Nat) : Char := digits.getD n 'A'

/-- The value of a digit. -/
def value? (c : Char) : Option Nat := digits.findIdx? (· == c)

/-- Writes bytes. -/
def encode : List UInt8 → List Char
  | [] => []
  | [a] =>
    let n := a.toNat * 16
    [digit (n / 64), digit (n % 64), '=', '=']
  | [a, b] =>
    let n := (a.toNat * 256 + b.toNat) * 4
    [digit (n / 4096), digit (n / 64 % 64), digit (n % 64), '=']
  | a :: b :: c :: rest =>
    let n := (a.toNat * 256 + b.toNat) * 256 + c.toNat
    digit (n / 262144) :: digit (n / 4096 % 64) :: digit (n / 64 % 64) :: digit (n % 64) ::
      encode rest

/-- The bytes of digits that are given by their values. -/
def join : List Nat → List UInt8
  | a :: b :: c :: d :: rest =>
    let n := ((a * 64 + b) * 64 + c) * 64 + d
    UInt8.ofNat (n / 65536) :: UInt8.ofNat (n / 256 % 256) :: UInt8.ofNat (n % 256) :: join rest
  | [a, b, c] =>
    let n := (a * 64 + b) * 64 + c
    [UInt8.ofNat (n / 1024), UInt8.ofNat (n / 4 % 256)]
  | [a, b] => [UInt8.ofNat ((a * 64 + b) / 16)]
  | _ => []

/-- Reads bytes. -/
def decode (cs : List Char) : List UInt8 := join (cs.filterMap value?)

/-- The values of the digits up to the equals signs that fill a group, or up to the end of a group.
`place` of the four places of a group are taken by digits, and `signs` by equals signs. -/
def paddedValues? (place signs : Nat) : List Char → Option (List Nat)
  | [] => if place = 0 then some [] else none
  | c :: cs =>
    if c == '=' then
      -- A sign in front of the third place fills nothing, and is passed over.
      if place < 2 then paddedValues? place signs cs
      else if 3 ≤ place + signs then some []
      else paddedValues? place (signs + 1) cs
    else match value? c with
      | none => paddedValues? place signs cs
      | some v => (paddedValues? ((place + 1) % 4) 0 cs).map (v :: ·)

/-- Reads bytes whose groups are whole. -/
def decodePadded? (cs : List Char) : Option (List UInt8) := (paddedValues? 0 0 cs).map join

end WorkspaceHome.Text.Base64
