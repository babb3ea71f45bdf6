/-!
# Moments in time

A `Timestamp` counts microseconds from the first of January 1970, in universal time. It is written
with date and time of day, and with six digits of a second's fraction only when there is one.
-/

namespace WorkspaceHome

/-- A moment, in microseconds from the first of January 1970. -/
structure Timestamp where
  micros : Int
  deriving DecidableEq, Repr, Inhabited

namespace Timestamp

/-- The number of microseconds of a second and of a day. -/
def second : Nat := 1000000
def day : Nat := 86400 * second

/-! ### The calendar -/

/-- The number of days from the first of January 1970 to a date. Years count from March, so that a
leap day ends one; four hundred of them have 146097 days. -/
def daysOfDate (year month dayOfMonth : Nat) : Int :=
  let shifted : Int := if month ≤ 2 then (year : Int) - 1 else year
  let era := Int.fdiv shifted 400
  let yearOfEra := shifted - era * 400
  let monthFromMarch : Int := (month + 9) % 12
  let dayOfYear := (153 * monthFromMarch + 2) / 5 + dayOfMonth - 1
  era * 146097 + (yearOfEra * 365 + yearOfEra / 4 - yearOfEra / 100 + dayOfYear) - 719468

/-- The date that lies a number of days after the first of January 1970. -/
def dateOfDays (days : Int) : Int × Nat × Nat :=
  let z := days + 719468
  let era := Int.fdiv z 146097
  let dayOfEra := (z - era * 146097).toNat
  let yearOfEra := (dayOfEra - dayOfEra / 1460 + dayOfEra / 36524 - dayOfEra / 146096) / 365
  let dayOfYear := dayOfEra - (365 * yearOfEra + yearOfEra / 4 - yearOfEra / 100)
  let monthFromMarch := (5 * dayOfYear + 2) / 153
  let dayOfMonth := dayOfYear - (153 * monthFromMarch + 2) / 5 + 1
  let month := if monthFromMarch < 10 then monthFromMarch + 3 else monthFromMarch - 9
  (yearOfEra + era * 400 + (if month ≤ 2 then 1 else 0), month, dayOfMonth)

/-! ### Written form -/

/-- A number with zeros in front up to a width. -/
def padded (width : Nat) (n : Nat) : String :=
  let digits := Nat.toDigits 10 n
  String.ofList (List.replicate (width - digits.length) '0' ++ digits)

/-- A moment as it is written. -/
def write (t : Timestamp) : String :=
  let days := Int.fdiv t.micros day
  let ofDay := (t.micros - days * day).toNat
  let (year, month, dayOfMonth) := dateOfDays days
  let seconds := ofDay / second
  let fraction := ofDay % second
  padded 4 year.toNat ++ "-" ++ padded 2 month ++ "-" ++ padded 2 dayOfMonth ++ "T" ++
    padded 2 (seconds / 3600) ++ ":" ++ padded 2 (seconds / 60 % 60) ++ ":" ++
    padded 2 (seconds % 60) ++ (if fraction = 0 then "" else "." ++ padded 6 fraction) ++ "Z"

/-! ### Reading -/

/-- The number that a run of ASCII digits stands for. -/
def number? (cs : List Char) : Option Nat :=
  if !cs.isEmpty && cs.all Char.isDigit then
    some (cs.foldl (fun n c => n * 10 + (c.toNat - '0'.toNat)) 0)
  else none

/-- Reads the fraction of a second, in microseconds. -/
def fraction? : List Char → Option (Nat × List Char)
  | '.' :: rest =>
    let digits := rest.takeWhile Char.isDigit
    let sixth := (digits ++ List.replicate 6 '0').take 6
    (number? sixth).map (·, rest.dropWhile Char.isDigit)
  | cs => some (0, cs)

/-- Reads the offset from universal time, in minutes. -/
def offset? : List Char → Option Int
  | [] | ['Z'] => some 0
  | sign :: h :: h' :: ':' :: m :: m' :: [] => do
    let minutes := (← number? [h, h']) * 60 + (← number? [m, m'])
    if sign == '+' then some (minutes : Int)
    else if sign == '-' then some (-minutes : Int)
    else none
  | _ => none

/-- Reads a time of day, in microseconds: hours, minutes, and seconds with a fraction if there are
any. The rest of the text tells the offset. -/
def timeOfDay? : List Char → Option (Int × List Char)
  | [] => some (0, [])
  | _ :: h :: h' :: ':' :: m :: m' :: rest => do
    let minutes := (← number? [h, h']) * 60 + (← number? [m, m'])
    match rest with
    | ':' :: s :: s' :: rest =>
      let (fraction, rest) ← fraction? rest
      return ((minutes * 60 + (← number? [s, s'])) * second + fraction, rest)
    | _ => return (minutes * 60 * second, rest)
  | _ => none

/-- Reads a moment: a date, and a time of day if there is one. -/
def read? (s : String) : Option Timestamp :=
  match s.toList with
  | y :: y' :: y'' :: y''' :: '-' :: m :: m' :: '-' :: d :: d' :: rest => do
    let year ← number? [y, y', y'', y''']
    let days := daysOfDate year (← number? [m, m']) (← number? [d, d'])
    let (time, rest) ← timeOfDay? rest
    let offset ← offset? rest
    return ⟨days * day + time - offset * 60 * second⟩
  | _ => none

/-- The moment that lies a number of microseconds later. -/
def later (t : Timestamp) (micros : Int) : Timestamp := ⟨t.micros + micros⟩

end Timestamp

end WorkspaceHome
