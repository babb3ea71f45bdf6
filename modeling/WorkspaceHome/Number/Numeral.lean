import WorkspaceHome.Number.Binary64
import WorkspaceHome.Text.Digit

/-!
# Numbers read from text

A numeral may stand between blanks, may have a sign, may use the digits of any script, and may have
single underscores between two digits. `Numeral.int?` reads a whole number, `Numeral.binary64?` a
binary one with an optional point and exponent, or one of the words for infinity and for
not-a-number. A whole number may have at most `Numeral.digitLimit` digits.
-/

namespace WorkspaceHome.Numeral

open Text

/-- The greatest number of digits of a whole number that is read. -/
def digitLimit : Nat := 4300

/-- The number that decimal digits stand for, the first one weighing most. -/
def ofDigits (digits : List Nat) : Nat := digits.foldl (fun n d => n * 10 + d) 0

/-! ### Parts of a numeral -/

/-- Splits off a sign; true is minus. -/
def splitSign : List Char → Bool × List Char
  | '-' :: rest => (true, rest)
  | '+' :: rest => (false, rest)
  | cs => (false, cs)

/-- Splits off a run of digits, in which an underscore may stand between two of them. -/
def splitDigits : List Char → List Nat × List Char
  | [] => ([], [])
  | c :: '_' :: e :: more =>
    match digitValue? c, digitValue? e with
    | none, _ => ([], c :: '_' :: e :: more)
    | some d, none => ([d], '_' :: e :: more)
    | some d, some _ =>
      let (ds, after) := splitDigits (e :: more)
      (d :: ds, after)
  | c :: rest =>
    match digitValue? c with
    | none => ([], c :: rest)
    | some d =>
      let (ds, after) := splitDigits rest
      (d :: ds, after)
  termination_by cs => cs.length

/-- Splits off a fraction: a point and the digits after it. -/
def splitFraction : List Char → List Nat × List Char
  | '.' :: rest =>
    match rest with
    | '_' :: _ => ([], rest)
    | _ => splitDigits rest
  | cs => ([], cs)

/-- Splits off an exponent; without one it is zero. An `e` that no digit follows is not read. -/
def splitExponent (cs : List Char) : Int × List Char :=
  match cs with
  | c :: rest =>
    if c == 'e' || c == 'E' then
      let (negative, body) := splitSign rest
      match splitDigits body with
      | ([], _) => (0, cs)
      | (ds, after) => (if negative then -(ofDigits ds : Int) else ofDigits ds, after)
    else (0, cs)
  | [] => (0, [])

/-! ### Whole numbers -/

/-- Reads a whole number. -/
def int? (s : String) : Option Int :=
  let (negative, body) := splitSign (strip s.toList)
  match splitDigits body with
  | ([], _) => none
  | (ds, []) =>
    if digitLimit < ds.length then none
    else some (if negative then -(ofDigits ds : Int) else ofDigits ds)
  | _ => none

/-! ### Binary numbers -/

/-- The words for numbers that have no digits. -/
def word? (negative : Bool) (cs : List Char) : Option Binary64 :=
  match String.ofList (cs.map Char.toLower) with
  | "inf" | "infinity" => some (.infinite negative)
  | "nan" => some .nan
  | _ => none

/-- Reads a binary number. -/
def binary64? (s : String) : Option Binary64 :=
  let (negative, body) := splitSign (strip s.toList)
  let (whole, rest) := splitDigits body
  let (fraction, rest) := splitFraction rest
  if whole.isEmpty && fraction.isEmpty then word? negative body
  else
    match splitExponent rest with
    | (e, []) => some (.ofDecimal negative (ofDigits (whole ++ fraction)) (e - fraction.length))
    | _ => none

end WorkspaceHome.Numeral
