import WorkspaceHome.Json.Basic
import WorkspaceHome.Number.Numeral
import WorkspaceHome.Text.CodePoint
import WorkspaceHome.Text.Quoted

/-!
# Reading JSON texts

`Json.read` turns a text into a value, or says what is wrong with it and where. The text has to be
one value with nothing but white space around it. Of two members with one key the later one holds.
Numbers without a fraction and an exponent are whole; the three words for non-finite numbers are
read unless the reader is told not to. Values may be nested in each other only so deep.

A text is read by its code points. A surrogate without a partner is kept inside quotes; everywhere
else it is out of place, like every character that the grammar does not know.
-/

namespace WorkspaceHome.Json

open Text (CodePoint joinSurrogates?)

/-! ### Faults -/

/-- What is wrong with a text. -/
inductive Fault where
  | valueExpected
  | nameExpected
  | colonExpected
  | commaExpected
  | unterminatedText
  | controlCharacter
  | unknownEscape
  | badCodeEscape
  | extraData
  | byteOrderMark
  | tooManyDigits (count : Nat)
  | nonFinite (word : String)
  | tooDeep
  deriving DecidableEq, Repr

/-- The words for a fault. -/
def Fault.words : Fault → String
  | .valueExpected => "Expecting value"
  | .nameExpected => "Expecting property name enclosed in double quotes"
  | .colonExpected => "Expecting ':' delimiter"
  | .commaExpected => "Expecting ',' delimiter"
  | .unterminatedText => "Unterminated string starting at"
  | .controlCharacter => "Invalid control character at"
  | .unknownEscape => "Invalid \\escape"
  | .badCodeEscape => "Invalid \\uXXXX escape"
  | .extraData => "Extra data"
  | .byteOrderMark => "Unexpected UTF-8 BOM (decode using utf-8-sig)"
  | .tooManyDigits count =>
    "Exceeds the limit (" ++ toString Numeral.digitLimit ++
      " digits) for integer string conversion: value has " ++ toString count ++
      " digits; use sys.set_int_max_str_digits() to increase the limit"
  | .nonFinite word => "Out of range float values are not JSON compliant: '" ++ word ++ "'"
  | .tooDeep => "maximum recursion depth exceeded while decoding a JSON value"

/-- Whether a fault is one of grammar, which is reported with its place. -/
def Fault.hasPlace : Fault → Bool
  | .tooManyDigits _ | .nonFinite _ | .tooDeep => false
  | _ => true

/-- A fault and the number of code points from it to the end of the text. -/
structure Stop where
  fault : Fault
  left : Nat
  deriving DecidableEq, Repr

/-- Reports a fault at the head of what is left. -/
def stop {α : Type} (fault : Fault) (rest : List CodePoint) : Except Stop α :=
  .error ⟨fault, rest.length⟩

/-- The report of a fault in a text: lines and columns count from one, code points from zero. -/
def Stop.report (text : List CodePoint) (s : Stop) : String :=
  if s.fault.hasPlace then
    let place := text.length - s.left
    let before := text.take place
    let line := before.count (.char '\n') + 1
    let column := (before.reverse.takeWhile (· != .char '\n')).length + 1
    s.fault.words ++ ": line " ++ toString line ++ " column " ++ toString column ++
      " (char " ++ toString place ++ ")"
  else s.fault.words

/-! ### White space and texts -/

/-- Drops white space. -/
def skipSpace (ps : List CodePoint) : List CodePoint :=
  ps.dropWhile (CodePoint.isChar fun c => c == ' ' || c == '\t' || c == '\n' || c == '\r')

/-- Reads the four digits of a code escape, which the text has to go on after. -/
def codeEscape? : List CodePoint → Option Nat
  | a :: b :: c :: d :: _ :: _ =>
    [a, b, c, d].foldlM (fun n digit => (n * 16 + ·) <$> digit.char?.bind Text.hexDigit?) 0
  | _ => none

/-- The character that an escape of one letter stands for. -/
def letterEscape? : CodePoint → Option Char
  | .char '"' => some '"'
  | .char '\\' => some '\\'
  | .char '/' => some '/'
  | .char 'b' => some '\x08'
  | .char 'f' => some '\x0c'
  | .char 'n' => some '\n'
  | .char 'r' => some '\r'
  | .char 't' => some '\t'
  | _ => none

/-- Reads the rest of a text, of which `opened` is what was left at its opening quote; `done` are
the numbers of its code points so far, the last one first. -/
def readText (opened : List CodePoint) (done : List Nat) : List CodePoint →
    Except Stop (List Nat × List CodePoint)
  | [] => stop .unterminatedText opened
  | .char '"' :: rest => .ok (done.reverse, rest)
  | [.char '\\'] => stop .unterminatedText opened
  | .char '\\' :: .char 'u' :: rest =>
    match codeEscape? rest with
    | none => stop .badCodeEscape (.char 'u' :: rest)
    | some high =>
      let after := rest.drop 4
      -- Only two escapes are joined: a surrogate that stands for itself stays without a partner.
      if 0xD800 ≤ high ∧ high ≤ 0xDBFF ∧ after.take 2 = [.char '\\', .char 'u'] then
        match codeEscape? (after.drop 2) with
        | none => stop .badCodeEscape (after.drop 1)
        | some low =>
          match joinSurrogates? high low with
          | some code => readText opened (code :: done) (after.drop 6)
          | none => readText opened (high :: done) after
      else readText opened (high :: done) after
  | .char '\\' :: p :: rest =>
    match letterEscape? p with
    | some e => readText opened (e.toNat :: done) rest
    | none => stop .unknownEscape (.char '\\' :: p :: rest)
  | p :: rest =>
    if p.toNat < 0x20 then stop .controlCharacter (p :: rest)
    else readText opened (p.toNat :: done) rest
  termination_by ps => ps.length
  decreasing_by all_goals (simp only [List.length_drop, List.length_cons]; omega)

/-! ### Numbers -/

/-- Whether a code point is one of the ten ASCII digits. -/
def isPlainDigit : CodePoint → Bool := CodePoint.isChar fun c => '0' ≤ c && c ≤ '9'

/-- Splits off a run of digits. -/
def spanDigits (ps : List CodePoint) : List Nat × List CodePoint :=
  ((ps.takeWhile isPlainDigit).map fun p => p.toNat - '0'.toNat, ps.dropWhile isPlainDigit)

/-- Splits off the whole part of a number: a zero, or digits that start with none. -/
def wholePart? : List CodePoint → Option (List Nat × List CodePoint)
  | .char '0' :: rest => some ([0], rest)
  | p :: rest => if isPlainDigit p then some (spanDigits (p :: rest)) else none
  | [] => none

/-- Splits off a fraction, if there is one. -/
def fractionPart? : List CodePoint → Option (List Nat × List CodePoint)
  | .char '.' :: rest =>
    match spanDigits rest with
    | ([], _) => none
    | found => some found
  | _ => none

/-- Splits off the sign of an exponent, and tells whether it is a minus. -/
def splitSign : List CodePoint → Bool × List CodePoint
  | .char '-' :: rest => (true, rest)
  | .char '+' :: rest => (false, rest)
  | ps => (false, ps)

/-- Splits off an exponent, if there is one. -/
def exponentPart? : List CodePoint → Option (Int × List CodePoint)
  | p :: rest =>
    if p == .char 'e' || p == .char 'E' then
      let (negative, body) := splitSign rest
      match spanDigits body with
      | ([], _) => none
      | (ds, after) =>
        some (if negative then -(Numeral.ofDigits ds : Int) else Numeral.ofDigits ds, after)
    else none
  | [] => none

/-- Reads a number. -/
def readNumber (ps : List CodePoint) : Except Stop (Json × List CodePoint) :=
  let (negative, body) := match ps with
    | .char '-' :: rest => (true, rest)
    | _ => (false, ps)
  match wholePart? body with
  | none => stop .valueExpected ps
  | some (whole, rest) =>
    let fraction := fractionPart? rest
    let (places, rest) := fraction.getD ([], rest)
    let exponent := exponentPart? rest
    let (e, rest) := exponent.getD (0, rest)
    if fraction.isSome || exponent.isSome then
      let digits := Numeral.ofDigits (whole ++ places)
      .ok (.float (.ofDecimal negative digits (e - places.length)), rest)
    else if Numeral.digitLimit < whole.length then stop (.tooManyDigits whole.length) ps
    else
      let n := Numeral.ofDigits whole
      .ok (.int (if negative then -(n : Int) else n), rest)

/-! ### Values -/

/-- The words that stand for values of their own. -/
def words : List (String × Json) :=
  [("null", .null), ("true", .bool true), ("false", .bool false), ("NaN", .float .nan),
    ("Infinity", .float (.infinite false)), ("-Infinity", .float (.infinite true))]

/-- Splits off one of the words. -/
def splitWord? (ps : List CodePoint) : Option (String × Json × List CodePoint) :=
  words.findSome? fun (word, value) =>
    if ps.take word.length = word.toList then some (word, value, ps.drop word.length) else none

/-- How deep values may be nested in each other. What is limited is how many calls are open at once,
so that the exact number depends on who is reading; this one holds for a feed that is asked by a
call of its own. -/
def nestingLimit : Nat := 960

mutual

/-- Reads a value at the head of a text; `depth` more values may be nested in each other. -/
def readValue (takesNonFinite : Bool) (depth : Nat) :
    Nat → List CodePoint → Except Stop (Json × List CodePoint)
  | 0, ps => stop .valueExpected ps
  | fuel + 1, ps =>
    match ps, depth with
    | .char '"' :: rest, _ => do
      let (codes, rest) ← readText ps [] rest
      return (ofCodes codes, rest)
    | .char '[' :: _, 0 | .char '\x7b' :: _, 0 => stop .tooDeep ps
    | .char '[' :: rest, depth + 1 =>
      match skipSpace rest with
      | .char ']' :: rest => .ok (.list [], rest)
      | rest => do
        let (items, rest) ← readItems takesNonFinite depth fuel rest
        return (.list items, rest)
    | .char '\x7b' :: rest, depth + 1 =>
      match skipSpace rest with
      | .char '\x7d' :: rest => .ok (.object [], rest)
      | rest => do
        let (members, rest) ← readMembers takesNonFinite depth fuel rest
        return (ofMembers members, rest)
    | _, _ =>
      match splitWord? ps with
      | some (word, value, rest) =>
        if takesNonFinite || value.isFinite then .ok (value, rest) else stop (.nonFinite word) ps
      | none => readNumber ps

/-- Reads the items of a list up to its end. -/
def readItems (takesNonFinite : Bool) (depth : Nat) :
    Nat → List CodePoint → Except Stop (List Json × List CodePoint)
  | 0, ps => stop .valueExpected ps
  | fuel + 1, ps => do
    let (item, rest) ← readValue takesNonFinite depth fuel ps
    match skipSpace rest with
    | .char ']' :: rest => return ([item], rest)
    | .char ',' :: rest =>
      let (items, rest) ← readItems takesNonFinite depth fuel (skipSpace rest)
      return (item :: items, rest)
    | rest => stop .commaExpected rest

/-- Reads the members of an object up to its end. -/
def readMembers (takesNonFinite : Bool) (depth : Nat) :
    Nat → List CodePoint → Except Stop (List (String × Json) × List CodePoint)
  | 0, ps => stop .nameExpected ps
  | fuel + 1, ps =>
    match ps with
    | .char '"' :: rest => do
      let (key, rest) ← readText ps [] rest
      match skipSpace rest with
      | .char ':' :: rest =>
        let (value, rest) ← readValue takesNonFinite depth fuel (skipSpace rest)
        match skipSpace rest with
        | .char '\x7d' :: rest => return ([(keyOfCodes key, value)], rest)
        | .char ',' :: rest =>
          let (members, rest) ← readMembers takesNonFinite depth fuel (skipSpace rest)
          return ((keyOfCodes key, value) :: members, rest)
        | rest => stop .commaExpected rest
      | rest => stop .colonExpected rest
    | _ => stop .nameExpected ps

end

/-- What a reader makes of texts that the grammar of JSON does not settle. -/
structure Dialect where
  /-- The words for non-finite numbers are read. -/
  takesNonFinite : Bool
  /-- A byte order mark at the start is reported as one. -/
  noticesMark : Bool

/-- Reads a text that is one value. Every second step of the reader takes a code point, so
their number bounds the steps. -/
def readPoints (d : Dialect) (ps : List CodePoint) : Except Stop Json := do
  if d.noticesMark && ps.head? == some (.char '\uFEFF') then stop .byteOrderMark ps
  else
    let (value, rest) ← readValue d.takesNonFinite nestingLimit (2 * ps.length + 1) (skipSpace ps)
    match skipSpace rest with
    | [] => return value
    | rest => stop .extraData rest

/-- Why a text is not read: it is no JSON, or it is nested too deep. -/
inductive ReadError where
  | invalid (message : String)
  | tooDeep
  deriving DecidableEq, Repr

/-- The error of a fault in a text. -/
def Stop.error (text : List CodePoint) (s : Stop) : ReadError :=
  if s.fault = .tooDeep then .tooDeep else .invalid (s.report text)

/-- Reads a text that is one value, or tells why it is not one. -/
def read (d : Dialect) (ps : List CodePoint) : Except ReadError Json :=
  (readPoints d ps).mapError (Stop.error ps)

end WorkspaceHome.Json
