import WorkspaceHome.Text.CodePoint
import WorkspaceHome.Text.Quoted

/-!
# Reading UTF-8 and its kin

A byte sequence is read one character at a time. The first byte of a character fixes how many
continuation bytes follow and in which range the first of them lies; a sequence that breaks this
rule is malformed, and the report says which bytes are at fault and why. UTF-16 and UTF-32 are read
the same way, with their own two faults.

A surrogate stands for no character. A lenient reading takes an encoded one for what it is, so it
gives code points; a strict one reports it.
-/

namespace WorkspaceHome.Text

/-- Why bytes are not text. -/
inductive EncodingFault where
  | invalidStart
  | invalidContinuation
  | unexpectedEnd
  | truncated
  | illegalEncoding
  | illegalSurrogate
  | surrogateRange
  | outOfRange
  | notAscii
  deriving DecidableEq, Repr

/-- The words for a fault. -/
def EncodingFault.words : EncodingFault → String
  | .invalidStart => "invalid start byte"
  | .invalidContinuation => "invalid continuation byte"
  | .unexpectedEnd => "unexpected end of data"
  | .truncated => "truncated data"
  | .illegalEncoding => "illegal encoding"
  | .illegalSurrogate => "illegal UTF-16 surrogate"
  | .surrogateRange => "code point in surrogate code point range(0xd800, 0xe000)"
  | .outOfRange => "code point not in range(0x110000)"
  | .notAscii => "ordinal not in range(128)"

/-- A malformed stretch of bytes: where it starts, how long it is, its first byte, and the fault. -/
structure Malformed where
  encoding : String
  start : Nat
  length : Nat
  first : UInt8
  fault : EncodingFault
  deriving DecidableEq, Repr

/-- The report of a malformed stretch. -/
def Malformed.report (m : Malformed) : String :=
  let what :=
    if m.length = 1 then
      "byte 0x" ++ String.ofList (hex 2 m.first.toNat) ++ " in position " ++ toString m.start
    else
      "bytes in position " ++ toString m.start ++ "-" ++ toString (m.start + m.length - 1)
  "'" ++ m.encoding ++ "' codec can't decode " ++ what ++ ": " ++ m.fault.words

/-- The character that stands for what is not one. -/
def replacement : Char := '\uFFFD'

/-! ### UTF-8 -/

/-- What the first byte of a character asks for: the number of continuation bytes, the range of the
first of them, and the bits of the character that it holds itself. -/
structure Lead where
  count : Nat
  low : UInt8
  high : UInt8
  bits : Nat

/-- Reads a first byte of two or more. -/
def lead? (b : UInt8) : Option Lead :=
  let n := b.toNat
  if 0xC2 ≤ n ∧ n ≤ 0xDF then some ⟨1, 0x80, 0xBF, n - 0xC0⟩
  else if n = 0xE0 then some ⟨2, 0xA0, 0xBF, 0⟩
  else if n = 0xED then some ⟨2, 0x80, 0x9F, 0xD⟩
  else if 0xE1 ≤ n ∧ n ≤ 0xEF then some ⟨2, 0x80, 0xBF, n - 0xE0⟩
  else if n = 0xF0 then some ⟨3, 0x90, 0xBF, 0⟩
  else if 0xF1 ≤ n ∧ n ≤ 0xF3 then some ⟨3, 0x80, 0xBF, n - 0xF0⟩
  else if n = 0xF4 then some ⟨3, 0x80, 0x8F, 4⟩
  else none

/-- What stands at the head of a byte sequence. -/
inductive Head where
  /-- A character and the number of its bytes. -/
  | scalar (c : Char) (size : Nat)
  /-- Bytes that no continuation can complete. -/
  | malformed (length : Nat) (fault : EncodingFault)
  /-- A proper beginning that ends too early. -/
  | incomplete (length : Nat)

/-- Reads `count` continuation bytes, the first of them between `low` and `high`; `seen` bytes have
been read before and hold `bits`. -/
def continuation (low high : UInt8) : Nat → Nat → Nat → List UInt8 → Head
  | 0, seen, bits, _ => .scalar (Char.ofNat bits) seen
  | _ + 1, seen, _, [] => .incomplete seen
  | count + 1, seen, bits, b :: rest =>
    if low ≤ b && b ≤ high then
      continuation 0x80 0xBF count (seen + 1) (bits * 64 + (b.toNat - 0x80)) rest
    else .malformed seen .invalidContinuation

/-- Reads the head of a sequence that starts with `b`. -/
def head (b : UInt8) (rest : List UInt8) : Head :=
  if b < 0x80 then .scalar (Char.ofNat b.toNat) 1
  else match lead? b with
    | none => .malformed 1 .invalidStart
    | some l => continuation l.low l.high l.count 1 l.bits rest

/-- The surrogate that three bytes encode. -/
def encodedSurrogate? : List UInt8 → Option Nat
  | a :: b :: c :: _ =>
    if a == 0xED && 0xA0 ≤ b && b ≤ 0xBF && 0x80 ≤ c && c ≤ 0xBF then
      some (0xD000 + (b.toNat - 0x80) * 64 + (c.toNat - 0x80))
    else none
  | _ => none

/-- How strictly UTF-8 is read. -/
structure Utf8Mode where
  /-- An encoded surrogate is taken as it is. -/
  takesSurrogates : Bool
  /-- An incomplete character at the end is left out. -/
  dropsTail : Bool

/-- Reads UTF-8; `offset` bytes stand before these. -/
def decodeUtf8 (mode : Utf8Mode) (offset : Nat) : List UInt8 → Except Malformed (List CodePoint)
  | [] => .ok []
  | b :: rest =>
    match head b rest with
    | .scalar c size => do
      let ps ← decodeUtf8 mode (offset + size) (rest.drop (size - 1))
      return .char c :: ps
    | .malformed length fault =>
      match (encodedSurrogate? (b :: rest)).filter fun _ => mode.takesSurrogates with
      | some n => do
        let ps ← decodeUtf8 mode (offset + 3) (rest.drop 2)
        return .surrogate n :: ps
      | none => .error ⟨"utf-8", offset, length, b, fault⟩
    | .incomplete length =>
      if mode.dropsTail then .ok []
      else .error ⟨"utf-8", offset, length, b, .unexpectedEnd⟩
  termination_by bytes => bytes.length
  decreasing_by all_goals (simp only [List.length_drop, List.length_cons]; omega)

/-- Reads UTF-8 and writes `escape b` for every byte of a malformed stretch. -/
def decodeUtf8Escaping (escape : UInt8 → List Char) : List UInt8 → List Char
  | [] => []
  | b :: rest =>
    match head b rest with
    | .scalar c size => c :: decodeUtf8Escaping escape (rest.drop (size - 1))
    | .malformed length _ =>
      (b :: rest.take (length - 1)).flatMap escape ++
        decodeUtf8Escaping escape (rest.drop (length - 1))
    | .incomplete _ => (b :: rest).flatMap escape
  termination_by bytes => bytes.length
  decreasing_by all_goals (simp only [List.length_drop, List.length_cons]; omega)

/-- The UTF-8 bytes of a text. -/
def encodeUtf8 (cs : List Char) : List UInt8 := cs.flatMap String.utf8EncodeChar

/-! ### UTF-16 and UTF-32 -/

/-- The order of the bytes of a unit. -/
inductive ByteOrder where
  | big
  | little
  deriving DecidableEq, Repr

/-- The number that bytes stand for in an order. -/
def ByteOrder.read (order : ByteOrder) (bytes : List UInt8) : Nat :=
  let inOrder := match order with
    | .big => bytes
    | .little => bytes.reverse
  inOrder.foldl (fun n b => n * 256 + b.toNat) 0

/-- The ending of an encoding's name that tells its byte order. -/
def ByteOrder.ending : ByteOrder → String
  | .big => "-be"
  | .little => "-le"

/-- How strictly UTF-16 and UTF-32 are read. -/
inductive UnitMode where
  /-- A surrogate without a partner is taken as it is. -/
  | lenient
  /-- A surrogate without a partner is malformed, but a first half at the very end is left out. -/
  | strict
  deriving DecidableEq, Repr

/-- Joins the units of UTF-16 into code points; `offset` bytes stand before these. A unit at fault
is told by its place. -/
def joinUnits (mode : UnitMode) (offset : Nat) :
    List Nat → Except (Nat × EncodingFault) (List CodePoint)
  | [] => .ok []
  | [u] =>
    if mode = .lenient || !CodePoint.isSurrogate u then .ok [.ofNat u]
    else if u ≤ 0xDBFF then .ok []
    else .error (offset, .illegalEncoding)
  | u :: v :: rest =>
    match joinSurrogates? u v with
    | some n => do
      let ps ← joinUnits mode (offset + 4) rest
      return .char (Char.ofNat n) :: ps
    | none =>
      if mode = .lenient || !CodePoint.isSurrogate u then do
        let ps ← joinUnits mode (offset + 2) (v :: rest)
        return .ofNat u :: ps
      else .error (offset, if u ≤ 0xDBFF then .illegalSurrogate else .illegalEncoding)

/-- Reads UTF-16; `offset` bytes stand before these. -/
def decodeUtf16 (mode : UnitMode) (order : ByteOrder) (offset : Nat) (bytes : List UInt8) :
    Except Malformed (List CodePoint) :=
  let encoding := "utf-16" ++ order.ending
  let rec units (offset : Nat) : List UInt8 → Except Malformed (List Nat)
    | [] => .ok []
    | [b] => .error ⟨encoding, offset, 1, b, .truncated⟩
    | a :: b :: rest => do
      let us ← units (offset + 2) rest
      return order.read [a, b] :: us
  do
    let us ← units offset bytes
    (joinUnits mode offset us).mapError fun (place, fault) =>
      ⟨encoding, place, 2, bytes.getD (place - offset) 0, fault⟩

/-- Reads UTF-32; `offset` bytes stand before these. -/
def decodeUtf32 (mode : UnitMode) (order : ByteOrder) (offset : Nat) :
    List UInt8 → Except Malformed (List CodePoint)
  | [] => .ok []
  | a :: b :: c :: d :: rest => do
    let n := order.read [a, b, c, d]
    if 0x110000 ≤ n then .error ⟨"utf-32" ++ order.ending, offset, 4, a, .outOfRange⟩
    else if mode = .strict && CodePoint.isSurrogate n then
      .error ⟨"utf-32" ++ order.ending, offset, 4, a, .surrogateRange⟩
    else
      let ps ← decodeUtf32 mode order (offset + 4) rest
      return .ofNat n :: ps
  | a :: rest => .error ⟨"utf-32" ++ order.ending, offset, rest.length + 1, a, .truncated⟩

/-! ### One byte a character -/

/-- Reads ASCII; `offset` bytes stand before these. -/
def decodeAscii (offset : Nat) : List UInt8 → Except Malformed (List Char)
  | [] => .ok []
  | b :: rest =>
    if b < 0x80 then do
      let cs ← decodeAscii (offset + 1) rest
      return Char.ofNat b.toNat :: cs
    else .error ⟨"ascii", offset, 1, b, .notAscii⟩

/-- Reads Latin-1, where a byte is the character of its number. -/
def decodeLatin1 (bytes : List UInt8) : List Char := bytes.map fun b => Char.ofNat b.toNat

end WorkspaceHome.Text
