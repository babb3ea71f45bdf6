import WorkspaceHome.Json.Reader
import WorkspaceHome.Text.Utf8

/-!
# JSON texts as bytes

A JSON text comes in one of five encodings. A byte order mark tells which; without one, the places
of the zero bytes among the first four do, since a text begins with two ASCII characters. In each of
them a surrogate may be encoded like a character; it is read as it is.
-/

namespace WorkspaceHome.Json

open Text

/-- An encoding, and the number of bytes that its mark takes. -/
inductive Encoding where
  | utf8 (mark : Nat)
  | utf16 (order : ByteOrder) (mark : Nat)
  | utf32 (order : ByteOrder) (mark : Nat)
  deriving DecidableEq, Repr

/-- The marks, the longer ones first. -/
def marks : List (List UInt8 × Encoding) :=
  [([0, 0, 0xFE, 0xFF], .utf32 .big 4), ([0xFF, 0xFE, 0, 0], .utf32 .little 4),
    ([0xFE, 0xFF], .utf16 .big 2), ([0xFF, 0xFE], .utf16 .little 2),
    ([0xEF, 0xBB, 0xBF], .utf8 3)]

/-- The encoding that the zero bytes at the start of a text give away. -/
def encodingOfZeros : List UInt8 → Encoding
  | 0 :: b :: _ :: _ :: _ => if b = 0 then .utf32 .big 0 else .utf16 .big 0
  | _ :: 0 :: c :: d :: _ => if c = 0 ∧ d = 0 then .utf32 .little 0 else .utf16 .little 0
  | [0, _] => .utf16 .big 0
  | [_, 0] => .utf16 .little 0
  | _ => .utf8 0

/-- The encoding of a text. -/
def encodingOf (bytes : List UInt8) : Encoding :=
  match marks.find? fun (mark, _) => bytes.take mark.length == mark with
  | some (_, encoding) => encoding
  | none => encodingOfZeros bytes

/-- Reads bytes in an encoding. Places are counted from the mark on in UTF-8, and from the start
otherwise. -/
def Encoding.decode (bytes : List UInt8) : Encoding → Except Malformed (List CodePoint)
  | .utf8 mark => decodeUtf8 ⟨true, false⟩ 0 (bytes.drop mark)
  | .utf16 order mark => decodeUtf16 .lenient order mark (bytes.drop mark)
  | .utf32 order mark => decodeUtf32 .lenient order mark (bytes.drop mark)

/-- Reads a text that is one value. -/
def readBytes (bytes : List UInt8) : Except ReadError Json := do
  let ps ← ((encodingOf bytes).decode bytes).mapError fun m => .invalid m.report
  read ⟨true, false⟩ ps

end WorkspaceHome.Json
