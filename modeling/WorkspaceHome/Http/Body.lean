import WorkspaceHome.Http.MediaType
import WorkspaceHome.Http.Message
import WorkspaceHome.Http.Problem
import WorkspaceHome.Json.Bytes

/-!
# Bodies of requests

A body is a JSON text in the encoding that its media type names, UTF-8 if it names none that is
known here. The encodings known here are those of Unicode, Latin-1 and ASCII; national ones are left
out. Non-finite numbers are refused. A request without a body counts as one with an empty object.

`nameOf` takes the name of a new workspace out of a body: a text or a number, without the blanks at
its ends, of at most 255 characters. All that is wrong with it is told at once.
-/

namespace WorkspaceHome.Http

open Text

/-! ### Reading -/

/-- How a body is encoded. A byte order that is not given has to be told by a mark. -/
inductive BodyEncoding where
  | utf8 (skipsMark : Bool)
  | utf16 (order : Option ByteOrder)
  | utf32 (order : Option ByteOrder)
  | latin1
  | ascii
  deriving DecidableEq, Repr

namespace BodyEncoding

/-- The names of encodings other than UTF-8. -/
def names : List (BodyEncoding × List String) :=
  [(.utf8 true, ["utf-8-sig"]),
    (.utf16 none, ["utf-16", "utf16", "u16"]),
    (.utf16 (some .little), ["utf-16-le", "utf-16le", "unicodelittleunmarked"]),
    (.utf16 (some .big), ["utf-16-be", "utf-16be", "unicodebigunmarked"]),
    (.utf32 none, ["utf-32", "utf32", "u32"]),
    (.utf32 (some .little), ["utf-32-le", "utf-32le"]),
    (.utf32 (some .big), ["utf-32-be", "utf-32be"]),
    (.latin1, ["latin-1", "latin1", "latin", "l1", "iso-8859-1", "iso8859-1", "8859", "cp819",
      "iso8859", "ibm819", "csisolatin1", "iso-ir-100", "iso-8859-1-1987"]),
    (.ascii, ["ascii", "us-ascii", "646", "us", "cp367", "ibm367", "csascii", "iso646-us",
      "iso-ir-6", "ansi-x3.4-1968", "ansi-x3-4-1968", "ansi-x3.4-1986", "iso-646.irv-1991"])]

/-- The parts of a name between which there is neither a letter nor a digit nor a point. -/
def nameParts (name : String) : List (List Char) :=
  let plain := name.toList.map fun c => if c.isAlphanum || c == '.' then c.toLower else ' '
  (Url.splitAt ' ' plain).filter (!·.isEmpty)

/-- The encoding of a name, whatever stands between its parts. One that is not among the names
counts as UTF-8, also where it is that of an encoding left out here. -/
def named (name : String) : BodyEncoding :=
  let plain := String.ofList (['-'].intercalate (nameParts name))
  ((names.find? fun (_, words) => words.contains plain).map Prod.fst).getD (.utf8 false)

/-- The bytes of whole units of a size. -/
def wholeUnits (size : Nat) (bytes : List UInt8) : List UInt8 :=
  bytes.take (bytes.length / size * size)

/-- Reads units whose byte order is told by one of two marks. Without a mark they are read all the
same, and only then it is told that there is none. -/
def decodeMarked (name : String) (big little : List UInt8)
    (read : ByteOrder → Nat → List UInt8 → Except Malformed (List CodePoint))
    (bytes : List UInt8) : Except String (List CodePoint) :=
  let after (order : ByteOrder) (mark : List UInt8) : Except String (List CodePoint) :=
    (read order mark.length (bytes.drop mark.length)).mapError Malformed.report
  if bytes.take big.length = big then after .big big
  else if bytes.take little.length = little then after .little little
  else match read .little 0 bytes with
    | .error malformed => .error malformed.report
    | .ok [] => .ok []
    | .ok _ => .error (name ++ " stream does not start with BOM")

/-- Reads bytes in an encoding, strictly. An incomplete character at the end is left out. -/
def decode (bytes : List UInt8) : BodyEncoding → Except String (List CodePoint)
  | .utf8 skipsMark =>
    let isMarked := skipsMark && bytes.take 3 == [0xEF, 0xBB, 0xBF]
    (decodeUtf8 ⟨false, true⟩ 0 (if isMarked then bytes.drop 3 else bytes)).mapError
      Malformed.report
  | .utf16 (some order) =>
    (decodeUtf16 .strict order 0 (wholeUnits 2 bytes)).mapError Malformed.report
  | .utf16 none =>
    decodeMarked "UTF-16" [0xFE, 0xFF] [0xFF, 0xFE] (decodeUtf16 .strict) (wholeUnits 2 bytes)
  | .utf32 (some order) =>
    (decodeUtf32 .strict order 0 (wholeUnits 4 bytes)).mapError Malformed.report
  | .utf32 none =>
    decodeMarked "UTF-32" [0, 0, 0xFE, 0xFF] [0xFF, 0xFE, 0, 0] (decodeUtf32 .strict)
      (wholeUnits 4 bytes)
  | .latin1 => .ok (decodeLatin1 bytes)
  | .ascii => do
    let cs ← (decodeAscii 0 bytes).mapError Malformed.report
    return cs

end BodyEncoding

/-- The trouble of a body that is no JSON. -/
def unreadable (message : String) : Trouble :=
  .problem (.saying .malformed ("JSON parse error - " ++ message))

/-- The trouble of a body that cannot be read. -/
def troubleOf : Json.ReadError → Trouble
  | .invalid message => unreadable message
  | .tooDeep => .failure .tooDeep

/-- The value of the body of a request. -/
def Request.data (r : Request) : Except Trouble Json :=
  if r.body.isEmpty then .ok (.object [])
  else
    let mediaType := MediaType.read r.contentType
    if mediaType.takesJson then
      let encoding := BodyEncoding.named ((mediaType.parameter "charset").getD "utf-8")
      match encoding.decode r.body with
      | .error message => .error (unreadable message)
      | .ok ps => (Json.read ⟨false, true⟩ ps).mapError troubleOf
    else .error (.problem (.unsupportedMediaType r.contentType))

/-! ### The name of a new workspace -/

/-- The greatest number of characters of a name. -/
def nameLimit : Nat := 255

/-- The code points of a text or a number as a name; other values are none. -/
def nameCodes? : Json → Option (List Nat)
  | .text s => some (s.toList.map Char.toNat)
  | .torn codes => some codes
  | .int n => some ((toString n).toList.map Char.toNat)
  | .float x => some ((x.write Json.shownLayout).toList.map Char.toNat)
  | _ => none

/-- Whether a code point is a blank. -/
def isBlankCode (n : Nat) : Bool := Json.isScalar n && isBlank (Char.ofNat n)

/-- Drops the blanks at both ends. -/
def stripCodes (codes : List Nat) : List Nat :=
  ((codes.dropWhile isBlankCode).reverse.dropWhile isBlankCode).reverse

/-- What is wrong with the code points of a name. -/
def faultsOfName (codes : List Nat) : List String :=
  let tooLong := nameLimit < codes.length
  let surrogate := codes.find? fun n => !Json.isScalar n
  (if tooLong then
      ["Ensure this field has no more than " ++ toString nameLimit ++ " characters."] else []) ++
    (if codes.contains 0 then ["Null characters are not allowed."] else []) ++
    (match surrogate with
      | some n =>
        ["Surrogate characters are not allowed: U+" ++
          (String.ofList (hex 4 n)).map Char.toUpper ++ "."]
      | none => [])

/-- The name that a value stands for, or what is wrong with it. -/
def nameOfValue (value : Option Json) : Except (List String) String :=
  match value with
  | none => .error ["This field is required."]
  | some .null => .error ["This field may not be null."]
  | some v =>
    match nameCodes? v with
    | none => .error ["Not a valid string."]
    | some codes =>
      let codes := stripCodes codes
      if codes.isEmpty then .error ["This field may not be blank."]
      else match faultsOfName codes with
        | [] => .ok (String.ofList (codes.map Char.ofNat))
        | faults => .error faults

/-- The trouble of a field of which there are details to tell. -/
def fieldTrouble (field : String) (details : List String) : Trouble :=
  .problem (.of .invalid (some (.object [(field, .list (details.map Json.text))])))

/-- The word for the kind of a value. -/
def kindWord : Json → String
  | .null => "NoneType"
  | .bool _ => "bool"
  | .int _ => "int"
  | .float _ => "float"
  | .text _ | .torn _ => "str"
  | .list _ => "list"
  | .object _ => "dict"

/-- The name of the workspace that a body asks for. -/
def nameOf (body : Json) : Except Trouble String :=
  match body with
  | .object members => (nameOfValue (Json.lookup "name" members)).mapError (fieldTrouble "name")
  | .null => .error (fieldTrouble "non_field_errors" ["No data provided"])
  | v =>
    .error (fieldTrouble "non_field_errors"
      ["Invalid data. Expected a dictionary, but got " ++ kindWord v ++ "."])

end WorkspaceHome.Http
