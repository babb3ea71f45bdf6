import WorkspaceHome.Json.Basic
import WorkspaceHome.Number.Shortest
import WorkspaceHome.Text.Quoted

/-!
# Writing JSON values

A value has two written forms. `Json.write` is JSON text in ASCII: all other characters are written
as code escapes, a character beyond the first plane as two of them. `Json.display` is the form shown
to people, in which a text stands as it is, and the texts inside a list or an object are quoted.

Numbers are written alike in both: a binary number by the shortest decimal that reads back, in
positional form from `0.0001` up to sixteen digits before the point.
-/

namespace WorkspaceHome.Json

/-! ### Numbers -/

/-- How numbers are laid out inside JSON text. -/
def textLayout : Binary64.Layout := ⟨-3, 16, true, 2, "Infinity", "NaN"⟩

/-- How numbers are laid out when they are shown. -/
def shownLayout : Binary64.Layout := ⟨-3, 16, true, 2, "inf", "nan"⟩

/-! ### JSON text -/

/-- The code escape of a 16-bit unit. -/
def codeEscape (unit : Nat) : List Char := '\\' :: 'u' :: Text.hex 4 unit

/-- A code point inside a written text. -/
def writeCode (code : Nat) : List Char :=
  if code == '"'.toNat then ['\\', '"']
  else if code == '\\'.toNat then ['\\', '\\']
  else if code == '\n'.toNat then ['\\', 'n']
  else if code == '\r'.toNat then ['\\', 'r']
  else if code == '\t'.toNat then ['\\', 't']
  else if code == 0x8 then ['\\', 'b']
  else if code == 0xC then ['\\', 'f']
  else if 0x20 ≤ code && code < 0x7F then [Char.ofNat code]
  else if code < 0x10000 then codeEscape code
  else
    codeEscape (0xD800 + (code - 0x10000) / 0x400) ++ codeEscape (0xDC00 + (code - 0x10000) % 0x400)

/-- A text between double quotes. -/
def writeText (codes : List Nat) : String :=
  "\"" ++ String.ofList (codes.flatMap writeCode) ++ "\""

mutual

/-- A value as JSON text. -/
def write : Json → String
  | .null => "null"
  | .bool b => if b then "true" else "false"
  | .int n => toString n
  | .float x => x.write textLayout
  | .text s => writeText (s.toList.map Char.toNat)
  | .torn codes => writeText codes
  | .list items => "[" ++ ", ".intercalate (writeItems items) ++ "]"
  | .object members => "\x7b" ++ ", ".intercalate (writeMembers members) ++ "\x7d"

/-- The items of a list as JSON texts. -/
def writeItems : List Json → List String
  | [] => []
  | v :: rest => write v :: writeItems rest

/-- The members of an object as JSON texts. -/
def writeMembers : List (String × Json) → List String
  | [] => []
  | (k, v) :: rest => (writeText (codesOfKey k) ++ ": " ++ write v) :: writeMembers rest

end

/-! ### Shown form -/

/-- Code points between quotes; a surrogate without a partner is written as an escape. -/
def quotedCodes (codes : List Nat) : String :=
  let quote := if codes.contains '\''.toNat && !codes.contains '"'.toNat then '"' else '\''
  let body := codes.flatMap fun n =>
    if isScalar n then Text.escaped quote (Char.ofNat n) else codeEscape n
  String.ofList (quote :: body ++ [quote])

mutual

/-- A value as it is shown inside a list or an object. -/
def shown : Json → String
  | .null => "None"
  | .bool b => if b then "True" else "False"
  | .int n => toString n
  | .float x => x.write shownLayout
  | .text s => Text.quoted s
  | .torn codes => quotedCodes codes
  | .list items => "[" ++ ", ".intercalate (shownItems items) ++ "]"
  | .object members => "\x7b" ++ ", ".intercalate (shownMembers members) ++ "\x7d"

/-- The items of a list as they are shown. -/
def shownItems : List Json → List String
  | [] => []
  | v :: rest => shown v :: shownItems rest

/-- The members of an object as they are shown. -/
def shownMembers : List (String × Json) → List String
  | [] => []
  | (k, v) :: rest => (quotedCodes (codesOfKey k) ++ ": " ++ shown v) :: shownMembers rest

end

/-- A value as it is shown by itself, as a text: a text is its own shown form. -/
def displayText : Json → Json
  | .text s => .text s
  | .torn codes => .torn codes
  | v => .text v.shown

/-- The characters of a value as it is shown by itself. -/
def display (v : Json) : String :=
  match v with
  | .text s => s
  | .torn codes => String.ofList (codes.map fun n => if isScalar n then Char.ofNat n else '\uFFFD')
  | v => v.shown

end WorkspaceHome.Json
