import WorkspaceHome.Text.Digit
import WorkspaceHome.Url.Basic

/-!
# Media types

A media type is two words with a slash between them, and parameters after semicolons. A star stands
for any word. The value of a parameter may stand between quotes, in which a semicolon is a character
like any other. A parameter whose name ends with a star is not decoded. The service reads and writes
JSON only.
-/

namespace WorkspaceHome.Http

/-- A media type: its words and its parameters. -/
structure MediaType where
  main : String
  sub : String
  parameters : List (String × String)
  deriving DecidableEq, Repr

namespace MediaType

/-- A text without the blanks at its ends, and in small letters. -/
def lowered (cs : List Char) : String := String.ofList ((Text.strip cs).map Char.toLower)

/-- How many quotes a text holds, but for those after a backslash. -/
def quotes : List Char → Nat
  | '\\' :: '"' :: rest => quotes rest
  | '"' :: rest => quotes rest + 1
  | _ :: rest => quotes rest
  | [] => 0

/-- Puts pieces together that were parted at a semicolon between quotes. -/
def joinQuoted : List (List Char) → List (List Char)
  | piece :: next :: rest =>
    if quotes piece % 2 = 1 then joinQuoted ((piece ++ ';' :: next) :: rest)
    else piece :: joinQuoted (next :: rest)
  | pieces => pieces
  termination_by pieces => pieces.length

/-- Replaces a pair of characters by one character. -/
def replacePair (first second plain : Char) : List Char → List Char
  | a :: b :: rest =>
    if a = first ∧ b = second then plain :: replacePair first second plain rest
    else a :: replacePair first second plain (b :: rest)
  | cs => cs

/-- A text without the quotes around it, and without the backslashes that stand for no others. -/
def unquoted (cs : List Char) : String :=
  match cs, cs.getLast? with
  | '"' :: rest@(_ :: _), some '"' =>
    String.ofList (replacePair '\\' '"' '"' (replacePair '\\' '\\' '\\' rest.dropLast))
  | cs, _ => String.ofList cs

/-- Reads a parameter; one without an equals sign is none. -/
def parameter? (cs : List Char) : Option (String × String) :=
  match Url.cut? '=' cs with
  | (name, some value) => some (lowered name, unquoted (Text.strip value))
  | _ => none

/-- Reads a media type. -/
def read (s : String) : MediaType :=
  let parts := joinQuoted (Url.splitAt ';' s.toList)
  let (main, sub) := Url.cut? '/' (lowered (parts.headD [])).toList
  ⟨String.ofList main, String.ofList (sub.getD []), (parts.drop 1).filterMap parameter?⟩

/-- Whether two words agree. -/
def agree (a b : String) : Bool := a == "*" || b == "*" || a == b

/-- Whether a media type takes in JSON. -/
def takesJson (m : MediaType) : Bool := agree m.main "application" && agree m.sub "json"

/-- The last value of a parameter. -/
def parameter (m : MediaType) (name : String) : Option String :=
  (m.parameters.reverse.find? fun (n, _) => n == name).map Prod.snd

end MediaType

/-- Whether an `Accept` header takes in JSON; without a header everything is taken. -/
def acceptsJson (accept : Option String) : Bool :=
  match accept with
  | none => true
  | some value =>
    (Url.splitAt ',' value.toList).any fun token => (MediaType.read (String.ofList token)).takesJson

end WorkspaceHome.Http
