import WorkspaceHome.Text.Percent
import WorkspaceHome.Url.Basic

/-!
# Targets of requests

A target is a path and a query. The path is read from its percent form; bytes that are no text stay
in percent form. It is written back with only those characters in percent form that need it, so a
target that was written in another way is brought into one form.
-/

namespace WorkspaceHome.Http

open Text

/-- A target: its path as text, and its query as it was given. -/
structure Target where
  path : String
  query : String
  deriving DecidableEq, Repr

namespace Target

/-- Whether a character may stand in a written path. -/
def isPathChar : Char → Bool := Percent.isUnreservedOr "/:@&+$,!*'()"

/-- Whether a character may stand in a written query. -/
def isQueryChar : Char → Bool := Percent.isUnreservedOr "/#%[]=:;$&()+,!?*@'"

/-- The text of a path in percent form. -/
def decodePath (cs : List Char) : String :=
  String.ofList (decodeUtf8Escaping Percent.escapeByte (Percent.decode cs))

/-- A target without what is skipped in it: blanks and control characters at its start, and tabs
and line ends anywhere. -/
def trimmed (cs : List Char) : List Char :=
  (cs.dropWhile fun c => c.toNat ≤ 0x20).filter fun c => c != '\t' && c != '\n' && c != '\r'

/-- Reads a target. An empty path is the one of the root. In a target an empty scheme is none. -/
def read (s : String) : Target :=
  let cs := trimmed s.toList
  let (scheme, rest) := Url.splitScheme cs
  let parts := Url.splitRest scheme (if scheme.isEmpty then cs else rest)
  let path := decodePath parts.path
  ⟨if path = "" then "/" else path, String.ofList (parts.query.getD [])⟩

/-- A query as it is written: byte by byte. -/
def writtenQuery (query : String) : String :=
  let bytes := (encodeUtf8 query.toList).map fun b => Char.ofNat b.toNat
  if query = "" then "" else "?" ++ String.ofList (Percent.encode isQueryChar bytes)

/-- A path as it is written: its first slash stands at the start, wherever it was. -/
def writtenPath (path : String) : String :=
  String.ofList (Percent.encode isPathChar ('/' :: path.toList.erase '/'))

/-- A target as it is written, with a slash after its path or without. -/
def write (t : Target) (closed : Bool) : String :=
  writtenPath t.path ++ (if closed then "/" else "") ++ writtenQuery t.query

/-- The text of a name or a value in a query. -/
def decodeField (cs : List Char) : String :=
  let spaced := cs.map fun c => if c == '+' then ' ' else c
  String.ofList (decodeUtf8Escaping (fun _ => [replacement]) (Percent.decode spaced))

/-- The last value of a name in a query. -/
def field? (t : Target) (name : String) : Option String :=
  let pairs := (Url.splitAt '&' t.query.toList).map fun part =>
    let (key, value) := Url.cut? '=' part
    (decodeField key, decodeField (value.getD []))
  (pairs.reverse.find? fun (key, _) => key == name).map Prod.snd

end Target

end WorkspaceHome.Http
