import WorkspaceHome.Number.Numeral
import WorkspaceHome.Text.Percent
import WorkspaceHome.Url.Defect
import WorkspaceHome.Url.Label

/-!
# Addresses

An address has a scheme, an authority (whom to ask, and at which host and port), a path, a query and
a fragment. `Url.read` takes an address apart and brings each part into its written form: scheme and
host in small letters, the usual port of a scheme left out, `.` and `..` resolved, and every
character that may not stand in a part written in percent form.

`Url.withQuery` is the address that is asked, and `Url.follow` the one to which an answer refers
from there.
-/

namespace WorkspaceHome

/-- An address, its parts in their written form. -/
structure Url where
  scheme : String
  userinfo : String
  host : String
  port : Option Int
  path : String
  query : Option String
  fragment : Option String
  deriving DecidableEq, Repr

namespace Url

/-! ### Taking apart -/

/-- The parts of an address as they were given. -/
structure Parts where
  scheme : List Char
  authority : List Char
  path : List Char
  query : Option (List Char)
  fragment : Option (List Char)

/-- The greatest length of an address and of each of its parts. -/
def lengthLimit : Nat := 65536

/-- Checks that an address, or a part of one, is short enough and free of control characters. -/
def check (part : Option String) (cs : List Char) : Except Defect Unit :=
  let isControl (c : Char) : Bool := c.toNat < 0x20 || c.toNat == 0x7F
  if lengthLimit < cs.length then .error (.tooLong part)
  else match cs.find? isControl with
    | some c => .error (.unprintable part c (cs.findIdx isControl))
    | none => .ok ()

/-- Splits off the scheme: a letter, then letters, digits and three marks, up to a colon. A colon at
the very start ends an empty scheme. -/
def splitScheme (cs : List Char) : List Char × List Char :=
  let isPart (c : Char) : Bool := c.isAlphanum || c == '+' || c == '.' || c == '-'
  let scheme := cs.takeWhile isPart
  match cs.drop scheme.length with
  | ':' :: rest => if scheme.head?.all Char.isAlpha then (scheme, rest) else ([], cs)
  | _ => ([], cs)

/-- Splits at the first occurrence of a character; the second part starts after it. -/
def cut? (mark : Char) (cs : List Char) : List Char × Option (List Char) :=
  match cs.dropWhile (· != mark) with
  | [] => (cs, none)
  | _ :: rest => (cs.takeWhile (· != mark), some rest)

/-- Takes apart what follows a scheme. -/
def splitRest (scheme rest : List Char) : Parts :=
  let (rest, fragment) := cut? '#' rest
  let (rest, query) := cut? '?' rest
  match rest with
  | '/' :: '/' :: rest =>
    { scheme, authority := rest.takeWhile (· != '/'), path := rest.dropWhile (· != '/'), query
      fragment }
  | path => { scheme, authority := [], path, query, fragment }

/-- Takes an address apart. -/
def split (cs : List Char) : Parts :=
  let (scheme, rest) := splitScheme cs
  splitRest scheme rest

/-- Takes an authority apart into user information, host and port. -/
def splitAuthority (cs : List Char) : List Char × List Char × List Char :=
  let back := cs.reverse
  let (userinfo, rest) :=
    if cs.contains '@' then
      ((back.dropWhile (· != '@')).drop 1 |>.reverse, (back.takeWhile (· != '@')).reverse)
    else ([], cs)
  let bracketed := (rest.reverse.dropWhile (· != ']')).reverse
  let host := if rest.head? == some '[' && !bracketed.isEmpty then bracketed
    else rest.takeWhile (· != ':')
  match rest.drop host.length with
  | ':' :: port => (userinfo, host, port)
  | port => (userinfo, host, port)

/-! ### Written forms of the parts -/

/-- Whether a character may stand in a query. -/
def isQueryChar : Char → Bool := Text.Percent.isVisibleExcept " \"#<>"

/-- Whether a character may stand in a path. -/
def isPathChar : Char → Bool := Text.Percent.isVisibleExcept " \"#<>?\x60\x7b\x7d"

/-- Whether a character may stand in a fragment. -/
def isFragmentChar : Char → Bool := Text.Percent.isVisibleExcept " \"<>\x60"

/-- Whether a character may stand in user information. -/
def isUserinfoChar : Char → Bool :=
  Text.Percent.isVisibleExcept " \"#<>?\x60\x7b\x7d/;=@[\\]^|"

/-- Whether a character may stand in the name of a host. -/
def isHostChar : Char → Bool := Text.Percent.isUnreservedOr "!$&'()*+,;=\"\x60\x7b\x7d%|\\"

/-- A part in its written form. -/
def encode (safe : Char → Bool) (cs : List Char) : String :=
  String.ofList (Text.Percent.encode safe cs)

/-- The written form of a host: a numeric address as it is, a name in small letters and in ASCII. -/
def hostOf (cs : List Char) : Except Defect String :=
  let given := String.ofList cs
  if cs.isEmpty then .ok ""
  else if looksNumeric 3 false cs then
    if isIpv4 cs then .ok given else .error (.notIpv4 given)
  else if cs.head? == some '[' && cs.getLast? == some ']' then
    let inner := (cs.drop 1).dropLast
    if isIpv6 inner then .ok (String.ofList inner) else .error (.notIpv6 given)
  else if cs.all fun c => c.toNat < 128 then .ok (encode isHostChar (cs.flatMap lowered))
  else match asciiHost? (cs.flatMap lowered) with
    | some name => .ok (String.ofList name)
    | none => .error (.notHostName given)

/-- The usual port of a scheme. -/
def usualPort? : String → Option Int
  | "ftp" => some 21
  | "http" | "ws" => some 80
  | "https" | "wss" => some 443
  | _ => none

/-- The port of an authority, unless it is the usual one of a scheme. -/
def portOf (scheme : String) (cs : List Char) : Except Defect (Option Int) :=
  if cs.isEmpty then .ok none
  else match Numeral.int? (String.ofList cs) with
    | some n => .ok (if usualPort? scheme = some n then none else some n)
    | none => .error (.notPort (String.ofList cs))

/-- Resolves `.` and `..` among the steps of a path; `done` are the steps so far, the last one
first. -/
def resolveSteps (done : List (List Char)) : List (List Char) → List (List Char)
  | [] => done.reverse
  | ['.'] :: rest => resolveSteps done rest
  | ['.', '.'] :: rest => resolveSteps (if done == [[]] then done else done.drop 1) rest
  | step :: rest => resolveSteps (step :: done) rest

/-- A path without `.` and `..`. -/
def resolve (path : List Char) : List Char :=
  ['/'].intercalate (resolveSteps [] (splitAt '/' path))

/-- The address with given parts. After an authority a path has to start with a slash; without one
and without a scheme it must not look like one. -/
def ofParts (p : Parts) : Except Defect Url := do
  let (userinfo, host, port) := splitAuthority p.authority
  let scheme := String.ofList (p.scheme.map Char.toLower)
  let host ← hostOf host
  let port ← portOf (String.ofList p.scheme) port
  let userinfo := encode isUserinfoChar userinfo
  let hasAuthority := userinfo != "" || host != "" || port.isSome
  if hasAuthority && !p.path.isEmpty && p.path.head? != some '/' then throw .pathWithoutSlash
  if !hasAuthority && scheme == "" then
    if p.path.take 2 == ['/', '/'] then throw .pathWithSlashes
    if p.path.head? == some ':' then throw .pathWithColon
  let path := if hasAuthority || scheme != "" then resolve p.path else p.path
  return ⟨scheme, userinfo, host, port, encode isPathChar path, p.query.map (encode isQueryChar),
    p.fragment.map (encode isFragmentChar)⟩

/-- Reads an address. -/
def read (s : String) : Except Defect Url := do
  check none s.toList
  ofParts (split s.toList)

/-! ### Writing and changing -/

/-- Who is asked, at which host and port. -/
def authority (u : Url) : String :=
  (if u.userinfo = "" then "" else u.userinfo ++ "@") ++
    (if u.host.toList.contains ':' then "[" ++ u.host ++ "]" else u.host) ++
    (match u.port with
      | some n => ":" ++ toString n
      | none => "")

/-- A part that may be missing, after the mark that stands before it. -/
def marked (mark : String) (part : Option String) : String :=
  match part with
  | some s => mark ++ s
  | none => ""

/-- An address as a text. -/
def write (u : Url) : String :=
  (if u.scheme = "" then "" else u.scheme ++ ":") ++
    (if u.authority = "" then "" else "//" ++ u.authority) ++ u.path ++ marked "?" u.query ++
    marked "#" u.fragment

/-- Whether an address tells by which scheme and at which host. -/
def isAbsolute (u : Url) : Bool := u.scheme != "" && u.host != ""

/-- The parts of an address, to be read once more. -/
def parts (u : Url) : Parts :=
  ⟨u.scheme.toList, u.authority.toList, u.path.toList, u.query.map String.toList,
    u.fragment.map String.toList⟩

/-- The address with given parts, each of which is checked first. -/
def ofChecked (p : Parts) : Except Defect Url := do
  check "scheme" p.scheme
  check "authority" p.authority
  check "path" p.path
  check "query" (p.query.getD [])
  check "fragment" (p.fragment.getD [])
  ofParts p

/-- The address that is asked for a resource with a query. An address that is not absolute counts
only by its path, from the root. -/
def withQuery (u : Url) (query : String) : Except Defect Url := do
  let rooted : Parts := ⟨[], [], '/' :: u.path.toList.dropWhile (· == '/'), none, none⟩
  let base ← if u.isAbsolute then .ok u else ofParts rooted
  ofChecked { base.parts with query := some query.toList }

/-! ### Following a reference -/

/-- The schemes whose addresses can be referred to by a part of them. -/
def hierarchicalSchemes : List String :=
  ["ftp", "http", "gopher", "nntp", "imap", "wais", "file", "https", "shttp", "mms", "prospero",
    "rtsp", "rtspu", "sftp", "svn", "svn+ssh", "ws", "wss"]

/-- The steps of a path that starts at another one. The last step of the other one is left, and
empty steps in between are passed over. -/
def joinSteps (base path : List (List Char)) : List (List Char) :=
  let kept := if base.getLast? == some [] then base else base.dropLast
  match kept ++ path with
  | [] => []
  | first :: rest => first :: (rest.dropLast.filter (!·.isEmpty)) ++ rest.getLast?.toList

/-- Takes the steps of a path one after another, where `..` goes back by one step if there is one;
`done` are the steps so far, the last one first. -/
def takeSteps (done : List (List Char)) : List (List Char) → List (List Char)
  | [] => done.reverse
  | ['.'] :: rest => takeSteps (if rest.isEmpty then [] :: done else done) rest
  | ['.', '.'] :: rest =>
    takeSteps (if rest.isEmpty then [] :: done.drop 1 else done.drop 1) rest
  | step :: rest => takeSteps (step :: done) rest

/-- The path to which a path refers from another one. -/
def joinPath (base path : List Char) : List Char :=
  let steps := splitAt '/' path
  let steps := if path.head? == some '/' then steps else joinSteps (splitAt '/' base) steps
  match ['/'].intercalate (takeSteps [] steps) with
  | '/' :: rest => '/' :: rest
  | path => '/' :: path

/-- The address to which a reference without a scheme refers from another address. -/
def join (base ref : Url) : Except Defect Url :=
  let joined : Url :=
    if ref.write = "" then base
    else if !hierarchicalSchemes.contains base.scheme then ref
    else if ref.authority != "" then { ref with scheme := base.scheme }
    else if ref.path = "" then
      { base with query := if ref.query.getD "" = "" then base.query else ref.query
                  fragment := ref.fragment }
    else
      { base with path := String.ofList (joinPath base.path.toList ref.path.toList)
                  query := ref.query
                  fragment := ref.fragment }
  read joined.write

/-- A fragment with the characters that its percent signs stand for. -/
def plainFragment (u : Url) : List Char :=
  Text.decodeUtf8Escaping (fun _ => [Text.replacement])
    (Text.Percent.decode (u.fragment.getD "").toList)

/-- The address to which another one refers from the address that was asked. One that has a scheme
but no host is at the same host; a fragment stays if the other address has none. -/
def follow (asked target : Url) : Except Defect Url := do
  let target ←
    if target.scheme != "" && target.host == "" then
      ofChecked { target with host := asked.host }.parts
    else .ok target
  let target ← if target.isAbsolute then .ok target else join asked target
  if !asked.plainFragment.isEmpty && target.plainFragment.isEmpty then
    ofChecked { target.parts with fragment := some asked.plainFragment }
  else return target

end Url

end WorkspaceHome
