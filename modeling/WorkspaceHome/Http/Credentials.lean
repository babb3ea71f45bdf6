import WorkspaceHome.Http.Message
import WorkspaceHome.Http.Problem
import WorkspaceHome.Text.Base64

/-!
# Credentials

A caller who has no session can sign in with each request, by a name and a password in the header
`Authorization` (the scheme `Basic`: both, with a colon between them, in base64). Who has signed in
in either way is the viewer of the request. So whoever brings credentials of this scheme and is not
signed in has brought wrong ones, and is refused (`Request.refusal?`), whatever the request is for.
Credentials of other schemes count as none.
-/

namespace WorkspaceHome.Http

open Text

/-- Whether a character stands between the words of a header. -/
def isGap (c : Char) : Bool := c == ' ' || (0x9 ≤ c.toNat && c.toNat ≤ 0xD)

/-- The words of a header. -/
def headerWords (value : String) : List (List Char) :=
  (Url.splitAt ' ' (value.toList.map fun c => if isGap c then ' ' else c)).filter (!·.isEmpty)

/-- What is wrong with the words behind the scheme. -/
def faultOfCredentials : List (List Char) → String
  | [] => "Invalid basic header. No credentials provided."
  | [word] =>
    match Base64.decodePadded? word with
    | some bytes =>
      if bytes.contains 0x3A then "Invalid username/password."
      else "Invalid basic header. Credentials not correctly base64 encoded."
    | none => "Invalid basic header. Credentials not correctly base64 encoded."
  | _ => "Invalid basic header. Credentials string should not contain spaces."

/-- The trouble of the credentials in a header that have signed nobody in. A header is read as
bytes, so one with a character that is none cannot be read at all. -/
def troubleOfCredentials (value : String) : Option Trouble :=
  if value.toList.any (0xFF < ·.toNat) then some (.failure .unsendable)
  else match headerWords value with
    | [] => none
    | scheme :: words =>
      if String.ofList (scheme.map Char.toLower) == "basic" then
        some (.problem (.saying .credentialsRefused (faultOfCredentials words)))
      else none

/-- The trouble of a request that brings credentials which have signed nobody in. -/
def Request.refusal? (r : Request) : Option Trouble :=
  match r.viewer with
  | .user _ => none
  | _ => (r.header? "Authorization").bind troubleOfCredentials

end WorkspaceHome.Http
