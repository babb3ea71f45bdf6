import WorkspaceHome.Failure

/-!
# The feed of release notes

The feed is asked by address and either sends a reply or fails. Some failures are expected of a
connection, and so is a bad value; any other is a fault of the service.
-/

namespace WorkspaceHome.ReleaseNotes

/-- What the feed sends. The body is what the content codings of the reply stand for; a reply that
cannot be decoded is a fault of the connection. -/
structure Reply where
  status : Nat := 200
  headers : List (String × String) := []
  body : List UInt8 := []
  deriving DecidableEq, Repr, Inhabited

namespace Reply

/-- Whether a reply is a success. -/
def isSuccess (r : Reply) : Bool := 200 ≤ r.status && r.status ≤ 299

/-- The value of a header, whose name is compared without regard to case. Values of one name are
put together. -/
def header? (r : Reply) (name : String) : Option String :=
  match r.headers.filter fun (n, _) => n.map Char.toLower == name.map Char.toLower with
  | [] => none
  | found => some (", ".intercalate (found.map Prod.snd))

/-- Whether a reply of a status sends the client to another address. -/
def isRedirect (status : Nat) : Bool := [301, 302, 303, 307, 308].contains status

/-- The address to which a reply sends the client. -/
def location? (r : Reply) : Option String :=
  if isRedirect r.status then r.header? "Location" else none

/-- A reply that is a success sends the client nowhere. -/
theorem location?_of_isSuccess {r : Reply} (h : r.isSuccess = true) : r.location? = none := by
  have hredirect : isRedirect r.status = false := by
    simp only [isSuccess, Bool.and_eq_true, decide_eq_true_eq] at h
    simp only [isRedirect, List.contains_eq_mem, decide_eq_false_iff_not, List.mem_cons,
      List.not_mem_nil, or_false]
    omega
  rw [location?, hredirect]
  rfl

end Reply

/-- How the feed behaves. -/
inductive Feed where
  | replies (reply : Reply)
  /-- The connection itself reports a reply as a failure, for its status. -/
  | refuses (status : Nat)
  | fails (fault : Fault)
  deriving DecidableEq, Repr

/-- The feed of a service that has none. -/
def Feed.unconfigured : Feed := .fails ⟨"ConnectError", "no feed configured"⟩

instance : Inhabited Feed := ⟨.unconfigured⟩

/-- The kinds of faults that are expected of a connection. A refused status is not among them, since
it comes with the status (`Feed.refuses`). -/
def connectionFaults : List String :=
  ["HTTPError", "RequestError", "TransportError", "TimeoutException", "ConnectTimeout",
    "ReadTimeout", "WriteTimeout", "PoolTimeout", "NetworkError", "ConnectError", "ReadError",
    "WriteError", "CloseError", "ProxyError", "UnsupportedProtocol", "ProtocolError",
    "LocalProtocolError", "RemoteProtocolError", "DecodingError", "TooManyRedirects"]

/-- Whether a fault only means that there are no release notes now. -/
def isExpected (fault : Fault) : Bool :=
  connectionFaults.contains fault.kind || fault.kind == Failure.malformed.label

end WorkspaceHome.ReleaseNotes
