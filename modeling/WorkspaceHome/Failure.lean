import WorkspaceHome.Json.Basic
import WorkspaceHome.Url.Defect

/-!
# Why an operation fails

A `Refusal` is an answer of the service itself: it has a kind, which fixes the status under which
it is reported, and a detail and a code that can be read by the caller. All other failures are
causes that lie in the data, in the store, in the cache or in the feed. `Failure.label` is the word
under which a failure is reported and logged.
-/

namespace WorkspaceHome

/-! ### Refusals -/

/-- The kinds of refusals. -/
inductive Refusal.Kind where
  | general
  | notSignedIn
  | notFound
  | conflict
  | permissionDenied
  | releaseNotesUnavailable
  deriving DecidableEq, Repr

namespace Refusal.Kind

/-- All kinds of refusals. -/
def all : List Kind :=
  [.general, .notSignedIn, .notFound, .conflict, .permissionDenied, .releaseNotesUnavailable]

/-- The word for a kind. -/
def label : Kind → String
  | .general => "AppError"
  | .notSignedIn => "NotSignedInError"
  | .notFound => "NotFoundError"
  | .conflict => "ConflictError"
  | .permissionDenied => "PermissionDeniedError"
  | .releaseNotesUnavailable => "ReleaseNotesUnavailableError"

/-- The status under which a kind is reported. -/
def status : Kind → Nat
  | .general => 400
  | .notSignedIn => 401
  | .notFound => 404
  | .conflict => 409
  | .permissionDenied => 403
  | .releaseNotesUnavailable => 503

/-- The code of a refusal that brings none of its own. -/
def code : Kind → String
  | .general => "error"
  | .notSignedIn => "user_not_signed_in"
  | .notFound => "not_found"
  | .conflict => "conflict"
  | .permissionDenied => "permission_denied"
  | .releaseNotesUnavailable => "release_notes_unavailable"

/-- The detail of a refusal that brings none of its own. -/
def detail : Kind → String
  | .general => "An error occurred."
  | .notSignedIn => "You must be signed in to perform this action."
  | .notFound => "The requested resource was not found."
  | .conflict => "A resource conflict occurred."
  | .permissionDenied => "You do not have permission to perform this action."
  | .releaseNotesUnavailable => "Release notes could not be fetched."

end Refusal.Kind

/-- An answer that refuses a request. -/
structure Refusal where
  kind : Refusal.Kind
  detail : String
  code : String
  deriving DecidableEq, Repr

namespace Refusal

/-- The kind of a word. -/
def Kind.named? (word : String) : Option Kind := Kind.all.find? fun k => k.label == word

/-- A refusal with a detail and a code; the kind's own stand in for empty ones. -/
def of (kind : Kind) (detail code : String) : Refusal :=
  ⟨kind, if detail = "" then kind.detail else detail, if code = "" then kind.code else code⟩

/-- The status under which a refusal is reported. -/
def status (r : Refusal) : Nat := r.kind.status

end Refusal

/-! ### Failures -/

/-- A fault of a part that the service depends on: its kind and its message. -/
structure Fault where
  kind : String
  message : String
  deriving DecidableEq, Repr, Inhabited

/-- Why an operation fails. -/
inductive Failure where
  | refused (refusal : Refusal)
  /-- A list or an object stands where an id is needed. -/
  | unhashable
  /-- A value that cannot be taken apart stands where a list is needed. -/
  | notIterable
  /-- A member is looked up in a value that has none. -/
  | notIndexable
  /-- A value that is no whole number stands for one. -/
  | notWhole
  /-- A value that is no object stands where metadata or a page reference is needed. -/
  | notAnObject
  /-- An object lacks a member. -/
  | missingMember (key : String)
  /-- A text is not the numeral or the word that it should be. -/
  | malformed
  /-- A number does not fit into the store. -/
  | outOfRange
  /-- A rule of the store forbids a row. -/
  | constraint
  /-- A visitor without an account stands where a user is looked up. -/
  | visitorSought
  /-- A visitor without an account stands where a user becomes part of a row. -/
  | visitorAssigned
  /-- A row that is asked for does not exist. -/
  | noSuchRow
  /-- An address is not one. -/
  | invalidAddress (defect : Url.Defect)
  /-- A setting has neither a value nor a default. -/
  | undefinedSetting
  /-- A text with a surrogate of no partner cannot be sent, and a character that is no byte cannot
  be told as one. -/
  | unsendable
  /-- The value of a header holds a line end. -/
  | brokenHeader
  /-- A text holds values that are nested too deep. -/
  | tooDeep
  /-- A part that the service depends on fails. -/
  | faulty (fault : Fault)
  deriving DecidableEq, Repr

namespace Failure

/-- The word under which a failure is reported. -/
def label : Failure → String
  | .refused r => r.kind.label
  | .unhashable | .notIterable | .notIndexable | .notWhole | .visitorSought => "TypeError"
  | .notAnObject => "AttributeError"
  | .missingMember _ => "KeyError"
  | .malformed | .visitorAssigned => "ValueError"
  | .outOfRange => "OverflowError"
  | .constraint => "IntegrityError"
  | .noSuchRow => "DoesNotExist"
  | .invalidAddress _ => "InvalidURL"
  | .undefinedSetting => "UndefinedValueError"
  | .unsendable => "UnicodeEncodeError"
  | .brokenHeader => "BadHeaderError"
  | .tooDeep => "RecursionError"
  | .faulty fault => fault.kind

/-- A refusal of a kind with a detail. -/
def refuse (kind : Refusal.Kind) (detail : String) : Failure := .refused (.of kind detail "")

/-- The refusal of a caller that is not signed in. -/
def notSignedIn : Failure := .refuse .notSignedIn ""

end Failure

/-! ### Values of the wrong shape -/

namespace Json

/-- The values that a value can be taken apart into. -/
def items (v : Json) : Except Failure (List Json) :=
  match v.iterate? with
  | some items => .ok items
  | none => .error .notIterable

/-- The values of a list of ids: each of them is a scalar. -/
def ids (v : Json) : Except Failure (List Json) := do
  let items ← v.items
  if items.all isScalarValue then return items else throw .unhashable

/-- The ids of a list that may be absent: a value that counts as false holds none. -/
def idsIfAny (v : Json) : Except Failure (List Json) := if v.truthy then v.ids else .ok []

/-- The value of a member that has to be there. -/
def index (key : String) : Json → Except Failure Json
  | .object members =>
    match lookup key members with
    | some v => .ok v
    | none => .error (.missingMember key)
  | _ => .error .notIndexable

/-- The value of a member, or `null`. -/
def member (key : String) : Json → Except Failure Json
  | .object members => .ok ((lookup key members).getD .null)
  | _ => .error .notAnObject

end Json

end WorkspaceHome
