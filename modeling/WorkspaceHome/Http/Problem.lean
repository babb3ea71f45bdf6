import WorkspaceHome.Json.Writer
import WorkspaceHome.Presentation
import WorkspaceHome.Site

/-!
# Problems with requests

A `Problem` is a fault of a request that is found before the service itself is asked: it is not
well-formed, not allowed, not acceptable, and so on. Problems and refusals are answered and noted;
any other failure is noted as one and has no answer.
-/

namespace WorkspaceHome.Http

/-- The kinds of problems. -/
inductive Problem.Kind where
  | invalid
  | malformed
  | notAuthenticated
  | authenticationFailed
  /-- Credentials that do not sign in, where no scheme is asked for. -/
  | credentialsRefused
  | permissionDenied
  | notFound
  | methodNotAllowed
  | notAcceptable
  | unsupportedMediaType
  | throttled
  deriving DecidableEq, Repr

namespace Problem.Kind

/-- The status under which a kind is answered. -/
def status : Kind → Nat
  | .invalid | .malformed => 400
  | .notAuthenticated | .authenticationFailed => 401
  | .credentialsRefused | .permissionDenied => 403
  | .notFound => 404
  | .methodNotAllowed => 405
  | .notAcceptable => 406
  | .unsupportedMediaType => 415
  | .throttled => 429

/-- The detail of a problem that brings none of its own. -/
def detail : Kind → String
  | .invalid => "Invalid input."
  | .malformed => "Malformed request."
  | .notAuthenticated => "Authentication credentials were not provided."
  | .authenticationFailed | .credentialsRefused => "Incorrect authentication credentials."
  | .permissionDenied => "You do not have permission to perform this action."
  | .notFound => "Not found."
  | .methodNotAllowed => "Method not allowed."
  | .notAcceptable => "Could not satisfy the request Accept header."
  | .unsupportedMediaType => "Unsupported media type in request."
  | .throttled => "Request was throttled."

end Problem.Kind

/-- A fault of a request: its kind, and the answer that tells of it. -/
structure Problem where
  kind : Problem.Kind
  body : Json
  deriving Repr

namespace Problem

mutual

/-- Details with texts for leaves. -/
def leavesAsText : Json → Json
  | .list items => .list (leavesOfItems items)
  | .object members => .object (leavesOfMembers members)
  | v => v.displayText

/-- The items of a list of details. -/
def leavesOfItems : List Json → List Json
  | [] => []
  | v :: rest => leavesAsText v :: leavesOfItems rest

/-- The members of an object of details. -/
def leavesOfMembers : List (String × Json) → List (String × Json)
  | [] => []
  | (k, v) :: rest => (k, leavesAsText v) :: leavesOfMembers rest

end

/-- A problem with a detail. A list or an object of details is the answer itself, and so is the list
of the one detail of invalid input; any other detail is a member of the answer. -/
def of (kind : Kind) (detail : Option Json) : Problem :=
  let detail := leavesAsText (detail.getD (.text kind.detail))
  let body := match detail with
    | .list _ | .object _ => detail
    | _ => if kind = .invalid then .list [detail] else .object [("detail", detail)]
  ⟨kind, body⟩

/-- A problem with a detail that is a text. -/
def saying (kind : Kind) (detail : String) : Problem := of kind (some (.text detail))

/-- The problem of a method that is not allowed. -/
def methodNotAllowed (method : String) : Problem :=
  saying .methodNotAllowed ("Method \"" ++ method ++ "\" not allowed.")

/-- The problem of a body of an unknown media type. -/
def unsupportedMediaType (mediaType : String) : Problem :=
  saying .unsupportedMediaType ("Unsupported media type \"" ++ mediaType ++ "\" in request.")

/-- The seconds that a value stands for as a time to wait, rounded up. -/
def secondsOf : Json → Option Int
  | .int n => some n
  | .bool b => some (if b then 1 else 0)
  | .float x => x.ceiling?
  | _ => none

/-- The problem of too many requests; the time to wait is told in whole seconds. -/
def throttled (seconds : Option Int) : Problem :=
  match seconds with
  | none => of .throttled none
  | some n =>
    saying .throttled (Kind.detail .throttled ++ " Expected available in " ++ toString n ++
      (if n = 1 then " second." else " seconds."))

end Problem

/-- Why a request is not served. -/
inductive Trouble where
  | problem (problem : Problem)
  | failure (failure : Failure)

/-- A status and a body. -/
structure Answer where
  status : Nat
  body : Json
  deriving Repr

namespace Trouble

open Service

/-- The answer to a trouble that arose in a view; a failure that is no refusal has none. -/
def answer (view : Option String) : Trouble → Service (Option Answer)
  | .failure (.refused r) => do
    log (.requestRefused r view)
    return some ⟨r.status, .object [("code", .text r.code), ("detail", .text r.detail)]⟩
  | .problem p => do
    log (.requestInvalid p.body p.kind.status)
    return some ⟨p.kind.status, p.body⟩
  | .failure e => do
    log (.requestFailed e.label)
    return none

end Trouble

end WorkspaceHome.Http
