import WorkspaceHome.Failure
import WorkspaceHome.Number.Numeral
import WorkspaceHome.Store.Basic

/-!
# Questions to the store

Every question is answered in the order of ids. Questions about several rows take the list of their
ids, in which the order and repetitions make no difference. What belongs to several rows is asked
for at once and then gathered by the id of the row that it belongs to.
-/

namespace WorkspaceHome

/-! ### Gathering -/

/-- Lists under numbers, the number that came first in front. -/
abbrev Groups (α : Type) := List (Nat × List α)

namespace Groups

variable {α β : Type}

/-- Puts a value at the end of the list under a number. -/
def add (number : Nat) (a : α) : Groups α → Groups α
  | [] => [(number, [a])]
  | (n, list) :: rest =>
    if n = number then (n, list ++ [a]) :: rest else (n, list) :: add number a rest

/-- Gathers items, one after another, under the numbers that they carry. -/
def collect (number : β → Nat) (value : β → α) (items : List β) : Groups α :=
  items.foldl (fun groups b => groups.add (number b) (value b)) []

/-- What is gathered under a number; nothing if the number never came up. -/
def get (groups : Groups α) (number : Nat) : List α := (groups.lookup number).getD []

end Groups

/-! ### Ids -/

namespace Json

/-- The whole number that a value stands for as an id; `null` stands for none. -/
def idNumber : Json → Except Failure (Option Int)
  | .null => .ok none
  | .bool b => .ok (some (if b then 1 else 0))
  | .int n => .ok (some n)
  | .float x =>
    match x.truncate? with
    | some n => .ok (some n)
    | none => .error (if x matches .nan then .malformed else .outOfRange)
  | .text s =>
    match Numeral.int? s with
    | some n => .ok (some n)
    | none => .error .malformed
  | .torn _ => .error .malformed
  | .list _ | .object _ => .error .notWhole

/-- The whole numbers that the store can hold. -/
def fitsStore (n : Int) : Bool := -0x8000000000000000 ≤ n && n < 0x8000000000000000

/-- The ids that a list of values stands for. -/
def idNumbers (v : Json) : Except Failure (List Int) := do
  let numbers := (← (← v.items).mapM idNumber).filterMap fun n => n
  if numbers.all fitsStore then return numbers else throw .outOfRange

end Json

namespace Store

/-- Whether a row is one of those asked for. -/
def isAmong (ids : List Int) (id : Nat) : Bool := ids.contains (id : Int)

/-! ### Users -/

/-- The user of a name. -/
def userNamed? (s : Store) (username : String) : Option User :=
  s.users.rows.find? fun u => u.username == username

/-- What is remembered of a user. -/
def dataOf? (s : Store) (user : Nat) : Option UserData :=
  s.userData.rows.find? fun d => d.user == user

/-! ### Workspaces and their members -/

/-- The memberships of a user, the oldest first. -/
def membershipsOf (s : Store) (user : Nat) : List Membership :=
  s.memberships.rows.filter fun m => m.user == user

/-- The ids of the workspaces of a user, the oldest membership first. -/
def workspaceIdsOf (s : Store) (user : Nat) : List Nat := (s.membershipsOf user).map (·.workspace)

/-- Whether a user is a member of a workspace. -/
def isMember (s : Store) (workspace user : Nat) : Bool :=
  s.memberships.rows.any fun m => m.workspace == workspace && m.user == user

/-- The workspaces with given ids. -/
def workspacesWithIds (s : Store) (ids : List Int) : List Workspace :=
  s.workspaces.rows.filter fun w => isAmong ids w.id

/-- The first workspace with a slug, or with an id if one is given. -/
def workspaceAt? (s : Store) (id : Option Int) (slug : String) : Option Workspace :=
  s.workspaces.rows.find? fun w => id == some (w.id : Int) || w.slug == slug

end Store

/-- A member of a workspace as it is listed. -/
structure UserRole where
  username : String
  name : String
  role : String
  deriving DecidableEq, Repr, Inhabited

namespace Store

/-- The memberships in the workspaces with given ids, each with its user, by workspace and then in
the order in which the members joined. -/
def membersOf (s : Store) (ids : List Int) : List (Membership × User) :=
  ((s.memberships.rows.filter fun m => isAmong ids m.workspace).mergeSort fun m n =>
    decide (m.workspace ≤ n.workspace)).filterMap fun m => (s.users.find? m.user).map (m, ·)

/-- The members of the workspaces with given ids that have any. -/
def rolesByWorkspace (s : Store) (ids : List Int) : Groups UserRole :=
  .collect (·.1.workspace) (fun (m, u) => ⟨u.username, u.fullName, m.role⟩) (s.membersOf ids)

/-! ### Applications and pages -/

/-- The applications of the workspaces with given ids. -/
def applicationsIn (s : Store) (ids : List Int) : List Application :=
  s.applications.rows.filter fun a => isAmong ids a.workspace

/-- The pages of the applications with given ids, by application. -/
def pagesIn (s : Store) (ids : List Int) : List Page :=
  (s.pages.rows.filter fun p => isAmong ids p.application).mergeSort fun p q =>
    decide (p.application ≤ q.application)

/-- The pages of the applications with given ids that have any. -/
def pagesByApplication (s : Store) (ids : List Int) : Groups Page :=
  .collect (·.application) (fun p => p) (s.pagesIn ids)

end Store

end WorkspaceHome
