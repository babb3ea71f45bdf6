import WorkspaceHome.Proofs.Homepage.Outlook
import WorkspaceHome.Proofs.Operation.Independence
import WorkspaceHome.Proofs.ReleaseNotes.Supply

/-!
# A missing row is like a fresh one

All that the service can be called for, and all that happens around it, sees no more than the
outlook of a site, and tells the same of what is remembered (`agree_call`, `agree_surroundings`). So
from sites that look alike an operation leads to such sites and reports the same
(`outlook_perform`), and so does a run (`outlook_trace`). In particular it makes no difference to a
run whether a user of whom nothing is remembered has no row or a fresh one (`absence_unnoticed`).
-/

namespace WorkspaceHome

open Service

/-! ### What is told of results -/

/-- The members of an object that tell whether a row is stored, and since when. -/
def rowMembers : List String := ["saved", "created_at", "updated_at"]

/-- An object without the members that tell of a row. -/
def Json.undated : Json → Json
  | .object members => .object (members.filter fun member => !rowMembers.contains member.1)
  | v => v

/-- What is left of what is remembered of a user tells nothing of the row. -/
theorem UserData.undated_present (user : Option User) (data : Option UserData) :
    (UserData.present user data).undated =
      .object [("user", .ofOption (.text ·.username) user),
        ("recently_used_workspace_ids", (recollectionOf data).workspaces),
        ("recently_used_app_ids", (recollectionOf data).applications),
        ("release_notes_viewed_version",
          .ofOption .text (recollectionOf data).viewedVersion)] := by
  cases data <;> rfl

/-- What is told of the result of a call: all of it, but for the dates of what is remembered. -/
def ServiceCall.told : ServiceCall → Json → Json
  | .userData _ | .recordRecent .. | .ensureViewed _ => Json.undated
  | _ => id

/-- What is told of the result of an operation. -/
def Operation.told : Operation → Json → Json
  | .call operation => operation.told
  | _ => id

/-- What is told of a report: the result, what was logged, and what the feed was asked for. -/
def Step.told (step : Step) : Except Failure Json × List LogEntry × List String :=
  (step.report.outcome.map step.operation.told, withoutCreations step.report.log,
    step.report.requests)

namespace Service

/-! ### Calls -/

theorem seesOnly_viewer (caller : Caller) : SeesOnly Site.outlook caller.viewer := by
  cases caller with
  | nobody => exact SeesOnly.pure _
  | anonymous => exact SeesOnly.pure _
  | named username =>
    exact (seesOnly_ask fun _ _ => rfl).bind fun found => (SeesOnly.settle _).bind fun user =>
      SeesOnly.pure _

theorem agree_of (viewer : Viewer) :
    Agree Site.outlook recollectionOf (Remembrance.of viewer) (Remembrance.of viewer) := by
  unfold Remembrance.of
  refine Agree.bind_same (SeesOnly.settle _) fun sought => ?_
  cases sought with
  | none => exact Agree.pure rfl
  | some u =>
    intro s t h
    have hstore := (Site.outlook_eq_iff.mp h).1
    exact ⟨congrArg Except.ok (congrFun (Store.outlook_eq_iff.mp hstore).2 u.id), h⟩

theorem seesOnly_admits (workspace : ℕ) (viewer : Viewer) :
    SeesOnly Site.outlook (Workspaces.admits workspace viewer) := by
  unfold Workspaces.admits
  refine (SeesOnly.settle _).bind fun sought => ?_
  cases sought with
  | none => exact SeesOnly.pure false
  | some u => exact seesOnly_ask fun _ _ => rfl

theorem seesOnly_findWorkspace (key : Json) (viewer : Viewer) :
    SeesOnly Site.outlook (Workspaces.find key viewer) := by
  unfold Workspaces.find
  refine (SeesOnly.settle _).bind fun id => (seesOnly_ask fun _ _ => rfl).bind fun found => ?_
  cases found with
  | none => exact SeesOnly.throw _
  | some workspace =>
    refine (seesOnly_admits _ _).bind fun admitted => ?_
    cases admitted with
    | false => exact SeesOnly.throw _
    | true => exact SeesOnly.pure workspace

theorem seesOnly_findApplication (key : Json) (viewer : Viewer) :
    SeesOnly Site.outlook (Applications.find key viewer) := by
  unfold Applications.find
  refine (SeesOnly.settle _).bind fun id => (seesOnly_ask fun _ _ => rfl).bind fun found => ?_
  cases found with
  | none => exact SeesOnly.throw _
  | some application =>
    refine (seesOnly_admits _ _).bind fun admitted => ?_
    cases admitted with
    | false => exact SeesOnly.throw _
    | true => exact SeesOnly.pure application

theorem seesOnly_visibleIn (workspaces : List ℤ) :
    SeesOnly Site.outlook (Applications.visibleIn workspaces) := by
  unfold Applications.visibleIn
  refine (seesOnly_ask fun _ _ => rfl).bind fun all => ?_
  rw [filterM_settle]
  exact (SeesOnly.settle _).bind fun visible => (seesOnly_log _).bind fun _ => SeesOnly.pure _

/-- Writing to other tables. -/
theorem seesOnly_write {α : Type} {op : Store → Timestamp → Except Failure (α × Store)}
    (hop : ∀ (s : Store) userData now,
      op { s with userData } now = (op s now).map fun r => (r.1, { r.2 with userData })) :
    SeesOnly Site.outlook (write op) := by
  intro s t h
  obtain ⟨hstore, -, store, log, rfl⟩ := Site.outlook_eq_iff.mp h
  obtain ⟨hbeside, hrecollection⟩ := Store.outlook_eq_iff.mp hstore
  have hstoreOp : op store s.clock =
      (op s.store s.clock).map fun r => (r.1, { r.2 with userData := store.userData }) := by
    have hstoreEq : store = { s.store with userData := store.userData } := hbeside
    rw [hstoreEq]
    exact hop _ _ _
  rw [exec_write, exec_write]
  dsimp only
  rw [hstoreOp]
  cases hrun : op s.store s.clock with
  | error e => exact ⟨rfl, h⟩
  | ok r =>
    -- the table of what is remembered is left as it was
    have hleft : r.2.userData = s.store.userData := by
      have hself := hop s.store s.store.userData s.clock
      rw [hrun] at hself
      exact congrArg (fun r => r.2.userData) (Except.ok.inj hself)
    have hdata (user : ℕ) : r.2.dataOf? user = s.store.dataOf? user := by
      unfold Store.dataOf?
      rw [hleft]
    refine ⟨rfl, Site.outlook_store h (Store.outlook_eq_iff.mpr ⟨rfl, funext fun user => ?_⟩)⟩
    exact (congrArg recollectionOf (hdata user)).trans (congrFun hrecollection user)

theorem seesOnly_createWorkspace (name : Json) (viewer : Viewer) :
    SeesOnly Site.outlook (Workspaces.create name viewer) := by
  have hfound : SeesOnly Site.outlook (Workspaces.found name viewer) := by
    refine Agree.seesOnly (agree_atomically (SeesOnly.agree ?_ id))
    exact (seesOnly_write fun s userData now => Store.addWorkspace_userData s userData _ _ now).bind
      fun workspace => (SeesOnly.settle _).bind fun owner =>
        (seesOnly_write fun s userData _ => Store.addMember_userData s userData _ _ _).bind fun _ =>
          SeesOnly.pure _
  unfold Workspaces.create
  refine SeesOnly.bind ?_ fun result => (seesOnly_log _).bind fun _ => SeesOnly.pure _
  exact hfound.tryCatch fun e => SeesOnly.throw _

/-- Two rows that tell the same, as they are presented. -/
theorem agree_present (user : Option User) {data data' : Option UserData}
    (h : recollectionOf data = recollectionOf data') :
    Agree Site.outlook Json.undated (pure (UserData.present user data) : Service Json)
      (pure (UserData.present user data')) :=
  Agree.pure (by rw [UserData.undated_present, UserData.undated_present, h])

/-- **Whatever the service is called for** tells no more than the outlook of a site. -/
theorem agree_call (operation : ServiceCall) :
    Agree Site.outlook operation.told operation.perform operation.perform := by
  unfold ServiceCall.perform
  cases operation with
  -- what is remembered is presented with its times, which the two sites need not share
  | userData user =>
    exact Agree.bind_same (seesOnly_viewer user) fun viewer => (agree_of viewer).bind
      fun data data' h => agree_present _ h
  | recordRecent user application =>
    exact Agree.bind_same (seesOnly_viewer user) fun viewer => Agree.bind_same (SeesOnly.settle _)
      fun id => Agree.bind_same (seesOnly_ask fun _ _ => rfl) fun found =>
        Agree.bind_same (SeesOnly.settle _) fun a =>
          (Remembrance.agree_recordRecent viewer a).bind fun d d' h => agree_present _ h
  | ensureViewed user =>
    exact Agree.bind_same (seesOnly_viewer user) fun viewer =>
      (Remembrance.agree_ensureViewed viewer).bind fun d d' h => agree_present _ h
  -- all other calls see no more than the outlook and tell the same on both sites
  | createWorkspace name user =>
    exact ((seesOnly_viewer user).bind fun viewer => (seesOnly_createWorkspace name viewer).bind
      fun w => SeesOnly.pure _).agree id
  | findWorkspace key user =>
    exact ((seesOnly_viewer user).bind fun viewer => (seesOnly_findWorkspace key viewer).bind
      fun w => SeesOnly.pure _).agree id
  | findApplication key user =>
    exact ((seesOnly_viewer user).bind fun viewer => (seesOnly_findApplication key viewer).bind
      fun a => SeesOnly.pure _).agree id
  | workspaceIds user =>
    refine ((seesOnly_viewer user).bind fun viewer => (SeesOnly.settle _).bind
      fun sought => ?_).agree id
    cases sought with
    | none => exact SeesOnly.pure _
    | some u => exact (seesOnly_ask fun _ _ => rfl).bind fun ids => SeesOnly.pure _
  | workspaces ids =>
    exact ((SeesOnly.settle _).bind fun numbers => (seesOnly_ask fun _ _ => rfl).bind
      fun found => SeesOnly.pure _).agree id
  | roles ids =>
    exact ((SeesOnly.settle _).bind fun numbers => (seesOnly_ask fun _ _ => rfl).bind
      fun found => SeesOnly.pure _).agree id
  | visibleApplications ids =>
    exact ((SeesOnly.settle _).bind fun numbers => (seesOnly_visibleIn numbers).bind
      fun found => SeesOnly.pure _).agree id
  | pages ids =>
    exact ((SeesOnly.settle _).bind fun numbers => (seesOnly_ask fun _ _ => rfl).bind
      fun found => SeesOnly.pure _).agree id
  | homepage user url =>
    exact ((seesOnly_viewer user).bind fun viewer => (Homepage.seesOnly_build viewer url).bind
      fun h => SeesOnly.pure _).agree id
  | releaseNotes url =>
    exact (seesOnly_get_bind (fun _ _ _ => rfl) fun s =>
      (ReleaseNotes.seesOnly_outlook_nodesAt _).bind fun nodes => SeesOnly.pure _).agree id

/-! ### The surroundings -/

/-- **Whatever happens around the service** tells no more than the outlook of a site. -/
theorem seesOnly_surroundings (operation : Surroundings) :
    SeesOnly Site.outlook operation.perform := by
  unfold Surroundings.perform
  cases operation with
  | changeSettings values =>
    exact (seesOnly_modify fun _ _ _ => rfl).bind fun _ => SeesOnly.pure _
  | moveClock moment micros =>
    exact (seesOnly_modify fun _ _ _ => rfl).bind fun _ =>
      seesOnly_get_bind (fun _ _ _ => rfl) fun s => SeesOnly.pure _
  | changeFeed feed => exact (seesOnly_modify fun _ _ _ => rfl).bind fun _ => SeesOnly.pure _
  | changeCache mode => exact (seesOnly_modify fun _ _ _ => rfl).bind fun _ => SeesOnly.pure _
  | writeCache value lifetime =>
    intro s t h
    obtain ⟨hstore, hlog, store, log, rfl⟩ := Site.outlook_eq_iff.mp h
    rw [exec_get_bind, exec_get_bind]
    dsimp only
    unfold Surroundings.access
    cases s.cache.put s.clock (ReleaseNotes.cacheKey s.settings) value lifetime with
    | error fault => exact ⟨rfl, h⟩
    | ok cache => exact ⟨rfl, Site.outlook_eq_iff.mpr ⟨hstore, hlog, store, log, rfl⟩⟩
  | readCache =>
    exact seesOnly_get_bind (fun _ _ _ => rfl) fun s => (SeesOnly.settle _).bind
      fun v => SeesOnly.pure _

end Service

/-! ### Operations and runs -/

/-- The uses of a site: the calls to the service, and what happens around it. -/
def Operation.isUse : Operation → Bool
  | .call _ | .surroundings _ => true
  | _ => false

section run

variable {site site' : Site}

theorem agree_act {operation : Operation} (huse : operation.isUse = true) :
    Agree Site.outlook operation.told operation.act operation.act := by
  cases operation with
  | call operation => exact agree_call operation
  | surroundings operation => exact (seesOnly_surroundings operation).agree id
  | _ => cases huse

/-- **One operation** on sites that look alike reports the same and leads to such sites. -/
theorem outlook_perform (h : site.outlook = site'.outlook) {operation : Operation}
    (huse : operation.isUse = true) :
    (operation.stepOn site).told = (operation.stepOn site').told ∧
      (operation.perform site).2.outlook = (operation.perform site').2.outlook := by
  have hcleared : ({ site with log := [], requests := [] } : Site).outlook =
      ({ site' with log := [], requests := [] } : Site).outlook := by
    obtain ⟨hstore, -, _, _, rfl⟩ := Site.outlook_eq_iff.mp h
    exact Site.outlook_eq_iff.mpr ⟨hstore, rfl, _, _, rfl⟩
  obtain ⟨houtcome, hafter⟩ := agree_act huse _ _ hcleared
  obtain ⟨-, hlog, _, _, hsite⟩ := Site.outlook_eq_iff.mp hafter
  refine ⟨?_, hafter⟩
  have hrequests := congrArg Site.requests hsite
  unfold Operation.stepOn Step.told
  rw [perform_eq, perform_eq]
  exact Prod.ext houtcome (Prod.ext hlog hrequests.symm)

/-- **A run** on sites that look alike reports the same and leads to such sites. -/
theorem outlook_trace {operations : List Operation}
    (huse : ∀ operation ∈ operations, operation.isUse = true) (h : site.outlook = site'.outlook) :
    (Operation.trace operations site).map Step.told =
        (Operation.trace operations site').map Step.told ∧
      (Operation.performAll operations site).2.outlook =
        (Operation.performAll operations site').2.outlook := by
  induction operations generalizing site site' with
  | nil => exact ⟨rfl, h⟩
  | cons operation rest ih =>
    obtain ⟨hfirst, hrest⟩ := List.forall_mem_cons.mp huse
    obtain ⟨htold, hafter⟩ := outlook_perform h hfirst
    obtain ⟨hlater, hend⟩ := ih hrest hafter
    exact ⟨congrArg₂ List.cons htold hlater, hend⟩

/-- **A missing row is like a fresh one**: let nothing be stored of a user, and let another store
differ in nothing but a row of this user, which holds what a new row would. Then every run of calls
to the service, for whatever callers, and of whatever happens around it, comes on both sites to the
same results and failures, apart from the dates of the row and from whether it is stored; it logs
the same, apart from the rows that are made, and asks the feed for the same. In the end the same is
remembered of every user. -/
theorem absence_unnoticed (operations : List Operation)
    (huse : ∀ operation ∈ operations, operation.isUse = true) (site : Site) (user : ℕ)
    (habsent : site.store.dataOf? user = none) (store : Store)
    (hsame : site.store.SameBut user store) (d : UserData) (hrow : store.dataOf? user = some d)
    (hfresh : d.recollection = {}) :
    (Operation.trace operations site).map Step.told =
        (Operation.trace operations { site with store }).map Step.told ∧
      ∀ x, (Operation.performAll operations site).2.store.recollection x =
        (Operation.performAll operations { site with store }).2.store.recollection x := by
  have houtlook : site.outlook = ({ site with store } : Site).outlook :=
    Site.outlook_store rfl (Store.outlook_of_fresh hsame habsent hrow hfresh)
  obtain ⟨htold, hend⟩ := outlook_trace huse houtlook
  have hstore := (Site.outlook_eq_iff.mp hend).1
  exact ⟨htold, fun x => congrFun (Store.outlook_eq_iff.mp hstore).2 x⟩

end run

/-- The first things that a user does of whom nothing is remembered. -/
def sampleFirstVisit : List Operation :=
  [.call (.userData (.named "ben")), .call (.recordRecent (.named "ben") (.int 1)),
    .surroundings (.moveClock none 1), .call (.homepage (.named "ben") none),
    .call (.ensureViewed (.named "ben"))]

theorem absence_unnoticed_sample :
    Store.sampleOfTwo.dataOf? 2 = none ∧
      (Operation.trace sampleFirstVisit { store := Store.sampleOfTwo }).map Step.told =
        (Operation.trace sampleFirstVisit
          { store := Store.sampleOfTwo.revise 2 ⟨0⟩ .keep }).map Step.told := by
  have hunnoticed := absence_unnoticed sampleFirstVisit (by decide) { store := Store.sampleOfTwo } 2
    rfl _ (Store.sameBut_revise Store.sampleOfTwo 2 ⟨0⟩ .keep) _ (Store.dataOf?_revise _ _ _ _) rfl
  exact ⟨rfl, hunnoticed.1⟩

end WorkspaceHome
