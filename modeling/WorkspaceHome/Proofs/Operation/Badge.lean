import Mathlib.Tactic.SplitIfs
import WorkspaceHome.Proofs.Homepage.Unaffected
import WorkspaceHome.Proofs.Http.Homepage
import WorkspaceHome.Proofs.Operation.Caller
import WorkspaceHome.Proofs.Store.Savable

/-!
# The badge over a run

A user views the release notes by a completed homepage, called or requested, or by a call that
fixes the viewed version (`Step.views`). The version that is fixed is the one of the first such step
(`firstVersion`), however the version of the service changes later, and whatever other users, the
clock, the cache and the feed do (`viewedBy_performAll`). So the first homepage has no badge, and
every later one counts the releases since that version (`badge_of_first_view`).
-/

namespace WorkspaceHome

open Service

variable {user : ℕ}

/-! ### What is stored of the viewed version -/

namespace Store

/-- The version whose release notes count as seen by a user. -/
def viewedBy (s : Store) (user : ℕ) : Option String := (s.dataOf? user).bind (·.viewedVersion)

variable {s t : Store}

theorem viewedBy_of_dataOf? {d : UserData} (h : s.dataOf? user = some d) :
    s.viewedBy user = d.viewedVersion := by
  rw [viewedBy, h, Option.bind_some]

theorem viewedBy_congr (h : t.dataOf? user = s.dataOf? user) :
    t.viewedBy user = s.viewedBy user := by
  rw [viewedBy, viewedBy, h]

/-- The viewed version that is remembered is the one that is stored. -/
theorem remembered_viewedVersion (s : Store) (user : ℕ) (now : Timestamp) :
    (s.remembered user now).viewedVersion = s.viewedBy user := by
  unfold remembered viewedBy
  cases s.dataOf? user <;> rfl

end Store

/-! ### What leaves the viewed version -/

/-- The viewed version of a user stays the same, and the user's row can still be saved. -/
def guarding (user : ℕ) : Frame where
  rel s t := t.store.viewedBy user = s.store.viewedBy user ∧
    (s.store.Savable user → t.store.Savable user)
  refl := fun _ => ⟨rfl, id⟩
  trans := fun h h' => ⟨h'.1.trans h.1, h'.2 ∘ h.2⟩

theorem guarding_of_dataOf? {s t : Site} (h : t.store.dataOf? user = s.store.dataOf? user) :
    (guarding user).rel s t := ⟨Store.viewedBy_congr h, fun hs => hs.congr h⟩

theorem guarding_lenient : (guarding user).Lenient where
  entry := fun _ _ _ => guarding_of_dataOf? rfl
  cache := fun _ _ => guarding_of_dataOf? rfl
  requests := fun _ _ => guarding_of_dataOf? rfl

/-- Recording an application leaves the viewed version, also when it makes the row. -/
theorem guarding_record (viewer : Viewer) (a : Application) (s : Site) :
    (guarding user).KeepsAt (Remembrance.recordRecent viewer a) s := by
  unfold Frame.KeepsAt
  rcases Remembrance.recordRecent_cases viewer a s with
    ⟨e, events, hexec, -⟩ | ⟨u, id, applications, workspaces, rfl, hrecord⟩
  · rw [hexec]
    exact guarding_of_dataOf? rfl
  · obtain ⟨store, hexec, hrow, hsame⟩ := Remembrance.exec_recordRecent_ok hrecord
    rw [hexec]
    by_cases huser : u.id = user
    · subst huser
      refine ⟨?_, fun _ => ?_⟩
      · exact (Store.viewedBy_of_dataOf? hrow).trans (s.store.remembered_viewedVersion u.id s.clock)
      · exact Store.savable_of_dataOf? hrow hrecord.keepWorkspaces hrecord.keepApplications
    · exact guarding_of_dataOf? (hsame.dataOf?_eq (Ne.symm huser))

theorem guarding_create (name : Json) (viewer : Viewer) :
    (guarding user).Keeps (Workspaces.create name viewer) := by
  have hfound : (guarding user).Keeps (Workspaces.found name viewer) := by
    intro s
    obtain ⟨store, hafter, -, hdata⟩ := keeps_aside_found name viewer s
    unfold Frame.KeepsAt
    rw [hafter]
    refine guarding_of_dataOf? ?_
    unfold Store.dataOf?
    rw [hdata]
  unfold Workspaces.create
  refine Frame.Keeps.bind ?_ fun result =>
    (guarding_lenient.log (by rfl)).bind fun _ => Frame.keeps_pure _
  exact hfound.tryCatch fun e => Frame.keeps_throw _

/-- A call that does not fix the viewed version of anybody leaves it. -/
theorem guarding_call {call : ServiceCall} (h : Frame.fixesVersion call = false) :
    (guarding user).Keeps call.perform := by
  refine guarding_lenient.call (fun viewer s a _ => guarding_record viewer a s) guarding_create
    call fun hfixes => ?_
  rw [h] at hfixes
  cases hfixes

/-! ### What fixes the viewed version -/

/-- What fixes no version leaves the one that is viewed. -/
theorem or_no_version (viewed : Option String) (version : String) :
    viewed.or (if false = true then some version else none) = viewed := Option.or_none

/-- Whether a viewer is a user. -/
def Viewer.isUser (user : ℕ) : Viewer → Bool
  | .user u => u.id == user
  | _ => false

/-- Fixing the viewed version changes it for the viewer only, and only if there is none. It succeeds
for a user whose row can be saved. -/
theorem viewedBy_ensureViewed (viewer : Viewer) {s : Site} (hs : s.store.Savable user) :
    let after := (Remembrance.ensureViewed viewer).exec s
    after.2.store.viewedBy user =
        (s.store.viewedBy user).or
          (if viewer.isUser user then some s.settings.appVersion else none) ∧
      after.2.store.Savable user ∧ (viewer.isUser user = true → ∃ d, after.1 = .ok d) := by
  dsimp only
  cases viewer with
  | nobody => exact ⟨Option.or_none.symm, hs, nofun⟩
  | anonymous => exact ⟨Option.or_none.symm, hs, nofun⟩
  | user u =>
    by_cases huser : u.id = user
    · subst huser
      -- the row is saved as a whole, so its lists have to be fit to be stored
      have hkeep := (Store.savable_iff_remembered s.clock).mp hs
      obtain ⟨store, hexec, hrow, -⟩ := Remembrance.exec_ensureViewed_ok (Or.inr hkeep)
      obtain ⟨hws, has⟩ := Remembrance.viewed_recent (s.store.remembered u.id s.clock)
        s.settings.appVersion s.clock
      rw [hexec, show Viewer.isUser u.id (.user u) = true from beq_self_eq_true _, if_pos rfl,
        ← s.store.remembered_viewedVersion u.id s.clock]
      refine ⟨?_, ?_, fun _ => ⟨_, rfl⟩⟩
      · exact (Store.viewedBy_of_dataOf? hrow).trans (Remembrance.viewed_viewedVersion _ _ _)
      · exact Store.savable_of_dataOf? hrow (hws ▸ hkeep.1) (has ▸ hkeep.2)
    · have hother : Viewer.isUser user (.user u) = false := by simpa [Viewer.isUser] using huser
      -- whether or not another user's row can be saved, the user's own is not touched
      have hdata : ((Remembrance.ensureViewed (.user u)).exec s).2.store.dataOf? user =
          s.store.dataOf? user := by
        by_cases hviewable : Remembrance.Viewable (s.store.remembered u.id s.clock)
        · obtain ⟨store, hexec, -, hsame⟩ := Remembrance.exec_ensureViewed_ok hviewable
          rw [hexec]
          exact hsame.dataOf?_eq (Ne.symm huser)
        · rw [Remembrance.exec_ensureViewed_error hviewable]
          rfl
      rw [hother, or_no_version]
      exact ⟨Store.viewedBy_congr hdata, hs.congr hdata, nofun⟩

/-- A homepage that is built fixes the viewed version of its user; one that fails changes nothing of
what is remembered of a user whose row can be saved. -/
theorem viewedBy_build (viewer : Viewer) (url : Option String) {s : Site}
    (hs : s.store.Savable user) :
    let after := (Homepage.build viewer url).exec s
    after.2.store.viewedBy user =
        (s.store.viewedBy user).or
          (if viewer.isUser user && after.1.isOk then some s.settings.appVersion else none) ∧
      after.2.store.Savable user := by
  dsimp only
  cases viewer with
  | nobody => exact ⟨Option.or_none.symm, hs⟩
  | anonymous => exact ⟨Option.or_none.symm, hs⟩
  | user u =>
    obtain ⟨houtcome, hstore⟩ := Homepage.outcome_build u url s
    obtain ⟨hviewed, hsavable, hok⟩ := viewedBy_ensureViewed (.user u) hs
    rw [houtcome, hstore]
    -- the homepage fails over its groups, or it comes to what fixing the viewed version comes to
    cases (Homepage.shownTo s.store u.id).1 with
    | error e =>
      refine ⟨?_, hs⟩
      show _ = (s.store.viewedBy user).or (if (_ && false) = true then _ else _)
      rw [Bool.and_false, or_no_version]
    | ok groups =>
      refine ⟨?_, hsavable⟩
      dsimp only
      rw [hviewed]
      by_cases huser : Viewer.isUser user (.user u) = true
      · obtain ⟨d, hd⟩ := hok huser
        rw [hd, huser]
        rfl
      · rw [Bool.not_eq_true] at huser
        rw [huser, Bool.false_and]

/-! ### One step -/

/-- Whether a caller is a user of a store. -/
def Caller.isUser (user : ℕ) (s : Store) : Caller → Bool
  | .named username => (s.userNamed? username).any fun u => u.id == user
  | _ => false

/-- Whether a request is for the homepage of a user, and the homepage is built. -/
def Http.Request.opens (user : ℕ) (s : Site) (message : Http.Request) (caller : Caller) : Bool :=
  match caller.user? s.store with
  | some u =>
    u.id == user && decide ({ message with viewer := .user u }.reaches = some .homepage) &&
      ((Homepage.build (.user u) none).exec s).1.isOk
  | none => false

/-- Whether a user views the release notes by a step: it is a call to fix the viewed version, or a
homepage that is built, for a call or for a request. -/
def Step.views (user : ℕ) (step : Step) : Bool :=
  match step.operation with
  | .call (.ensureViewed caller) => caller.isUser user step.before.store
  | .call (.homepage caller _) => caller.isUser user step.before.store && step.report.outcome.isOk
  | .request message caller => message.opens user step.before caller
  | _ => false

/-- The version that a step fixes for a user of whom none is stored. -/
def Step.version? (user : ℕ) (step : Step) : Option String :=
  if step.views user then some step.before.settings.appVersion else none

/-- The version of the service at the first of some steps by which a user views the release
notes. -/
def firstVersion (user : ℕ) (steps : List Step) : Option String :=
  (steps.find? (·.views user)).map (·.before.settings.appVersion)

theorem firstVersion_cons (step : Step) (rest : List Step) :
    firstVersion user (step :: rest) = (step.version? user).or (firstVersion user rest) := by
  unfold firstVersion Step.version?
  rw [List.find?_cons]
  cases step.views user <;> rfl

/-- A caller is a viewer, without any change, or there is no user of this name. -/
theorem exec_viewer_cases (user : ℕ) (caller : Caller) (s : Site) :
    (∃ viewer, caller.viewer.exec s = (.ok viewer, s) ∧
        viewer.isUser user = caller.isUser user s.store) ∨
      caller.viewer.exec s = (.error .noSuchRow, s) ∧ caller.isUser user s.store = false := by
  cases caller with
  | nobody => exact Or.inl ⟨.nobody, rfl, rfl⟩
  | anonymous => exact Or.inl ⟨.anonymous, rfl, rfl⟩
  | named username =>
    unfold Caller.isUser
    dsimp only
    cases hnamed : s.store.userNamed? username with
    | some u => exact Or.inl ⟨.user u, exec_viewer_named hnamed, rfl⟩
    | none =>
      right
      refine ⟨?_, rfl⟩
      unfold Caller.viewer
      rw [exec_ask_bind, hnamed]
      rfl

/-- A call to fix the viewed version, by its caller. -/
theorem viewedBy_call_ensureViewed (caller : Caller) {s : Site} (hs : s.store.Savable user) :
    let after := (ServiceCall.ensureViewed caller).perform.exec s
    after.2.store.viewedBy user =
        (s.store.viewedBy user).or
          (if caller.isUser user s.store then some s.settings.appVersion else none) ∧
      after.2.store.Savable user := by
  unfold ServiceCall.perform
  dsimp only
  rcases exec_viewer_cases user caller s with ⟨viewer, hviewer, hcaller⟩ | ⟨hviewer, hcaller⟩
  · obtain ⟨hviewed, hsavable, -⟩ := viewedBy_ensureViewed viewer hs
    rw [exec_bind_ok hviewer, exec_bind_pure, ← hcaller]
    exact ⟨hviewed, hsavable⟩
  · rw [exec_bind_error hviewer, hcaller, or_no_version]
    exact ⟨rfl, hs⟩

/-- A call for a homepage, by its caller and its outcome. -/
theorem viewedBy_call_homepage (caller : Caller) (url : Option String) {s : Site}
    (hs : s.store.Savable user) :
    let after := (ServiceCall.homepage caller url).perform.exec s
    after.2.store.viewedBy user =
        (s.store.viewedBy user).or
          (if caller.isUser user s.store && after.1.isOk then some s.settings.appVersion
            else none) ∧
      after.2.store.Savable user := by
  unfold ServiceCall.perform
  dsimp only
  rcases exec_viewer_cases user caller s with ⟨viewer, hviewer, hcaller⟩ | ⟨hviewer, hcaller⟩
  · rw [exec_bind_ok hviewer, exec_bind_pure, ← hcaller]
    have hshown : (((Homepage.build viewer url).exec s).1.map Homepage.toJson).isOk =
        ((Homepage.build viewer url).exec s).1.isOk := by
      cases ((Homepage.build viewer url).exec s).1 <;> rfl
    rw [hshown]
    exact viewedBy_build viewer url hs
  · rw [exec_bind_error hviewer, hcaller, Bool.false_and, or_no_version]
    exact ⟨rfl, hs⟩

/-- Whether a homepage is built depends on no more than the ground of a site. -/
theorem Homepage.isOk_build_congr {s t : Site} (h : s.ground = t.ground) (viewer : Viewer)
    (url : Option String) :
    ((build viewer url).exec s).1.isOk = ((build viewer url).exec t).1.isOk := by
  have hstore : s.store = t.store := congrArg Prod.fst h
  cases viewer with
  | nobody => rfl
  | anonymous => rfl
  | user u =>
    rw [(outcome_build u url s).1, (outcome_build u url t).1,
      (Remembrance.seesOnly_ensureViewed (.user u) s t h).1, hstore]
    cases (shownTo t.store u.id).1 with
    | error e => rfl
    | ok groups => cases ((Remembrance.ensureViewed (.user u)).exec t).1 <;> rfl

theorem Http.Request.opens_congr {s t : Site} (h : s.ground = t.ground) (message : Http.Request)
    (caller : Caller) : message.opens user s caller = message.opens user t caller := by
  have hstore : s.store = t.store := congrArg Prod.fst h
  unfold opens
  rw [hstore]
  cases caller.user? t.store with
  | none => rfl
  | some u =>
    dsimp only
    rw [Homepage.isOk_build_congr h]

/-- A request, by the endpoint whose view it reaches: only that of the homepage fixes anything. -/
theorem viewedBy_serve (r : Http.Request) {s : Site} (hs : s.store.Savable user) :
    ((Http.serve r).exec s).2.store.viewedBy user =
        (s.store.viewedBy user).or
          (if r.viewer.isUser user && decide (r.reaches = some .homepage) &&
              ((Homepage.build r.viewer none).exec s).1.isOk then
            some s.settings.appVersion else none) ∧
      ((Http.serve r).exec s).2.store.Savable user := by
  have hcontext : (guarding user).IgnoresContext := fun _ _ => guarding_of_dataOf? rfl
  have hmild : (guarding user).Mild := guarding_lenient.toMild
  by_cases hhome : r.reaches = some .homepage
  · -- what the homepage leaves is what the request leaves, but for what is noted
    obtain ⟨hviewed, hsavable⟩ :=
      viewedBy_build r.viewer none (s := { s with context := r.context }) hs
    have hview := Frame.homepageView_follows (F := guarding user) r.viewer
      { s with context := r.context }
    have hserve := hmild.serve_of_some hcontext hhome s
    obtain ⟨hsame, hkeeps⟩ := (guarding user).trans hview hserve
    have hok := Homepage.isOk_build_congr (s := { s with context := r.context }) (t := s) rfl
      r.viewer none
    rw [hok] at hviewed
    rw [decide_eq_true hhome, Bool.and_true]
    exact ⟨hsame.trans hviewed, hkeeps hsavable⟩
  · have hkept : (guarding user).KeepsAt (Http.serve r) s := by
      cases hreaches : r.reaches with
      | none => exact hmild.serve_of_none hcontext hreaches s
      | some e =>
        have hother : e ≠ .homepage := fun he => hhome (hreaches.trans (congrArg some he))
        have hview := hmild.view_of_ne (fun viewer s a _ => guarding_record viewer a s)
          guarding_create guarding_lenient.probe r hother { s with context := r.context }
        exact (guarding user).trans (hcontext s r.context)
          ((guarding user).trans hview (hmild.serve_of_some hcontext hreaches s))
    rw [decide_eq_false hhome, Bool.and_false, Bool.false_and, or_no_version]
    exact ⟨hkept.1, hkept.2 hs⟩

/-- A request, by its caller and the homepage that is built for it. -/
theorem viewedBy_request (message : Http.Request) (caller : Caller) {s : Site}
    (hs : s.store.Savable user) :
    let after := (Operation.request message caller).act.exec s
    after.2.store.viewedBy user =
        (s.store.viewedBy user).or
          (if message.opens user s caller then some s.settings.appVersion else none) ∧
      after.2.store.Savable user := by
  unfold Operation.act Http.Request.opens
  dsimp only
  rcases Caller.exec_viewer caller s with ⟨u, huser, hviewer⟩ | ⟨hnone, hviewer⟩
  · obtain ⟨hviewed, hsavable⟩ := viewedBy_serve { message with viewer := .user u } hs
    rw [exec_bind_ok hviewer, exec_bind_pure, huser]
    dsimp only [Viewer.isUser] at hviewed hsavable ⊢
    exact ⟨hviewed, hsavable⟩
  · -- a viewer who is no user opens nothing
    rw [hnone]
    dsimp only
    rw [or_no_version]
    have hsame := Frame.keeps_viewer (F := Frame.unchanged) caller s
    rcases hexec : caller.viewer.exec s with ⟨e | viewer, t⟩
    · rw [Frame.KeepsAt, hexec] at hsame
      obtain rfl : t = s := hsame
      rw [exec_bind_error hexec]
      exact ⟨rfl, hs⟩
    · rw [Frame.KeepsAt, hexec] at hsame
      obtain rfl : t = s := hsame
      have hother : viewer.isUser user = false := by
        cases viewer with
        | user u => exact absurd (congrArg Prod.fst hexec) (hviewer u)
        | _ => rfl
      obtain ⟨hviewed, hsavable⟩ := viewedBy_serve { message with viewer } hs
      rw [hother, Bool.false_and, Bool.false_and, or_no_version] at hviewed
      rw [exec_bind_ok hexec, exec_bind_pure]
      dsimp only at hviewed hsavable ⊢
      exact ⟨hviewed, hsavable⟩

/-- **A step by which a user views the release notes** fixes the viewed version of this user, if
there is none; every other step leaves it, unless an administrator overrules it. -/
theorem viewedBy_perform {operation : Operation} {s : Site} (hs : s.store.Savable user)
    (hspared : ¬ (Step.mk s operation (operation.perform s).1).Overrules user) :
    (operation.perform s).2.store.viewedBy user =
        (s.store.viewedBy user).or
          ((Step.mk s operation (operation.perform s).1).version? user) ∧
      (operation.perform s).2.store.Savable user := by
  -- a step that is no view guards what is remembered of the user
  have hguarded (hkeep : (guarding user).KeepsAt operation.act { s with log := [], requests := [] })
      (hviews : (Step.mk s operation (operation.perform s).1).views user = false) :
      (operation.perform s).2.store.viewedBy user =
          (s.store.viewedBy user).or
            ((Step.mk s operation (operation.perform s).1).version? user) ∧
        (operation.perform s).2.store.Savable user := by
    unfold Step.version?
    rw [hviews, or_no_version]
    exact ⟨hkeep.1, hkeep.2 hs⟩
  cases operation with
  | request message caller =>
    obtain ⟨hviewed, hsavable⟩ :=
      viewedBy_request message caller (s := { s with log := [], requests := [] }) hs
    rw [message.opens_congr (s := { s with log := [], requests := [] }) (t := s) rfl caller]
      at hviewed
    exact ⟨hviewed, hsavable⟩
  | rows operation =>
    have hkeep := sparing_rows (s := { s with log := [], requests := [] }) operation hspared
    exact hguarded (guarding_of_dataOf? hkeep.2) rfl
  | surroundings operation =>
    exact hguarded (guarding_of_dataOf? (sparing_surroundings operation _).2) rfl
  | call operation =>
    cases operation with
    | ensureViewed caller =>
      exact viewedBy_call_ensureViewed caller (s := { s with log := [], requests := [] }) hs
    | homepage caller url =>
      exact viewedBy_call_homepage caller url (s := { s with log := [], requests := [] }) hs
    | _ => exact hguarded (guarding_call rfl _) rfl

/-! ### A whole run -/

variable {operations : List Operation} {site : Site}

/-- **The viewed version over a run** is what it was, or else the version of the service at the
first step by which the user views the release notes; at each step, this is so of the steps
before. -/
theorem viewedBy_performAll (hs : site.store.Savable user)
    (hspared : ∀ step ∈ Operation.trace operations site, ¬ step.Overrules user) :
    (Operation.performAll operations site).2.store.viewedBy user =
        (site.store.viewedBy user).or (firstVersion user (Operation.trace operations site)) ∧
      ∀ earlier step later, Operation.trace operations site = earlier ++ step :: later →
        step.before.store.viewedBy user =
            (site.store.viewedBy user).or (firstVersion user earlier) ∧
          step.report = (step.operation.perform step.before).1 := by
  induction operations generalizing site with
  | nil =>
    refine ⟨Option.or_none.symm, fun earlier step later h => ?_⟩
    exact absurd h.symm (List.append_ne_nil_of_right_ne_nil _ (List.cons_ne_nil _ _))
  | cons operation rest ih =>
    rw [Operation.trace] at hspared ⊢
    obtain ⟨hfirst, hspared⟩ := List.forall_mem_cons.mp hspared
    obtain ⟨hviewed, hsavable⟩ := viewedBy_perform hs hfirst
    obtain ⟨hrun, hsteps⟩ := ih hsavable hspared
    -- what the first step leaves is what the others start from
    rw [hviewed] at hrun hsteps
    refine ⟨?_, fun earlier step later h => ?_⟩
    · rw [Operation.performAll_cons, firstVersion_cons, hrun, Option.or_assoc]
    · cases earlier with
      | nil =>
        obtain ⟨rfl, -⟩ := List.cons.inj h
        exact ⟨Option.or_none.symm, rfl⟩
      | cons first earlier =>
        obtain ⟨rfl, hlater⟩ := List.cons.inj h
        obtain ⟨hbefore, hreport⟩ := hsteps earlier step later hlater
        refine ⟨?_, hreport⟩
        rw [hbefore, firstVersion_cons, Option.or_assoc]

/-! ### The badge -/

/-- The badge of a homepage that lists releases, for a user who has viewed a version. -/
def badgeSince : Option String → List ReleaseNotes.Node → String
  | none, _ => ""
  | some version, releases =>
    let count := (ReleaseNotes.newsSince (.text version) releases).text
    if count = "0" then "" else count

/-- The badge of a homepage that is built counts from what its user has viewed before. -/
theorem badge_of_build {u : User} {url : Option String} {s : Site} {h : Homepage}
    (hbuilt : ((Homepage.build (.user u) url).exec s).1 = .ok h) :
    h.news.badge = badgeSince (s.store.viewedBy u.id) h.releases := by
  rw [(Homepage.outcome_build u url s).1] at hbuilt
  obtain ⟨groups, -, hbuilt⟩ := bind_eq_ok_iff.mp hbuilt
  obtain ⟨viewed, -, rfl⟩ := map_eq_ok_iff.mp hbuilt
  unfold Homepage.assembled Store.viewedBy
  dsimp only
  cases (s.store.dataOf? u.id).bind (·.viewedVersion) with
  | none =>
    rw [Option.map_none, Option.getD_none, ReleaseNotes.newsSince_null]
    rfl
  | some version => exact ReleaseNotes.News.badge_eq _

/-- A call for a homepage that succeeds shows a homepage with the badge of its user. -/
theorem badge_call_homepage {caller : Caller} {url : Option String} {s : Site} {v : Json}
    (hcaller : caller.isUser user s.store = true)
    (hok : ((Operation.call (.homepage caller url)).perform s).1.outcome = .ok v) :
    ∃ h : Homepage, v = h.toJson ∧
      h.news.badge = badgeSince (s.store.viewedBy user) h.releases := by
  rw [perform_eq] at hok
  dsimp only [Operation.act, ServiceCall.perform] at hok
  rcases exec_viewer_cases user caller { s with log := [], requests := [] } with
    ⟨viewer, hviewer, hviewing⟩ | ⟨hviewer, hnobody⟩
  · rw [exec_bind_ok hviewer, exec_bind_pure] at hok
    obtain ⟨h, hbuilt, rfl⟩ := map_eq_ok_iff.mp hok
    refine ⟨h, rfl, ?_⟩
    rw [hcaller] at hviewing
    cases viewer with
    | nobody => cases hviewing
    | anonymous => cases hviewing
    | user u =>
      obtain rfl : u.id = user := by simpa [Viewer.isUser] using hviewing
      exact badge_of_build (s := { s with log := [], requests := [] }) hbuilt
  · rw [hnobody] at hcaller
    cases hcaller

/-- The response to a request that brings an id. -/
def Http.Request.replied (message : Http.Request) (id : String) (h : Homepage) : Http.Response :=
  { Http.respond (message.method.map Char.toUpper) 200 (some h.payload) with requestId := some id }

/-- A request by which a user views the release notes is answered with a homepage that has the badge
of this user. -/
theorem badge_request {message : Http.Request} {caller : Caller} {id : String} {s : Site}
    (hopens : message.opens user s caller = true)
    (hid : Http.HeaderValue.sent message.id = .ok id) :
    ∃ h : Homepage, ((Operation.request message caller).perform s).1.outcome =
        .ok (message.replied id h).toJson ∧
      h.news.badge = badgeSince (s.store.viewedBy user) h.releases := by
  rw [message.opens_congr (s := s) (t := { s with log := [], requests := [] }) rfl caller] at hopens
  unfold Http.Request.opens at hopens
  cases huser : caller.user? s.store with
  | none =>
    rw [huser] at hopens
    cases hopens
  | some u =>
    rw [huser] at hopens
    simp only [Bool.and_eq_true, decide_eq_true_eq] at hopens
    obtain ⟨⟨hsame, hreaches⟩, hok⟩ := hopens
    obtain rfl : u.id = user := beq_iff_eq.mp hsame
    obtain ⟨h, hbuilt⟩ := isOk_iff.mp hok
    have hviewer := Caller.exec_viewer_of_user? (s := { s with log := [], requests := [] }) huser
    -- the homepage that is built is the body of the response, whatever was noted before
    have hserve := Http.outcome_serve_homepage (r := { message with viewer := .user u })
      hreaches rfl hid hbuilt
    have hbadge := badge_of_build (s := { s with log := [], requests := [] }) hbuilt
    refine ⟨h, ?_, hbadge⟩
    rw [perform_eq]
    dsimp only [Operation.act]
    rw [exec_bind_ok hviewer, exec_bind_pure, hserve]
    rfl

/-- **The badge over a run**, for a user of whom no viewed version is stored: until the user first
views the release notes there is none, and from then on it is the version that the service had at
this step. Every homepage of the user that is built shows the badge for this version, in the outcome
of a call as in the response to a request: none on the first view, and afterwards the number of the
releases since then. That the user's row can be saved is so in every store that is reached from one
without such rows (`Store.savable_performAll`). -/
theorem badge_of_first_view (operations : List Operation) (site : Site) (user : ℕ)
    (hs : site.store.Savable user) (hunset : site.store.viewedBy user = none)
    (hspared : ∀ step ∈ Operation.trace operations site, ¬ step.Overrules user) :
    (Operation.performAll operations site).2.store.viewedBy user =
        firstVersion user (Operation.trace operations site) ∧
      ∀ earlier step later, Operation.trace operations site = earlier ++ step :: later →
        step.before.store.viewedBy user = firstVersion user earlier ∧
          (∀ caller url v, step.operation = .call (.homepage caller url) →
            caller.isUser user step.before.store = true → step.report.outcome = .ok v →
              ∃ h : Homepage, v = h.toJson ∧
                h.news.badge = badgeSince (firstVersion user earlier) h.releases) ∧
          ∀ message caller id, step.operation = .request message caller →
            step.views user = true → Http.HeaderValue.sent message.id = .ok id →
              ∃ h : Homepage, step.report.outcome = .ok (message.replied id h).toJson ∧
                h.news.badge = badgeSince (firstVersion user earlier) h.releases := by
  obtain ⟨hrun, hsteps⟩ := viewedBy_performAll hs hspared
  rw [hunset, Option.none_or] at hrun
  refine ⟨hrun, fun earlier step later h => ?_⟩
  obtain ⟨hbefore, hreport⟩ := hsteps earlier step later h
  rw [hunset, Option.none_or] at hbefore
  rw [← hbefore]
  refine ⟨rfl, ?_, ?_⟩
  · intro caller url v hcall hcaller hok
    rw [hreport, hcall] at hok
    exact badge_call_homepage hcaller hok
  · intro message caller id hrequest hviews hid
    unfold Step.views at hviews
    rw [hrequest] at hviews
    rw [hreport, hrequest]
    exact badge_request hviews hid

/-- A user views the release notes, the version of the service changes, and the user opens the
homepage twice, by a call and by a request. -/
def sampleViews : List Operation :=
  [.call (.ensureViewed (.named "ada")),
    .surroundings (.changeSettings [("APP_VERSION", .text "2.0")]),
    .call (.homepage (.named "ada") none),
    .request { target := "/api/v1/applications/home/" } (.named "ada")]

/-- A site of one user of whom nothing is stored. -/
def sampleNewcomer : Site := (Operation.performAll [.rows (.addUser "ada" "" "" "")] {}).2

/-- Three of the steps are views, and the version that is fixed is the one of the first. -/
theorem badge_of_first_view_sample :
    (Operation.trace sampleViews sampleNewcomer).map (·.views 1) = [true, false, true, true] ∧
      firstVersion 1 (Operation.trace sampleViews sampleNewcomer) = some "1.6.0" ∧
      (Operation.performAll sampleViews sampleNewcomer).2.store.viewedBy 1 =
        firstVersion 1 (Operation.trace sampleViews sampleNewcomer) ∧
      ∀ earlier step later,
        Operation.trace sampleViews sampleNewcomer = earlier ++ step :: later →
          step.before.store.viewedBy 1 = firstVersion 1 earlier ∧
            (∀ caller url v, step.operation = .call (.homepage caller url) →
              caller.isUser 1 step.before.store = true → step.report.outcome = .ok v →
                ∃ h : Homepage, v = h.toJson ∧
                  h.news.badge = badgeSince (firstVersion 1 earlier) h.releases) ∧
            ∀ message caller id, step.operation = .request message caller →
              step.views 1 = true → Http.HeaderValue.sent message.id = .ok id →
                ∃ h : Homepage, step.report.outcome = .ok (message.replied id h).toJson ∧
                  h.news.badge = badgeSince (firstVersion 1 earlier) h.releases := by
  have hsavable : sampleNewcomer.store.Savable 1 :=
    Store.savable_performAll _ (fun d hd => absurd hd List.not_mem_nil) 1
  refine ⟨by decide +kernel, rfl,
    badge_of_first_view sampleViews sampleNewcomer 1 hsavable rfl ?_⟩
  intro step hstep
  rcases hstep with _ | ⟨_, _ | ⟨_, _ | ⟨_, _ | ⟨_, ⟨⟩⟩⟩⟩⟩ <;> exact id

end WorkspaceHome
