import WorkspaceHome.Proofs.Homepage.Promotion
import WorkspaceHome.Proofs.Operation.Invariant
import WorkspaceHome.Proofs.Operation.Ownership
import WorkspaceHome.Proofs.Store.Regular

/-!
# Visits

A visit is an operation by which a user leaves something to be remembered: opening an application,
viewing the release notes, or loading the homepage. In a regular store each visit makes one revision
(`Visit.store_perform`), and a run of visits makes their revisions one after another
(`Visit.storeAfter_eq`).
-/

namespace WorkspaceHome

open Recency Remembrance Service

/-! ### Visits -/

/-- What users do that is remembered of them. -/
inductive Visit where
  | record (caller : Caller) (application : Json)
  | view (caller : Caller)
  | homepage (caller : Caller) (url : Option String)

namespace Visit

/-- Who does it. -/
def caller : Visit → Caller
  | record c _ => c
  | view c => c
  | homepage c _ => c

/-- Whether an application is opened. -/
def isRecord : Visit → Bool
  | record .. => true
  | _ => false

/-- A visit as an operation. -/
def operation : Visit → Operation
  | record c application => .call (.recordRecent c application)
  | view c => .call (.ensureViewed c)
  | homepage c url => .call (.homepage c url)

/-- The store after visits one after another. -/
def storeAfter (visits : List Visit) (site : Site) : Store :=
  (Operation.performAll (visits.map operation) site).2.store

end Visit

/-! ### Visits as revisions -/

/-- Touching both recency lists, as a revision. Lists that cannot be touched stay. -/
def Remembrance.touching (id : Json) (workspace : ℕ) (limit : ℤ) (now : Timestamp) : Revision where
  change d :=
    match touchStored d.recentApplications id limit,
      touchStored d.recentWorkspaces (.int workspace) limit with
    | .ok applications, .ok workspaces => recorded d applications workspaces now
    | _, _ => d
  renumber d id' := by
    dsimp only
    split <;> rfl
  user_eq d := by
    split <;> rfl

namespace Visit

/-- The user for whom a visit is remembered, and the revision that it makes. -/
def revision? (site : Site) : Visit → Option (User × Revision)
  | record c application => do
    let u ← c.user? site.store
    let n ← application.rowId.toOption
    let a ← site.store.applications.find? n
    let id ← (GitMetadata.clientId (.int a.id) a.gitMetadata).toOption
    return (u, touching id a.workspace site.settings.recentLimit site.clock)
  | view c | homepage c _ => do
    let u ← c.user? site.store
    return (u, viewing site.settings.appVersion site.clock)

/-- What a visit on a site makes of a store. -/
def writeTo (site : Site) (s : Store) (v : Visit) : Store :=
  match v.revision? site with
  | some (u, r) => s.revise u.id site.clock r
  | none => s

/-! ### One visit -/

/-- Nothing is written for a caller who is no user, if nothing is for such a viewer. -/
theorem store_eq_of_no_user {c : Caller} {s : Site} {x : Viewer → Service Json}
    (hnone : ∀ u, (c.viewer.exec s).1 ≠ .ok (.user u))
    (hx : ∀ viewer, (∀ u, viewer ≠ .user u) →
      (upholding fun store => store = s.store).Keeps (x viewer)) :
    ((c.viewer >>= x).exec s).2.store = s.store :=
  Caller.keepsAt_of_no_user hnone hx rfl

section act

variable {s : Site} (c : Caller)

theorem writeTo_of_no_user {v : Visit} {site : Site} (hu : v.caller.user? site.store = none)
    (s : Store) : v.writeTo site s = s := by
  have hnone : v.revision? site = none := by
    cases v <;> (unfold revision?; dsimp only [caller] at hu ⊢; rw [hu]; rfl)
  rw [writeTo, hnone]

theorem store_act_record (key : Json) (h : s.store.Regular) :
    ((ServiceCall.recordRecent c key).perform.exec s).2.store =
      (record c key).writeTo s s.store := by
  unfold ServiceCall.perform
  dsimp only
  rcases c.exec_viewer s with ⟨u, hu, hviewer⟩ | ⟨hu, hviewer⟩
  · rw [exec_bind_ok hviewer]
    unfold writeTo revision?
    dsimp only
    rw [hu]
    -- the revision goes through the same lookups, and is none where one of them fails
    cases hkey : key.rowId with
    | error e => rfl
    | ok n =>
      rw [exec_settle_ok_bind, exec_ask_bind]
      simp only [Option.bind_eq_bind, Option.bind_some, Except.toOption]
      cases hrow : s.store.applications.find? n with
      | none => rfl
      | some a =>
        obtain ⟨id, hid, hscalar⟩ := GitMetadata.clientId_ok (Json.isScalar_int a.id)
          (h.metadata a (Table.find?_eq_some_iff.mp hrow).1)
        obtain ⟨workspaces, applications, hshape⟩ := h.wellShaped u.id
        have hrecordable := Homepage.recordable hshape hid hscalar
        rw [show existing (some a) = .ok a from rfl, exec_settle_ok_bind, exec_bind_pure,
          exec_recordRecent_eq hrecordable]
        simp only [Option.bind_some, hid]
        -- touching both lists gives the row that is saved
        refine Store.revise_congr ?_
        show recorded _ _ _ _ = (touching _ _ _ _).change _
        unfold touching
        dsimp only
        rw [hrecordable.touchApplications, hrecordable.touchWorkspaces]
  -- a caller who is no user leaves the store
  · rw [writeTo_of_no_user hu]
    refine store_eq_of_no_user hviewer fun viewer hno => (Frame.keeps_settle _).bind fun n =>
      (Frame.keeps_ask _).bind fun found => (Frame.keeps_settle _).bind fun a =>
        Frame.Keeps.bind (fun t ht => ?_) fun _ => Frame.keeps_pure _
    rw [(leaves_recordRecent viewer a t).store_eq_of_not, ht]
    rintro _ _ ⟨u, _, _, _, huser, -⟩
    exact hno u huser

theorem store_act_view (h : s.store.Regular) :
    ((ServiceCall.ensureViewed c).perform.exec s).2.store = (view c).writeTo s s.store := by
  unfold ServiceCall.perform
  dsimp only
  rcases c.exec_viewer s with ⟨u, hu, hviewer⟩ | ⟨hu, hviewer⟩
  · obtain ⟨workspaces, applications, hshape⟩ := h.wellShaped u.id
    rw [exec_bind_ok hviewer, exec_bind_pure, exec_ensureViewed_eq (hshape.viewable s.clock)]
    unfold writeTo revision?
    dsimp only
    rw [hu]
    rfl
  · rw [writeTo_of_no_user hu]
    refine store_eq_of_no_user hviewer fun viewer hno =>
      Frame.Keeps.bind (fun t ht => ?_) fun _ => Frame.keeps_pure _
    rw [(leaves_ensureViewed viewer t).store_eq_of_not, ht]
    rintro _ _ ⟨u, huser, -⟩
    exact hno u huser

theorem store_act_homepage (url : Option String) (h : s.store.Regular) :
    ((ServiceCall.homepage c url).perform.exec s).2.store =
      (homepage c url).writeTo s s.store := by
  unfold ServiceCall.perform
  dsimp only
  rcases c.exec_viewer s with ⟨u, hu, hviewer⟩ | ⟨hu, hviewer⟩
  · -- the homepage is built, so that it leaves what it is told to leave
    obtain ⟨workspaces, applications, hshape⟩ := h.wellShaped u.id
    obtain ⟨shown, t, hbuild, -, -⟩ := Homepage.build_ok s hshape url
    have hleaves := Homepage.leaves_build (.user u) url s
    unfold Leaves at hleaves
    rw [hbuild] at hleaves
    obtain ⟨_, ⟨⟩, hstore⟩ := hleaves
    rw [exec_bind_ok hviewer, exec_bind_ok hbuild, exec_pure]
    unfold writeTo revision?
    dsimp only
    rw [hu]
    exact hstore
  · rw [writeTo_of_no_user hu]
    refine store_eq_of_no_user hviewer fun viewer hno =>
      Frame.Keeps.bind (fun t ht => ?_) fun _ => Frame.keeps_pure _
    rw [(Homepage.leaves_build viewer url t).store_eq_of_not, ht]
    rintro _ _ ⟨u, huser, -⟩
    exact hno u huser

end act

/-- The time and the settings stay. -/
def steady : Frame where
  rel s t := t.clock = s.clock ∧ t.settings = s.settings
  refl := fun _ => ⟨rfl, rfl⟩
  trans := fun h h' => ⟨h'.1.trans h.1, h'.2.trans h.2⟩

theorem steady_upheld : steady.Upheld := by
  have hwritable : steady.Writable :=
    Frame.Writable.of_store (fun _ _ => ⟨rfl, rfl⟩) fun _ _ => ⟨rfl, rfl⟩
  exact hwritable.upheld ⟨⟨fun _ _ _ => ⟨rfl, rfl⟩⟩, fun _ _ => ⟨rfl, rfl⟩, fun _ _ => ⟨rfl, rfl⟩⟩

/-- **A visit makes its revision** and nothing else, in a store of the right shape. -/
theorem store_perform (v : Visit) {s : Site} (h : s.store.Regular) :
    (v.operation.perform s).2.store = v.writeTo s s.store ∧
      (v.operation.perform s).2.clock = s.clock ∧
      (v.operation.perform s).2.settings = s.settings := by
  cases v with
  | record c key =>
    exact ⟨store_act_record c key (s := { s with log := [], requests := [] }) h,
      steady_upheld.call (.recordRecent c key) { s with log := [], requests := [] }⟩
  | view c =>
    exact ⟨store_act_view c (s := { s with log := [], requests := [] }) h,
      steady_upheld.call (.ensureViewed c) { s with log := [], requests := [] }⟩
  | homepage c url =>
    exact ⟨store_act_homepage c url (s := { s with log := [], requests := [] }) h,
      steady_upheld.call (.homepage c url) { s with log := [], requests := [] }⟩

/-! ### What a revision may be -/

/-- The revision of a visit is that of a user behind its caller: it touches the lists with a scalar
if an application is opened, and fixes the viewed version otherwise. -/
theorem revision?_spec {v : Visit} {site : Site} (hmetadata : ∀ a ∈ site.store.applications.rows,
    a.gitMetadata.IsMetadata) {u : User} {r : Revision} (h : v.revision? site = some (u, r)) :
    v.caller.user? site.store = some u ∧
      (v.isRecord = true → ∃ id workspace, id.IsScalar ∧
        r = touching id workspace site.settings.recentLimit site.clock) ∧
      (v.isRecord = false → r = viewing site.settings.appVersion site.clock) := by
  unfold revision? at h
  -- each kind of visit revises its user's row, if the rows it names are there
  cases v with
  | record c key =>
    obtain ⟨u', hu, h⟩ := Option.bind_eq_some_iff.mp h
    obtain ⟨n, -, h⟩ := Option.bind_eq_some_iff.mp h
    obtain ⟨a, ha, h⟩ := Option.bind_eq_some_iff.mp h
    obtain ⟨id, hid, h⟩ := Option.bind_eq_some_iff.mp h
    cases h
    obtain ⟨id', hid', hscalar⟩ := GitMetadata.clientId_ok (Json.isScalar_int a.id)
      (hmetadata a (Table.find?_eq_some_iff.mp ha).1)
    rw [hid'] at hid
    cases hid
    exact ⟨hu, fun _ => ⟨_, _, hscalar, rfl⟩, fun hno => Bool.noConfusion hno⟩
  | view c =>
    obtain ⟨u', hu, h⟩ := Option.bind_eq_some_iff.mp h
    cases h
    exact ⟨hu, fun hrecord => Bool.noConfusion hrecord, fun _ => rfl⟩
  | homepage c url =>
    obtain ⟨u', hu, h⟩ := Option.bind_eq_some_iff.mp h
    cases h
    exact ⟨hu, fun hrecord => Bool.noConfusion hrecord, fun _ => rfl⟩

/-- A visit leaves lists of scalars. -/
theorem hasScalarLists_change {v : Visit} {site : Site} (hmetadata : ∀ a ∈
    site.store.applications.rows, a.gitMetadata.IsMetadata) {u : User} {r : Revision}
    (h : v.revision? site = some (u, r)) (d : UserData) (hd : d.HasScalarLists) :
    (r.change d).HasScalarLists := by
  obtain ⟨-, hrecord, hview⟩ := revision?_spec hmetadata h
  obtain ⟨workspaces, applications, hws, has, hwids, haids⟩ := hd
  cases hkind : v.isRecord with
  | true =>
    obtain ⟨id, workspace, hid, rfl⟩ := hrecord hkind
    refine ⟨touch workspaces (.int workspace) site.settings.recentLimit,
      touch applications id site.settings.recentLimit, ?_, ?_,
      Homepage.isScalar_of_mem_touch (Json.isScalar_int _) hwids,
      Homepage.isScalar_of_mem_touch hid haids⟩
    all_goals
      unfold touching
      dsimp only
      rw [has, hws, touchStored_list (scalars_of_isScalar haids),
        touchStored_list (scalars_of_isScalar hwids)]
      rfl
  | false =>
    obtain rfl := hview hkind
    obtain ⟨hviewedWorkspaces, hviewedApplications⟩ :=
      viewed_recent d site.settings.appVersion site.clock
    exact ⟨workspaces, applications, hviewedWorkspaces.trans hws, hviewedApplications.trans has,
      hwids, haids⟩

/-! ### Runs of visits -/

section writeTo

variable {site : Site} {s t : Store} {v w : Visit}

theorem writeTo_regular (hmetadata : ∀ a ∈ site.store.applications.rows,
    a.gitMetadata.IsMetadata) (v : Visit) (hs : s.Regular) : (v.writeTo site s).Regular := by
  unfold writeTo
  cases hv : v.revision? site with
  | none => exact hs
  | some effect =>
    obtain ⟨u, r⟩ := effect
    exact hs.revise u.id site.clock (hasScalarLists_change hmetadata hv)

theorem beside_writeTo (site : Site) (s : Store) (v : Visit) : s.Beside (v.writeTo site s) := by
  unfold writeTo
  cases v.revision? site with
  | none => exact Store.Beside.refl s
  | some effect => exact Store.beside_revise _ _ _ _

end writeTo

/-- What visits on a site make of a store. -/
def writeAll (site : Site) (visits : List Visit) (s : Store) : Store :=
  visits.foldl (writeTo site) s

/-- What a visit makes of a store depends on the applications, the users, the time and the settings
of the site alone. -/
theorem writeTo_site {site site' : Site} (happlications :
    site'.store.applications = site.store.applications) (husers :
    site'.store.users = site.store.users) (hclock : site'.clock = site.clock)
    (hsettings : site'.settings = site.settings) (s : Store) (v : Visit) :
    v.writeTo site' s = v.writeTo site s := by
  have huser (c : Caller) : c.user? site'.store = c.user? site.store := by
    cases c with
    | named username =>
      unfold Caller.user? Store.userNamed?
      rw [husers]
    | _ => rfl
  have hrevision : v.revision? site' = v.revision? site := by
    cases v <;> (unfold revision?; dsimp only; rw [huser, hclock, hsettings])
    rw [happlications]
  unfold writeTo
  rw [hrevision, hclock]

/-- **A run of visits makes their revisions** one after another, in a store of the right shape. -/
theorem storeAfter_eq (visits : List Visit) (site : Site) (h : site.store.Regular) :
    storeAfter visits site = writeAll site visits site.store := by
  unfold storeAfter writeAll
  -- the site moves on, but not in what the revisions depend on
  induction visits generalizing site with
  | nil => rfl
  | cons v rest ih =>
    obtain ⟨hstore, hclock, hsettings⟩ := v.store_perform h
    have hbeside := beside_writeTo site site.store v
    have hregular := writeTo_regular h.metadata v h
    rw [← hstore] at hbeside hregular
    rw [List.map_cons, Operation.performAll_cons, List.foldl_cons]
    dsimp only
    rw [ih _ hregular, ← hstore]
    congr 1
    funext s w
    exact writeTo_site hbeside.applications hbeside.users hclock hsettings s w

end Visit

end WorkspaceHome
