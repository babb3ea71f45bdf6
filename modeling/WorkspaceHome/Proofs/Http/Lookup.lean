import WorkspaceHome.Proofs.Homepage.Promotion
import WorkspaceHome.Proofs.Http.Answer
import WorkspaceHome.Proofs.Lookup

/-!
# Looking up a segment of a path

Two endpoints take a key from the path: one notes that an application has been opened, the other one
shows a workspace. Whatever the key is, each is answered by the end of the lookup: with the row, or
403, or 404, or, if the key looks like a number and cannot be read, with the status of a fault
(`recentApplication_answered`, `workspace_answered`). Only an application that is found changes the
store.
-/

namespace WorkspaceHome

open Service

namespace Lookup

variable {α : Type} [Row α] {t : Table α} {key : String} {Matches Admits : α → Prop}
  {absence : String} {exclusion : α → String} {outcome : Except Failure α}

/-- How a lookup is answered: with the status of success exactly if there is a selected row to which
the user is admitted, with 403 exactly if there is one to which the user is not admitted, with 404
exactly if no row matches, and with 500 exactly if the key cannot be read. -/
structure IsAnswered (t : Table α) (key : String) (Matches Admits : α → Prop)
    (success status : ℕ) : Prop where
  found : status = success ↔ ¬ Key.Unreadable key ∧ ∃ r, t.Selects Matches r ∧ Admits r
  denied : status = 403 ↔ ¬ Key.Unreadable key ∧ ∃ r, t.Selects Matches r ∧ ¬ Admits r
  missing : status = 404 ↔ ¬ Key.Unreadable key ∧ ∀ r ∈ t.rows, ¬ Matches r
  failed : status = 500 ↔ Key.Unreadable key
  total : status ∈ [success, 403, 404, 500]

/-- The status of an outcome. -/
def statusOf (success : ℕ) : Except Failure α → ℕ
  | .ok _ => success
  | .error f => f.status

/-- The end of a lookup decides its answer. -/
theorem Ends.isAnswered (h : Ends t key Matches Admits absence exclusion outcome) (success : ℕ)
    (hsuccess : success < 400) :
    IsAnswered t key Matches Admits success (statusOf success outcome) := by
  -- the three troubles have statuses of their own, none of which is a success
  have hdiffer : success ≠ 403 ∧ success ≠ 404 ∧ success ≠ 500 := by omega
  cases h with
  | unreadable hkey =>
    have hstatus : statusOf success (.error .malformed : Except Failure α) = 500 := rfl
    rw [hstatus]
    constructor <;> simp [hkey, hdiffer.2.2.symm]
  | missing hkey hnone =>
    have hstatus :
        statusOf success (.error (.refuse .notFound absence) : Except Failure α) = 404 := rfl
    have hno (r : α) : ¬ t.Selects Matches r := fun hr => hnone r hr.1 hr.2.1
    rw [hstatus]
    constructor
    · simp [hno, hdiffer.2.1.symm]
    · simp [hno]
    · exact iff_of_true rfl ⟨hkey, hnone⟩
    · simp [hkey]
    · simp
  | @denied hkey r hr hout =>
    have hstatus : statusOf success
        (.error (.refuse .permissionDenied (exclusion r)) : Except Failure α) = 403 := rfl
    -- only one row is selected, and its members decide
    have honly : ∀ r', t.Selects Matches r' → ¬ Admits r' := fun r' hr' => by rwa [hr'.unique hr]
    rw [hstatus]
    constructor
    · exact iff_of_false hdiffer.1.symm fun h => h.2.elim fun r' hr' => honly r' hr'.1 hr'.2
    · exact iff_of_true rfl ⟨hkey, r, hr, hout⟩
    · exact iff_of_false (by decide) fun h => h.2 r hr.1 hr.2.1
    · simp [hkey]
    · simp
  | @found hkey r hr hin =>
    have hstatus : statusOf success (.ok r : Except Failure α) = success := rfl
    have honly : ∀ r', t.Selects Matches r' → Admits r' := fun r' hr' => by rwa [hr'.unique hr]
    rw [hstatus]
    constructor
    · exact iff_of_true rfl ⟨hkey, r, hr, hin⟩
    · exact iff_of_false hdiffer.1 fun h => h.2.elim fun r' hr' => hr'.2 (honly r' hr'.1)
    · exact iff_of_false hdiffer.2.1 fun h => h.2 r hr.1 hr.2.1
    · exact iff_of_false hdiffer.2.2 hkey
    · simp

end Lookup

/-! ### Metadata that can be recorded -/

/-- The metadata of all applications are `null` or objects, as the store can keep them. -/
def Store.KeepsMetadata (s : Store) : Prop :=
  ∀ a ∈ s.applications.rows, (a.gitMetadata = .null ∨ ∃ members, a.gitMetadata = .object members) ∧
    isStorable a.gitMetadata = true

/-- Such metadata give an id for clients, which can be stored. -/
theorem Store.KeepsMetadata.clientId {s : Store} (h : s.KeepsMetadata) {a : Application}
    (ha : a ∈ s.applications.rows) :
    ∃ id, GitMetadata.clientId (.int a.id) a.gitMetadata = .ok id ∧ isStorable id = true := by
  obtain ⟨hshape, hstorable⟩ := h a ha
  obtain ⟨id, hid⟩ := GitMetadata.clientId_total (.int a.id) hshape
  exact ⟨id, hid, GitMetadata.everywhere_clientId rfl rfl hstorable hid⟩

namespace Http

variable {r : Request} {u : User} {site : Site} {key : String}

/-! ### Noting that an application has been opened -/

/-- An application that is not found is answered by the failure to find it. -/
theorem serve_recentApplication_error {f : Failure}
    (hreaches : r.reaches = some (.recentApplication key))
    (hviewer : r.viewer = .user u) (hid : r.id.toList.any HeaderValue.endsLine = false)
    (hfind : (Applications.find (.text key) (.user u)).exec (r.within site) =
      (.error f, r.within site)) :
    (∃ response, ((serve r).exec site).1 = .ok response ∧ response.status = f.status) ∧
      ((serve r).exec site).2.store = site.store := by
  obtain ⟨⟨response, hresponse, hstatus⟩, hstore⟩ := serve_attempt hreaches nofun rfl hid site
  rw [hviewer, show Viewer.signedIn (.user u) = .ok u from rfl, exec_settle_ok_bind,
    exec_bind_error hfind] at hstatus hstore
  exact ⟨⟨response, hresponse, hstatus⟩, hstore⟩

/-- An application that is found is recorded. -/
theorem serve_recentApplication_ok (hreaches : r.reaches = some (.recentApplication key))
    (hviewer : r.viewer = .user u) (hid : r.id.toList.any HeaderValue.endsLine = false)
    {a : Application} {data : UserData} {t : Site}
    (hfind : (Applications.find (.text key) (.user u)).exec (r.within site) =
      (.ok a, r.within site))
    (hrecord : (Remembrance.recordRecent (.user u) a).exec (r.within site) = (.ok data, t)) :
    (∃ response, ((serve r).exec site).1 = .ok response ∧ response.status = 204) ∧
      ((serve r).exec site).2.store = t.store := by
  obtain ⟨⟨response, hresponse, hstatus⟩, hstore⟩ := serve_attempt hreaches nofun rfl hid site
  rw [hviewer, show Viewer.signedIn (.user u) = .ok u from rfl, exec_settle_ok_bind,
    exec_bind_ok hfind, exec_bind_ok hrecord] at hstatus hstore
  exact ⟨⟨response, hresponse, hstatus⟩, hstore⟩

/-- **Noting that an application has been opened** is answered by the end of the lookup, and any
answer but success leaves the store as it was. -/
theorem recentApplication_answered (site : Site) (hmetadata : site.store.KeepsMetadata)
    (hlists : ∃ recentWorkspaces recentApplications,
      site.store.Remembers u.id recentWorkspaces recentApplications)
    (hne : key ≠ "") (hslash : '/' ∉ key.toList) (hr : r.Asks u "POST" (recentPath key)) :
    ∃ response, ((serve r).exec site).1 = .ok response ∧
      Lookup.IsAnswered site.store.applications key (fun a => Key.Denotes key a.id)
        (fun a => site.store.isMember a.workspace u.id = true) 204 response.status ∧
      (response.status ≠ 204 → ((serve r).exec site).2.store = site.store) := by
  obtain ⟨recentWorkspaces, recentApplications, hlists⟩ := hlists
  have hreaches := hr.reaches (at?_recentPath hne hslash) rfl
  obtain ⟨outcome, hfind, hends⟩ := Applications.exec_find (.text key) u (r.within site)
  have hanswered := hends.isAnswered 204 (by decide)
  cases outcome with
  | error f =>
    obtain ⟨⟨response, hresponse, hstatus⟩, hstore⟩ :=
      serve_recentApplication_error hreaches hr.viewer hr.id hfind
    exact ⟨response, hresponse, hstatus ▸ hanswered, fun _ => hstore⟩
  -- once the application is found, recording it does not fail
  | ok a =>
    have ha : a ∈ site.store.applications.rows := (((hends.isExact.found a).mp rfl).2.1).1
    obtain ⟨id, hid, hstorable⟩ := hmetadata.clientId ha
    have hrecordable : Remembrance.Recordable (r.within site) u a id _ _ :=
      Homepage.recordable_of_remembers hlists hid hstorable
    have hrecord := Remembrance.exec_recordRecent_eq hrecordable
    obtain ⟨⟨response, hresponse, hstatus⟩, -⟩ :=
      serve_recentApplication_ok hreaches hr.viewer hr.id hfind hrecord
    exact ⟨response, hresponse, hstatus ▸ hanswered, fun hfailed => absurd hstatus hfailed⟩

/-! ### Showing a workspace -/

theorem isSendable_detailPayload (w : Workspace) (roles : List UserRole) :
    (w.detailPayload roles).IsSendable := by
  simp +decide [Workspace.detailPayload, Workspace.toJson, Timestamp.toJson, UserRole.listToJson,
    UserRole.toJson]

/-- **Showing a workspace** is answered by the end of the lookup, and leaves the store as it was. -/
theorem workspace_answered (hne : key ≠ "") (hslash : '/' ∉ key.toList)
    (hr : r.Asks u "GET" (workspacePath key)) :
    ∃ response, ((serve r).exec site).1 = .ok response ∧
      Lookup.IsAnswered site.store.workspaces key (fun w => Key.Denotes key w.id ∨ w.slug = key)
        (fun w => site.store.isMember w.id u.id = true) 200 response.status ∧
      ((serve r).exec site).2.store = site.store := by
  have hreaches := hr.reaches (at?_workspacePath hne hslash) rfl
  obtain ⟨⟨response, hresponse, hstatus⟩, hstore⟩ := serve_attempt hreaches nofun rfl hr.id site
  have hfind := Workspaces.exec_find (.text key) u (r.within site)
  have hanswered :=
    (Workspaces.ends_lookup site.store u.id key).isAnswered 200 (by decide)
  rw [hr.viewer, show Viewer.signedIn (.user u) = .ok u from rfl,
    exec_settle_ok_bind] at hstatus hstore
  rw [show (Json.text key).display = key from rfl, r.within_store] at hfind
  -- a workspace that is found is shown, and any trouble is its own answer
  cases houtcome : site.store.lookup u.id key with
  | error f =>
    rw [houtcome] at hfind hanswered
    rw [exec_bind_error hfind] at hstatus hstore
    exact ⟨response, hresponse, hstatus ▸ hanswered, hstore⟩
  | ok w =>
    rw [houtcome] at hfind hanswered
    rw [exec_bind_ok hfind, exec_ask_bind] at hstatus hstore
    have hok : response.status = 200 :=
      hstatus.trans (status_respond _ 200 (isSendable_detailPayload w _))
    exact ⟨response, hresponse, hok ▸ hanswered, hstore⟩

/-! ### Both endpoints -/

/-- **Looking up a segment of a path**, whatever the segment is: finding an application or a
workspace gives the selected row to a member, tells anybody else that it is denied, and tells that
there is none exactly if no row matches; the two endpoints are answered accordingly, and an answer
other than 204 leaves the store as it was. The one exception are segments that look like a number
and cannot be read: exactly on these, finding is a failure and the endpoints are answered with the
status of a fault. -/
theorem lookup_answered (site : Site) (u : User) (key : String)
    (hmetadata : site.store.KeepsMetadata)
    (hlists : ∃ recentWorkspaces recentApplications,
      site.store.Remembers u.id recentWorkspaces recentApplications)
    (hne : key ≠ "") (hslash : '/' ∉ key.toList) :
    Lookup.IsExact site.store.applications key (fun a => Key.Denotes key a.id)
        (fun a => site.store.isMember a.workspace u.id = true) (Applications.absence key)
        (fun _ => Applications.exclusion)
        ((Applications.find (.text key) (.user u)).exec site).1 ∧
      Lookup.IsExact site.store.workspaces key (fun w => Key.Denotes key w.id ∨ w.slug = key)
        (fun w => site.store.isMember w.id u.id = true) (Workspaces.absence key)
        Workspaces.exclusion ((Workspaces.find (.text key) (.user u)).exec site).1 ∧
      (∀ r : Request, r.Asks u "POST" (recentPath key) →
        ∃ response, ((serve r).exec site).1 = .ok response ∧
          Lookup.IsAnswered site.store.applications key (fun a => Key.Denotes key a.id)
            (fun a => site.store.isMember a.workspace u.id = true) 204 response.status ∧
          (response.status ≠ 204 → ((serve r).exec site).2.store = site.store)) ∧
      ∀ r : Request, r.Asks u "GET" (workspacePath key) →
        ∃ response, ((serve r).exec site).1 = .ok response ∧
          Lookup.IsAnswered site.store.workspaces key
            (fun w => Key.Denotes key w.id ∨ w.slug = key)
            (fun w => site.store.isMember w.id u.id = true) 200 response.status ∧
          ((serve r).exec site).2.store = site.store := by
  refine ⟨?_, ?_, fun r hr => recentApplication_answered site hmetadata hlists hne hslash hr,
    fun r hr => workspace_answered hne hslash hr⟩
  -- finding ends in one of four ways, and each decides all that is said here
  · obtain ⟨outcome, hfind, hends⟩ := Applications.exec_find (.text key) u site
    rw [hfind]
    exact hends.isExact
  · rw [Workspaces.exec_find]
    exact (Workspaces.ends_lookup site.store u.id key).isExact

/-- The user of the small store, and a request of this user. -/
def sampleMember : User := { id := 1, username := "ada" }
def sampleAsking (method target : String) : Request :=
  { method, target, viewer := .user sampleMember }

theorem sample_keepsMetadata : Store.sample.KeepsMetadata := by
  intro a ha
  rcases ha with _ | ⟨_, _ | ⟨_, _ | ⟨_, ⟨⟩⟩⟩⟩
  · exact ⟨Or.inl rfl, rfl⟩
  · exact ⟨Or.inr ⟨_, rfl⟩, rfl⟩
  · exact ⟨Or.inr ⟨_, rfl⟩, rfl⟩

theorem sample_remembers : ∃ recentWorkspaces recentApplications,
    Store.sample.Remembers sampleMember.id recentWorkspaces recentApplications :=
  ⟨_, _, Store.sample_wellShaped.remembers⟩

theorem lookup_answered_sample :
    (sampleAsking "POST" "/api/v1/applications/1/recent/").Asks sampleMember "POST"
        (recentPath "1") ∧
      ∃ response, ((serve (sampleAsking "POST" "/api/v1/applications/1/recent/")).exec
        { store := Store.sample }).1 = .ok response ∧ response.status = 204 := by
  have hasks : (sampleAsking "POST" "/api/v1/applications/1/recent/").Asks sampleMember "POST"
      (recentPath "1") :=
    ⟨rfl, by decide +kernel, by decide +kernel,
      Option.isNone_iff_eq_none.mp (by decide +kernel), by decide +kernel⟩
  have hdenotes : Key.Denotes "1" 1 := Key.denotes_toString (n := 1) (by decide)
  obtain ⟨-, -, hrecent, -⟩ := lookup_answered { store := Store.sample } sampleMember "1"
    sample_keepsMetadata sample_remembers (by decide) (by decide)
  obtain ⟨response, hresponse, hanswered, -⟩ := hrecent _ hasks
  refine ⟨hasks, response, hresponse, hanswered.found.mpr ⟨fun h => h.not_denotes hdenotes, ?_⟩⟩
  -- it is the first application of the store
  have hfirst : { id := 1, workspace := 1, name := "A", slug := "a" } ∈
      Store.sample.applications.rows := by simp [Store.sample, Table.insert]
  exact ⟨_, Applications.selects_of_denotes hfirst hdenotes, rfl⟩

/-- **A superscript fails both endpoints**: it counts as a digit, has no value, and is looked for
nevertheless. -/
theorem lookup_superscript :
    ((Applications.find (.text "²") (.user sampleMember)).exec { store := Store.sample }).1 =
        .error .malformed ∧
      ((Workspaces.find (.text "²") (.user sampleMember)).exec { store := Store.sample }).1 =
        .error .malformed ∧
      (sampleAsking "POST" "/api/v1/applications/%C2%B2/recent/").Asks sampleMember "POST"
        (recentPath "²") ∧
      ∃ response, ((serve (sampleAsking "POST" "/api/v1/applications/%C2%B2/recent/")).exec
        { store := Store.sample }).1 = .ok response ∧ response.status = 500 := by
  have hkey : Key.Unreadable "²" := ⟨by decide, Or.inr ⟨'²', by decide, by decide⟩⟩
  have hasks : (sampleAsking "POST" "/api/v1/applications/%C2%B2/recent/").Asks sampleMember "POST"
      (recentPath "²") :=
    ⟨rfl, by decide +kernel, by decide +kernel,
      Option.isNone_iff_eq_none.mp (by decide +kernel), by decide +kernel⟩
  obtain ⟨outcome, hfind, hends⟩ :=
    Applications.exec_find (.text "²") sampleMember { store := Store.sample }
  obtain ⟨response, hresponse, hanswered, -⟩ := recentApplication_answered
    { store := Store.sample } sample_keepsMetadata sample_remembers (by decide) (by decide) hasks
  refine ⟨?_, ?_, hasks, response, hresponse, hanswered.failed.mpr hkey⟩
  · rw [hfind]
    exact hends.isExact.unreadable.mpr hkey
  · rw [Workspaces.exec_find]
    exact (Workspaces.ends_lookup _ _ "²").isExact.unreadable.mpr hkey

end Http

end WorkspaceHome
