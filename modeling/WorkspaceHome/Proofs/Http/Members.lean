import WorkspaceHome.Proofs.Homepage.Present
import WorkspaceHome.Proofs.Http.Lookup
import WorkspaceHome.Proofs.Store.Local

/-!
# The members of a workspace in both places

A workspace shows its members by itself and on the homepage of a member. The members are asked for
with one id there and with the ids of all workspaces of the user here, and since the question is
local, both places show the same members in the same order (`lookups_local`).
-/

namespace WorkspaceHome

open Service

namespace Homepage

variable {s : Store} {user : ℕ} {groups : List WorkspaceGroup}

/-- A group on a homepage shows all members of its workspace. -/
theorem roles_of_shownTo (h : (shownTo s user).1 = .ok groups) {g : WorkspaceGroup}
    (hg : g ∈ groups) : g.roles = s.rolesIn g.workspace.id := by
  obtain ⟨held, listed, -, -, rfl⟩ := shownTo_eq_ok h
  obtain ⟨w, -, rfl⟩ := List.mem_map.mp hg
  rfl

/-- Each workspace of a user has a group. -/
theorem exists_group_of_shownTo (h : (shownTo s user).1 = .ok groups) {w : Workspace}
    (hw : w ∈ s.workspaces.rows) (hmember : s.isMember w.id user = true) :
    ∃ g ∈ groups, g.workspace = w := by
  obtain ⟨held, listed, hheld, -, rfl⟩ := shownTo_eq_ok h
  exact ⟨_, List.mem_map_of_mem ((mem_orderedWorkspaces hheld).mpr ⟨hw, hmember⟩), rfl⟩

/-- The groups of a homepage that is built are those that the user is shown. -/
theorem groups_of_build {site : Site} {u : User} {url : Option String} {homepage : Homepage}
    (h : ((build (.user u) url).exec site).1 = .ok homepage) :
    (shownTo site.store u.id).1 = .ok homepage.groups := by
  rw [(outcome_build u url site).1] at h
  obtain ⟨groups, hgroups, hbuilt⟩ := bind_eq_ok_iff.mp h
  obtain ⟨viewed, -, rfl⟩ := map_eq_ok_iff.mp hbuilt
  exact hgroups

end Homepage

namespace Http

variable {r : Request} {u : User} {w : Workspace} {site : Site} {key : String}

/-- **A workspace that is found is shown** with its members. -/
theorem serve_workspace_ok (hne : key ≠ "") (hslash : '/' ∉ key.toList)
    (hr : r.Asks u "GET" (workspacePath key)) (hfound : site.store.lookup u.id key = .ok w) :
    ∃ response, ((serve r).exec site).1 = .ok response ∧ response.status = 200 ∧
      response.body = some (w.detailPayload (site.store.rolesIn w.id)) := by
  obtain ⟨id, hid⟩ := sent_ok hr.id
  have hfind : (Workspaces.find (.text key) (.user u)).exec (r.within site) =
      (.ok w, r.within site) := by
    rw [Workspaces.exec_find]
    exact congrArg (·, r.within site) hfound
  have hview : (view r (.workspace key)).exec (r.within site) =
      (.ok (.ok (200, some (w.detailPayload (site.store.rolesIn w.id)))), r.within site) := by
    show (attempt _).exec _ = _
    rw [exec_attempt, hr.viewer, show Viewer.signedIn (.user u) = .ok u from rfl,
      exec_settle_ok_bind, exec_bind_ok hfind, exec_ask_bind,
      Store.get_rolesByWorkspace _ List.mem_cons_self]
    rfl
  refine ⟨_, outcome_serve (hr.reaches (at?_workspacePath hne hslash) rfl) hid hview, ?_⟩
  have hsendable : (w.detailPayload (site.store.rolesIn w.id)).everywhere Json.isEncodable = true :=
    isSendable_detailPayload w _
  unfold respond
  dsimp only
  rw [if_pos hsendable, hr.method]
  exact ⟨rfl, rfl⟩

/-- **Questions about several rows are local**, and therefore a workspace shows its members alike in
both places: if a member finds it by its id, a request for it is answered by the members whom the
homepage of the member shows in its group. -/
theorem lookups_local (site : Site) (hmetadata : ∀ a ∈ site.store.applications.rows,
      a.gitMetadata = .null ∨ ∃ members, a.gitMetadata = .object members) :
    Store.IsLocal (·.id) site.store.workspacesWithIds ∧
      Store.IsLocal (·.1.workspace) site.store.membersOf ∧
      Groups.IsLocal site.store.rolesByWorkspace
        (fun ids => (site.store.membersOf ids).map fun (m, u) => m.shown u) ∧
      Store.IsLocal (·.application) site.store.pagesIn ∧
      Groups.IsLocal site.store.pagesByApplication site.store.pagesIn ∧
      (∃ visible : List ℤ → List Application, Store.IsLocal (·.workspace) visible ∧
        ∀ ids, ((Applications.visibleIn ids).exec site).1 = .ok (visible ids)) ∧
      ∀ (u : User) (w : Workspace),
        ((Workspaces.find (.int w.id) (.user u)).exec site).1 = .ok w →
        ∃ roles : List UserRole,
          (∀ r : Request, r.Asks u "GET" (workspacePath (toString w.id)) →
            ∃ response, ((serve r).exec site).1 = .ok response ∧ response.status = 200 ∧
              response.body = some (w.detailPayload roles)) ∧
          ∀ (url : Option String) (homepage : Homepage),
            ((Homepage.build (.user u) url).exec site).1 = .ok homepage →
            (∃ g ∈ homepage.groups, g.workspace = w) ∧
              ∀ g ∈ homepage.groups, g.workspace = w → g.roles = roles := by
  refine ⟨site.store.isLocal_workspacesWithIds, site.store.isLocal_membersOf,
    site.store.isLocal_membersOf.collect _, site.store.isLocal_pagesIn, ?_,
    ⟨site.store.visibleIn, site.store.isLocal_visibleIn, fun ids => ?_⟩, fun u w hfound => ?_⟩
  · have hpages := site.store.isLocal_pagesIn.collect fun p => p
    simp only [List.map_id'] at hpages
    exact hpages
  · rw [Applications.exec_visibleIn hmetadata]
  · rw [Workspaces.exec_find] at hfound
    have hfound : site.store.lookup u.id (toString w.id) = .ok w := hfound
    obtain ⟨hmember, number, -, hrow⟩ := Store.lookup_eq_ok_iff.mp hfound
    have hrow := (Store.workspaceAt?_eq_some_iff.mp hrow).1
    -- an id in decimal digits is one segment of the path
    have hne : toString w.id ≠ "" := fun h => Text.toString_toList_ne_nil w.id (by rw [h]; rfl)
    have hslash : '/' ∉ (toString w.id).toList :=
      fun hc => absurd (Text.isDigit_of_mem_toString hc) (by decide)
    refine ⟨site.store.rolesIn w.id, fun r hr => serve_workspace_ok hne hslash hr hfound,
      fun url homepage hbuilt => ?_⟩
    have hgroups := Homepage.groups_of_build hbuilt
    refine ⟨Homepage.exists_group_of_shownTo hgroups hrow hmember, fun g hg hw => ?_⟩
    rw [Homepage.roles_of_shownTo hgroups hg, hw]

/-- The first workspace of the small store. -/
def sampleWorkspace : Workspace := ⟨1, "One", "one", ⟨0⟩, ⟨0⟩⟩

theorem lookups_local_sample :
    (∀ a ∈ Store.sample.applications.rows,
        a.gitMetadata = .null ∨ ∃ members, a.gitMetadata = .object members) ∧
      (Store.sample.rolesByWorkspace [2, 1, 7, 2]).at? 1 =
        (Store.sample.rolesByWorkspace [1]).at? 1 ∧
      ((Workspaces.find (.int sampleWorkspace.id) (.user sampleMember)).exec
        { store := Store.sample }).1 = .ok sampleWorkspace ∧
      ∃ response roles homepage, ((serve (sampleAsking "GET" "/api/v1/workspaces/1/")).exec
          { store := Store.sample }).1 = .ok response ∧
        response.body = some (sampleWorkspace.detailPayload roles) ∧
        ((Homepage.build (.user sampleMember) none).exec { store := Store.sample }).1 =
          .ok homepage ∧
        ∃ g ∈ homepage.groups, g.workspace = sampleWorkspace ∧ g.roles = roles := by
  have hmetadata : ∀ a ∈ Store.sample.applications.rows,
      a.gitMetadata = .null ∨ ∃ members, a.gitMetadata = .object members :=
    fun a ha => (sample_keepsMetadata a ha).1
  have hrow : sampleWorkspace ∈ Store.sample.workspaces.rows := List.mem_cons_self
  have hfound : ((Workspaces.find (.int sampleWorkspace.id) (.user sampleMember)).exec
      { store := Store.sample }).1 = .ok sampleWorkspace := by
    rw [Workspaces.exec_find]
    refine (Workspaces.lookup_id_iff hrow rfl).mpr ⟨by decide, ?_⟩
    -- no workspace is older than the first one
    rintro v (_ | ⟨_, _ | ⟨_, ⟨⟩⟩⟩) hlt
    · exact absurd hlt (by decide)
    · exact absurd hlt (by decide)
  have hasks : (sampleAsking "GET" "/api/v1/workspaces/1/").Asks sampleMember "GET"
      (workspacePath (toString sampleWorkspace.id)) :=
    ⟨rfl, by decide +kernel, by decide +kernel,
      Option.isNone_iff_eq_none.mp (by decide +kernel), by decide +kernel⟩
  obtain ⟨-, -, hroles, -, -, -, hboth⟩ := lookups_local { store := Store.sample } hmetadata
  obtain ⟨roles, hserve, hshown⟩ := hboth sampleMember sampleWorkspace hfound
  obtain ⟨response, hresponse, -, hbody⟩ := hserve _ hasks
  obtain ⟨homepage, site', hbuild, -, -⟩ := Homepage.build_ok { store := Store.sample }
    (u := sampleMember) Store.sample_wellShaped none
  have hbuilt := congrArg Prod.fst hbuild
  obtain ⟨⟨g, hg, hworkspace⟩, hsame⟩ := hshown none homepage hbuilt
  exact ⟨hmetadata, hroles.alone [2, 1, 7, 2] 1 (by decide), hfound, response, roles, homepage,
    hresponse, hbody, hbuilt, g, hg, hworkspace, hsame g hg hworkspace⟩

end Http

end WorkspaceHome
