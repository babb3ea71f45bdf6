import WorkspaceHome.Proofs.Http.Lookup

/-!
# What those outside of a workspace are told of it

A user who is no member of a workspace is denied it, and denied its applications: what the response
says depends on nothing that is stored, but for the slug of the workspace, by which it is called
(`exec_find_application_outside`, `exec_find_workspace_outside`). So two stores that both have the
workspace, with applications of the same ids, cannot be told apart by opening these applications,
and are told apart by asking for the workspace exactly if its slug differs (`denial_discreet`). The
slug is made from the name, so it may tell what the name is (`denial_telling`).
-/

namespace WorkspaceHome

open Service

variable {u : User}

/-! ### Denied lookups -/

/-- The failure of looking up by its id what is there and denied: it is told so, unless the id is
too long to be read. -/
def Lookup.denial (id : ℕ) (detail : String) : Failure :=
  if (toString id).length ≤ Numeral.digitLimit then .refuse .permissionDenied detail else .malformed

/-- Nothing but its slug is told of a workspace that is denied. -/
theorem Workspaces.exclusion_eq_iff {v w : Workspace} :
    Workspaces.exclusion v = Workspaces.exclusion w ↔ v.slug = w.slug := by
  unfold Workspaces.exclusion
  rw [String.append_left_inj, String.append_right_inj]

/-- **An application is denied** to a user who is no member of its workspace. -/
theorem Applications.exec_find_outside {a : Application} {s : Site}
    (ha : a ∈ s.store.applications.rows) (hout : s.store.isMember a.workspace u.id = false) :
    (find (.text (toString a.id)) (.user u)).exec s =
      (.error (Lookup.denial a.id exclusion), s) := by
  obtain ⟨outcome, hfind, hends⟩ := exec_find (.text (toString a.id)) u s
  have hexact := hends.isExact
  rw [hfind]
  unfold Lookup.denial
  split_ifs with hshort
  · have hdenotes := Key.denotes_toString hshort
    have hkey : ¬ Key.Unreadable (toString a.id) := fun h => h.not_denotes hdenotes
    have hdenied := hexact.denied a (selects_of_denotes ha hdenotes)
    rw [hdenied.mpr ⟨hkey, by simp [hout]⟩]
  · have hnumber : keyNumber (toString a.id) = .error .malformed := by
      rw [keyNumber_toString, if_neg hshort]
    rw [hexact.unreadable.mpr (keyNumber_eq_error_iff.mp hnumber).2]

/-- A user is no member of a workspace that is there, and no slug is a decimal number. -/
structure Store.Excludes (s : Store) (user : ℕ) (w : Workspace) : Prop where
  there : w ∈ s.workspaces.rows
  outside : s.isMember w.id user = false
  slugs : ∀ v ∈ s.workspaces.rows, ∀ n : ℕ, v.slug ≠ toString n

/-- **A workspace is denied** to a user who is no member of it. -/
theorem Workspaces.exec_find_outside {w : Workspace} {s : Site} (h : s.store.Excludes u.id w) :
    (find (.text (toString w.id)) (.user u)).exec s =
      (.error (Lookup.denial w.id (exclusion w)), s) := by
  have hexact := (ends_lookup s.store u.id (toString w.id)).isExact
  rw [exec_find]
  show (s.store.lookup u.id (toString w.id), s) = _
  unfold Lookup.denial
  split_ifs with hshort
  · have hdenotes := Key.denotes_toString hshort
    have hkey : ¬ Key.Unreadable (toString w.id) := fun h => h.not_denotes hdenotes
    have hselects : s.store.workspaces.Selects
        (fun v => Key.Denotes (toString w.id) v.id ∨ v.slug = toString w.id) w := by
      refine ⟨h.there, Or.inl hdenotes, fun v hv hlt => ?_⟩
      rintro (hid | hslug)
      · have heq : v.id = w.id := hid.unique hdenotes
        exact hlt.ne heq
      · exact h.slugs v hv w.id hslug
    rw [(hexact.denied w hselects).mpr ⟨hkey, by simp [h.outside]⟩]
  · have hnumber : keyNumber (toString w.id) = .error .malformed := by
      rw [keyNumber_toString, if_neg hshort]
    rw [hexact.unreadable.mpr (keyNumber_eq_error_iff.mp hnumber).2]

namespace Http

variable {r : Request} {e : Endpoint} {f : Failure} {s t : Site}

/-! ### Responses to failures -/

/-- The response to a failure of a view. -/
def responseTo (e : Endpoint) (method : String) : Failure → Response
  | .refused refusal =>
    let response := respond method refusal.status
      (some (.object [("code", .text refusal.code), ("detail", .text refusal.detail)]))
    if refusal.status = 405 then { response with allow := some e.allowed } else response
  | f => failed f

theorem exec_respondTo_eq (e : Endpoint) (method : String) (f : Failure) (s : Site) :
    ∃ t, (respondTo e method (.failure f)).exec s = (.ok (responseTo e method f), t) := by
  unfold respondTo
  cases f with
  | refused refusal =>
    refine ⟨_, Prod.ext ?_ rfl⟩
    show Except.ok (ite _ _ _) = _
    rfl
  | _ => exact ⟨_, rfl⟩

/-- **A request whose view fails is answered by the failure** alone. -/
theorem outcome_serve_failure {x : Service (ℕ × Option Json)} (h : r.reaches = some e)
    (he : e ≠ .health) (hview : view r e = attempt x) {id : String}
    (hid : HeaderValue.sent r.id = .ok id) (hfails : x.exec (r.within s) = (.error f, t)) :
    ((serve r).exec s).1 =
      .ok { responseTo e (r.method.map Char.toUpper) f with requestId := some id } := by
  have hrun : (view r e).exec (r.within s) = (.ok (.error (.failure f)), t) := by
    rw [hview, exec_attempt, hfails]
    rfl
  obtain ⟨t', hresponse⟩ := exec_respondTo_eq e (r.method.map Char.toUpper) f t
  exact outcome_serve_of_served h hid (exec_serveTarget_trouble h he hrun hresponse)

/-! ### Responses to those outside -/

theorem toString_ne_empty (n : ℕ) : toString n ≠ "" := by
  intro h
  exact Text.toString_toList_ne_nil n (by rw [h]; rfl)

theorem slash_not_mem_toString (n : ℕ) : '/' ∉ (toString n).toList := by
  intro h
  have hdigit := Text.isDigit_of_mem_toString h
  revert hdigit
  decide

/-- Opening an application is answered by the denial of it. -/
theorem serve_recentApplication_outside {a : Application} (ha : a ∈ s.store.applications.rows)
    (hout : s.store.isMember a.workspace u.id = false)
    (hr : r.Asks u "POST" (recentPath (toString a.id))) {id : String}
    (hid : HeaderValue.sent r.id = .ok id) :
    ((serve r).exec s).1 = .ok
      { responseTo (.recentApplication (toString a.id)) "POST"
          (Lookup.denial a.id Applications.exclusion) with requestId := some id } := by
  have hreaches := hr.reaches
    (at?_recentPath (toString_ne_empty a.id) (slash_not_mem_toString a.id)) rfl
  have hfind := Applications.exec_find_outside (s := r.within s) ha hout
  rw [outcome_serve_failure hreaches nofun rfl hid, hr.method]
  rw [hr.viewer, show Viewer.signedIn (.user u) = .ok u from rfl, exec_settle_ok_bind]
  exact exec_bind_error hfind _

/-- Asking for a workspace is answered by the denial of it. -/
theorem serve_workspace_outside {w : Workspace} (h : s.store.Excludes u.id w)
    (hr : r.Asks u "GET" (workspacePath (toString w.id))) {id : String}
    (hid : HeaderValue.sent r.id = .ok id) :
    ((serve r).exec s).1 = .ok
      { responseTo (.workspace (toString w.id)) "GET"
          (Lookup.denial w.id (Workspaces.exclusion w)) with requestId := some id } := by
  have hreaches := hr.reaches
    (at?_workspacePath (toString_ne_empty w.id) (slash_not_mem_toString w.id)) rfl
  have hfind := Workspaces.exec_find_outside (s := r.within s) h
  rw [outcome_serve_failure hreaches nofun rfl hid, hr.method]
  rw [hr.viewer, show Viewer.signedIn (.user u) = .ok u from rfl, exec_settle_ok_bind]
  exact exec_bind_error hfind _

/-- The response by which a workspace is denied. -/
def denialOf (id : String) (w : Workspace) : Response :=
  { status := 403
    body := some (.object [("code", .text "permission_denied"),
      ("detail", .text (Workspaces.exclusion w))])
    requestId := some id }

theorem denialOf_eq_iff {id : String} {v w : Workspace} :
    denialOf id v = denialOf id w ↔ v.slug = w.slug := by
  simp [denialOf, Workspaces.exclusion_eq_iff]

/-- A workspace of which the id is not too long is denied by the response that tells its slug. -/
theorem responseTo_denial {w : Workspace} (hshort : (toString w.id).length ≤ Numeral.digitLimit)
    (id : String) :
    { responseTo (.workspace (toString w.id)) "GET"
        (Lookup.denial w.id (Workspaces.exclusion w)) with requestId := some id } =
      denialOf id w := by
  have hdetail : Workspaces.exclusion w ≠ "" := by
    intro h
    unfold Workspaces.exclusion at h
    rw [String.append_eq_empty_iff] at h
    exact absurd h.2 (by decide)
  have hrefusal : Lookup.denial w.id (Workspaces.exclusion w) =
      .refused ⟨.permissionDenied, Workspaces.exclusion w, "permission_denied"⟩ := by
    unfold Lookup.denial Failure.refuse Refusal.of
    rw [if_pos hshort, if_neg hdetail]
    rfl
  rw [hrefusal]
  rfl

/-- **Asking for a workspace is denied** by a response that tells its slug. -/
theorem serve_workspace_denied {w : Workspace} (h : s.store.Excludes u.id w)
    (hr : r.Asks u "GET" (workspacePath (toString w.id))) {id : String}
    (hid : HeaderValue.sent r.id = .ok id)
    (hshort : (toString w.id).length ≤ Numeral.digitLimit) :
    ((serve r).exec s).1 = .ok (denialOf id w) := by
  rw [serve_workspace_outside h hr hid, responseTo_denial hshort]

/-- **What those outside are told.** Whatever else two stores have and remember: where a user is
no member of a workspace that both have, with applications of the same ids, and no slug is a decimal
number, opening an application of the workspace is answered by the same response in both. Asking for
the workspace is denied in both, by responses which tell its slug and are the same otherwise; so
they are the same exactly if the slug is, or if the id is too long to be read. -/
theorem denial_discreet (u : User) {v w : Workspace} (hsame : v.id = w.id)
    (hs : s.store.Excludes u.id v) (ht : t.store.Excludes u.id w)
    (hids : ∀ id, (∃ a ∈ s.store.applications.rows, a.id = id ∧ a.workspace = v.id) ↔
      ∃ a ∈ t.store.applications.rows, a.id = id ∧ a.workspace = w.id) :
    (∀ a ∈ s.store.applications.rows, a.workspace = v.id → ∀ r : Request,
        r.Asks u "POST" (recentPath (toString a.id)) →
          ∃ response, ((serve r).exec s).1 = .ok response ∧
            ((serve r).exec t).1 = .ok response) ∧
      ∀ r : Request, r.Asks u "GET" (workspacePath (toString v.id)) →
        ((toString v.id).length ≤ Numeral.digitLimit → ∃ id,
          ((serve r).exec s).1 = .ok (denialOf id v) ∧
            ((serve r).exec t).1 = .ok (denialOf id w)) ∧
        (((serve r).exec s).1 = ((serve r).exec t).1 ↔
          v.slug = w.slug ∨ Numeral.digitLimit < (toString v.id).length) := by
  refine ⟨fun a ha hworkspace r hr => ?_, fun r hr => ?_⟩
  -- an application of the same id is in both workspaces, and its denial tells nothing of either
  · obtain ⟨b, hb, hid, hworkspace'⟩ := (hids a.id).mp ⟨a, ha, rfl, hworkspace⟩
    obtain ⟨id, hsent⟩ := sent_ok hr.id
    have hout : s.store.isMember a.workspace u.id = false := hworkspace ▸ hs.outside
    have hout' : t.store.isMember b.workspace u.id = false := hworkspace' ▸ ht.outside
    refine ⟨_, serve_recentApplication_outside ha hout hr hsent, ?_⟩
    rw [← hid] at hr ⊢
    exact serve_recentApplication_outside hb hout' hr hsent
  · obtain ⟨id, hsent⟩ := sent_ok hr.id
    have hr' : r.Asks u "GET" (workspacePath (toString w.id)) := hsame ▸ hr
    -- an id that is too long is never looked up, so the answer tells nothing at all
    by_cases hshort : (toString v.id).length ≤ Numeral.digitLimit
    · have hleft := serve_workspace_denied hs hr hsent hshort
      have hright := serve_workspace_denied ht hr' hsent (hsame ▸ hshort)
      refine ⟨fun _ => ⟨id, hleft, hright⟩, ?_⟩
      rw [hleft, hright, Except.ok.injEq, denialOf_eq_iff]
      exact ⟨Or.inl, fun h => h.resolve_right hshort.not_gt⟩
    · refine ⟨fun h => absurd h hshort, iff_of_true ?_ (Or.inr (Nat.lt_of_not_le hshort))⟩
      rw [serve_workspace_outside hs hr hsent, serve_workspace_outside ht hr' hsent]
      unfold Lookup.denial
      rw [← hsame, if_neg hshort, if_neg hshort]

/-- A store with a workspace of a name, and an application in it. -/
def sampleHidden (name : String) : Store where
  users := (Table.empty.insert { id := 1, username := "eve" } rfl).insert
    { id := 2, username := "tom" } rfl
  workspaces := Table.empty.insert ⟨1, name, Text.slug name, ⟨0⟩, ⟨0⟩⟩ rfl
  memberships := Table.empty.insert ⟨1, 1, 1, "viewer"⟩ rfl
  applications := Table.empty.insert { id := 1, workspace := 1, name, slug := "app" } rfl

/-- The user who is no member of it. -/
def sampleOutsider : User := { id := 2, username := "tom" }

/-- The workspace of this store. -/
def sampleHiddenRow (name : String) : Workspace := ⟨1, name, Text.slug name, ⟨0⟩, ⟨0⟩⟩

/-- Requests for the workspace and for the application. -/
def sampleOutside (method target : String) : Request :=
  { method, target, viewer := .user sampleOutsider }

theorem sampleHidden_excludes (name : String) (hslug : ∃ c ∈ (Text.slug name).toList,
      c.isDigit = false) :
    (sampleHidden name).Excludes sampleOutsider.id (sampleHiddenRow name) := by
  refine ⟨List.mem_singleton_self _, rfl, List.forall_mem_singleton.mpr fun n hn => ?_⟩
  obtain ⟨c, hc, hdigit⟩ := hslug
  rw [show Text.slug name = toString n from hn] at hc
  rw [Text.isDigit_of_mem_toString hc] at hdigit
  cases hdigit

theorem sampleHidden_asks {method target path : String}
    (hmethod : method.map Char.toUpper = method) (hpath : (Target.read target).path = path)
    (haccepted : (negotiate (sampleOutside method target) (Target.read target)).isNone = true) :
    (sampleOutside method target).Asks sampleOutsider method path := by
  refine ⟨rfl, hmethod, hpath, Option.isNone_iff_eq_none.mp haccepted, ?_⟩
  show generatedId.toList.any HeaderValue.endsLine = false
  decide +kernel

theorem denial_discreet_sample :
    (sampleHidden "Alpha").Excludes sampleOutsider.id (sampleHiddenRow "Alpha") ∧
      (sampleHidden "Beta").Excludes sampleOutsider.id (sampleHiddenRow "Beta") ∧
      (sampleOutside "POST" "/api/v1/applications/1/recent/").Asks sampleOutsider "POST"
        (recentPath (toString 1)) ∧
      ∃ response,
        ((serve (sampleOutside "POST" "/api/v1/applications/1/recent/")).exec
          { store := sampleHidden "Alpha" }).1 = .ok response ∧
        ((serve (sampleOutside "POST" "/api/v1/applications/1/recent/")).exec
          { store := sampleHidden "Beta" }).1 = .ok response ∧
        ∃ id,
          ((serve (sampleOutside "GET" "/api/v1/workspaces/1/")).exec
            { store := sampleHidden "Alpha" }).1 = .ok (denialOf id (sampleHiddenRow "Alpha")) ∧
          ((serve (sampleOutside "GET" "/api/v1/workspaces/1/")).exec
            { store := sampleHidden "Beta" }).1 = .ok (denialOf id (sampleHiddenRow "Beta")) := by
  have halpha := sampleHidden_excludes "Alpha" ⟨'a', by decide +kernel, by decide⟩
  have hbeta := sampleHidden_excludes "Beta" ⟨'a', by decide +kernel, by decide⟩
  have hasks : (sampleOutside "POST" "/api/v1/applications/1/recent/").Asks sampleOutsider "POST"
      (recentPath (toString 1)) :=
    sampleHidden_asks (by decide +kernel) (by decide +kernel) (by decide +kernel)
  have hasksAfter : (sampleOutside "GET" "/api/v1/workspaces/1/").Asks sampleOutsider "GET"
      (workspacePath (toString 1)) :=
    sampleHidden_asks (by decide +kernel) (by decide +kernel) (by decide +kernel)
  obtain ⟨hopening, hasking⟩ := denial_discreet sampleOutsider
    (s := { store := sampleHidden "Alpha" }) (t := { store := sampleHidden "Beta" })
    (show (sampleHiddenRow "Alpha").id = (sampleHiddenRow "Beta").id from rfl) halpha hbeta
    fun id => by
      simp [sampleHidden, sampleHiddenRow, Table.insert, Table.empty]
  obtain ⟨response, hsame, hsame'⟩ := hopening _ (List.mem_singleton_self _) rfl _ hasks
  exact ⟨halpha, hbeta, hasks, response, hsame, hsame',
    (hasking _ hasksAfter).1 (by decide +kernel)⟩

/-- **The name of a workspace shows in the denial**, by its slug: two stores that differ in nothing
but the names of a workspace and of an application in it, and in the slug of the workspace, are told
apart by a user who is no member. -/
theorem denial_telling :
    (sampleHidden "Alpha").Excludes sampleOutsider.id (sampleHiddenRow "Alpha") ∧
      (sampleHidden "Beta").Excludes sampleOutsider.id (sampleHiddenRow "Beta") ∧
      (sampleHidden "Beta").users = (sampleHidden "Alpha").users ∧
      (sampleHidden "Beta").memberships = (sampleHidden "Alpha").memberships ∧
      (sampleHidden "Beta").pages = (sampleHidden "Alpha").pages ∧
      (sampleHidden "Beta").userData = (sampleHidden "Alpha").userData ∧
      (sampleOutside "GET" "/api/v1/workspaces/1/").Asks sampleOutsider "GET"
        (workspacePath (toString 1)) ∧
      ((serve (sampleOutside "GET" "/api/v1/workspaces/1/")).exec
          { store := sampleHidden "Alpha" }).1 ≠
        ((serve (sampleOutside "GET" "/api/v1/workspaces/1/")).exec
          { store := sampleHidden "Beta" }).1 := by
  have halpha := sampleHidden_excludes "Alpha" ⟨'a', by decide +kernel, by decide⟩
  have hbeta := sampleHidden_excludes "Beta" ⟨'a', by decide +kernel, by decide⟩
  have hasks : (sampleOutside "GET" "/api/v1/workspaces/1/").Asks sampleOutsider "GET"
      (workspacePath (toString 1)) :=
    sampleHidden_asks (by decide +kernel) (by decide +kernel) (by decide +kernel)
  obtain ⟨id, hsent⟩ := sent_ok hasks.id
  have hleft := serve_workspace_denied (s := { store := sampleHidden "Alpha" }) halpha hasks hsent
    (by decide +kernel)
  have hright := serve_workspace_denied (s := { store := sampleHidden "Beta" }) hbeta hasks hsent
    (by decide +kernel)
  refine ⟨halpha, hbeta, rfl, rfl, rfl, rfl, hasks, ?_⟩
  rw [hleft, hright, ne_eq, Except.ok.injEq, denialOf_eq_iff]
  decide +kernel

end Http

end WorkspaceHome
