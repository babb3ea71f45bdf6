import WorkspaceHome.Proofs.Http.Answer
import WorkspaceHome.Proofs.Json.Proper
import WorkspaceHome.Proofs.Store.Keys
import WorkspaceHome.Proofs.Store.Write

/-!
# Creating a workspace

A name is taken if a workspace has it, or has the slug that is made from it (`Store.NameTaken`). A
user who asks for a workspace of a name that is not taken becomes the administrator of a new one
(`Store.founding`), and nothing else changes; a name that is taken is a conflict. A request that
does not create a workspace leaves the store as it was, whatever its body is like
(`creation_exact`).
-/

namespace WorkspaceHome

open Service

/-! ### The store -/

namespace Store

variable {s : Store} {name : String} {owner : ℕ} {now : Timestamp}

/-- A workspace has a name, or the slug that is made from it. -/
def NameTaken (s : Store) (name : String) : Prop :=
  ∃ w ∈ s.workspaces.rows, w.name = name ∨ w.slug = Text.slug name

/-- Nobody is a member of a workspace that is still to come. -/
def Awaits (s : Store) : Prop := ∀ m ∈ s.memberships.rows, m.workspace ≤ s.workspaces.last

/-- The next workspace, of a name. -/
def nextWorkspace (s : Store) (name : String) (now : Timestamp) : Workspace :=
  ⟨s.workspaces.next, name, Text.slug name, now, now⟩

/-- The next membership: that of a user who is the administrator of the next workspace. -/
def nextAdministrator (s : Store) (user : ℕ) : Membership :=
  ⟨s.memberships.next, s.workspaces.next, user, "administrator"⟩

/-- The store with one more workspace, and with a user as its administrator. -/
def founding (s : Store) (name : String) (owner : ℕ) (now : Timestamp) : Store :=
  { s with
    workspaces := s.workspaces.insert (s.nextWorkspace name now) rfl
    memberships := s.memberships.insert (s.nextAdministrator owner) rfl }

/-- No row has the id that is given next. -/
theorem isFree_next_iff :
    s.isFree s.workspaces.next name (Text.slug name) = true ↔ ¬ s.NameTaken name := by
  rw [isFree_iff]
  constructor
  · rintro h ⟨w, hw, htaken⟩
    have hid : w.id ≤ s.workspaces.last := s.workspaces.bounded w hw
    exact absurd (h w hw htaken) (Nat.lt_succ_of_le hid).ne
  · intro h w hw htaken
    exact absurd ⟨w, hw, htaken⟩ h

theorem addWorkspace_of_taken (h : s.NameTaken name) :
    s.addWorkspace (some name) none now = .error .constraint := by
  have hfree : s.isFree s.workspaces.next name (Text.slug name) = false :=
    Bool.eq_false_iff.mpr fun hfree => isFree_next_iff.mp hfree h
  show (allow (s.isFree s.workspaces.next name (Text.slug name)) >>= _) = _
  rw [hfree]
  rfl

theorem addWorkspace_of_not_taken (h : ¬ s.NameTaken name) :
    s.addWorkspace (some name) none now = .ok (s.nextWorkspace name now,
      { s with workspaces := s.workspaces.insert (s.nextWorkspace name now) rfl }) := by
  show (allow (s.isFree s.workspaces.next name (Text.slug name)) >>= _) = _
  rw [isFree_next_iff.mpr h]
  rfl

/-- The rules of the store allow the next workspace to have a name and a user as its
administrator. -/
structure Admits (s : Store) (name : String) (owner : ℕ) : Prop where
  name : ¬ s.NameTaken name
  member : ∀ m ∈ s.memberships.rows, ¬ (m.workspace = s.workspaces.next ∧ m.user = owner)

/-- Where nobody is a member of a workspace to come, only the name matters. -/
theorem Awaits.admits_iff (h : s.Awaits) : s.Admits name owner ↔ ¬ s.NameTaken name := by
  refine ⟨Admits.name, fun hname => ⟨hname, fun m hm hpair => ?_⟩⟩
  exact absurd hpair.1 (Nat.lt_succ_of_le (h m hm)).ne

/-- A store of which every membership refers to a workspace that is there awaits the next one. -/
theorem awaits_of_refers (h : s.memberships.Refers Membership.workspace s.workspaces) : s.Awaits :=
  fun m hm => (h m hm).le_last

theorem addMember_next (h : ∀ m ∈ s.memberships.rows,
      ¬ (m.workspace = s.workspaces.next ∧ m.user = owner)) (workspaces : Table Workspace) :
    ({ s with workspaces } : Store).addMember s.workspaces.next owner (some "administrator") =
      .ok (s.nextAdministrator owner,
        { s with
          workspaces
          memberships := s.memberships.insert (s.nextAdministrator owner) rfl }) := by
  have hfree : (s.memberships.rows.any fun m =>
      m.workspace == s.workspaces.next && m.user == owner) = false := by
    rw [List.any_eq_false]
    intro m hm hpair
    exact h m hm (by simpa using hpair)
  show (allow (!s.memberships.rows.any _) >>= _) = _
  rw [hfree]
  rfl

theorem addMember_next_error (h : ∃ m ∈ s.memberships.rows,
      m.workspace = s.workspaces.next ∧ m.user = owner) (workspaces : Table Workspace) :
    ({ s with workspaces } : Store).addMember s.workspaces.next owner (some "administrator") =
      .error .constraint := by
  have hfree : (s.memberships.rows.any fun m =>
      m.workspace == s.workspaces.next && m.user == owner) = true := by
    obtain ⟨m, hm, hpair⟩ := h
    exact List.any_eq_true.mpr ⟨m, hm, by simpa using hpair⟩
  show (allow (!s.memberships.rows.any _) >>= _) = _
  rw [hfree]
  rfl

end Store

/-! ### The operation -/

namespace Workspaces

variable {name : String} {u : User} {s : Site}

theorem exec_found (name : String) (u : User) (s : Site) :
    (found (.text name) (.user u)).exec s =
      match s.store.addWorkspace (some name) none s.clock with
      | .error e => (.error e, s)
      | .ok (w, between) =>
        match between.addMember w.id u.id (some "administrator") with
        | .error e => (.error e, s)
        | .ok (_, store) => (.ok (w, u), { s with store }) := by
  unfold found
  rw [exec_atomically, exec_bind, exec_write, show (Json.text name).fieldText = some name from rfl]
  rcases s.store.addWorkspace (some name) none s.clock with e | ⟨w, between⟩
  · rfl
  · dsimp only
    rw [show Viewer.owner (.user u) = .ok u from rfl, exec_settle_ok_bind, exec_bind, exec_write,
      show administrator = "administrator" from rfl]
    dsimp only
    rcases between.addMember w.id u.id (some "administrator") with e | ⟨m, store⟩ <;> rfl

/-- **What the store allows is created**, and nothing else is written. -/
theorem exec_create_of_admits (h : s.store.Admits name u.id) :
    (create (.text name) (.user u)).exec s =
      (.ok (s.store.nextWorkspace name s.clock),
        { s with store := s.store.founding name u.id s.clock }.noting
          [.workspaceCreated (s.store.nextWorkspace name s.clock).id (.text name) u.id]) := by
  have hmember := Store.addMember_next h.member
    (s.store.workspaces.insert (s.store.nextWorkspace name s.clock) rfl)
  have hfound : (found (.text name) (.user u)).exec s =
      (.ok (s.store.nextWorkspace name s.clock, u),
        { s with store := s.store.founding name u.id s.clock }) := by
    rw [exec_found, Store.addWorkspace_of_not_taken h.name]
    dsimp only
    rw [show (s.store.nextWorkspace name s.clock).id = s.store.workspaces.next from rfl, hmember]
    rfl
  unfold create
  rw [exec_bind, exec_tryCatch, hfound]
  rfl

/-- **What the store does not allow is a conflict**, and nothing is written. -/
theorem exec_create_of_not_admits (h : ¬ s.store.Admits name u.id) :
    (create (.text name) (.user u)).exec s = (.error (taken (.text name)), s) := by
  have hfound : (found (.text name) (.user u)).exec s = (.error .constraint, s) := by
    rw [exec_found]
    by_cases htaken : s.store.NameTaken name
    · rw [Store.addWorkspace_of_taken htaken]
    · -- the name is free, so it is the membership that is there already
      have hthere : ∃ m ∈ s.store.memberships.rows,
          m.workspace = s.store.workspaces.next ∧ m.user = u.id := by
        by_contra hnone
        exact h ⟨htaken, fun m hm hpair => hnone ⟨m, hm, hpair⟩⟩
      rw [Store.addWorkspace_of_not_taken htaken]
      dsimp only
      rw [show (s.store.nextWorkspace name s.clock).id = s.store.workspaces.next from rfl,
        Store.addMember_next_error hthere]
  unfold create
  rw [exec_bind, exec_tryCatch, hfound]
  rfl

end Workspaces

namespace Http

/-! ### Names -/

theorem faultsOfName_eq_nil_iff {codes : List ℕ} : faultsOfName codes = [] ↔
    codes.length ≤ nameLimit ∧ 0 ∉ codes ∧ ∀ n ∈ codes, Json.isScalar n = true := by
  unfold faultsOfName
  cases hfound : codes.find? fun n => !Json.isScalar n with
  | none =>
    have hscalar : ∀ n ∈ codes, Json.isScalar n = true := by simpa using hfound
    simp +contextual [hscalar, -List.find?_eq_none]
  | some n =>
    have hn := List.find?_some hfound
    have hmem := List.mem_of_find?_eq_some hfound
    simp only [List.append_eq_nil_iff, List.cons_ne_nil, and_false, false_iff]
    rintro ⟨-, -, hscalar⟩
    rw [hscalar n hmem] at hn
    cases hn

theorem isScalar_toNat (c : Char) : Json.isScalar c.toNat = true := by
  unfold Json.isScalar
  rcases c.valid with h | ⟨h, h'⟩
  · simp [show c.toNat < 0xD800 from h]
  · simp [show 0xDFFF < c.toNat from h, show c.toNat < 0x110000 from h']

/-- A text that has more than no and at most 255 characters, none of which is null. -/
structure IsName (name : String) : Prop where
  nonempty : name ≠ ""
  short : name.length ≤ 255
  whole : Char.ofNat 0 ∉ name.toList

/-- The code points of a name that is valid are those that it is made from. -/
theorem map_toNat_ofCodes {codes : List ℕ} (h : ∀ n ∈ codes, Json.isScalar n = true) :
    (String.ofList (codes.map Char.ofNat)).toList.map Char.toNat = codes := by
  rw [String.toList_ofList, List.map_map]
  exact (List.map_congr_left fun n hn => Json.toNat_ofNat_of_isScalar (h n hn)).trans codes.map_id

/-- The code points of a name are free of faults, and no others are. -/
theorem isName_iff {name : String} : IsName name ↔
    name.toList.map Char.toNat ≠ [] ∧ faultsOfName (name.toList.map Char.toNat) = [] := by
  have hnull : 0 ∈ name.toList.map Char.toNat ↔ Char.ofNat 0 ∈ name.toList := by
    constructor
    · intro h
      obtain ⟨c, hc, hzero⟩ := List.mem_map.mp h
      rwa [← hzero, Char.ofNat_toNat]
    · exact fun h => List.mem_map.mpr ⟨_, h, rfl⟩
  have hempty : name.toList.map Char.toNat ≠ [] ↔ name ≠ "" := by simp
  have hscalar : ∀ n ∈ name.toList.map Char.toNat, Json.isScalar n = true := by
    intro n hn
    obtain ⟨c, -, rfl⟩ := List.mem_map.mp hn
    exact isScalar_toNat c
  rw [faultsOfName_eq_nil_iff, hnull, hempty, List.length_map, String.length_toList]
  exact ⟨fun h => ⟨h.nonempty, h.short, h.whole, hscalar⟩,
    fun ⟨hne, hshort, hwhole, _⟩ => ⟨hne, hshort, hwhole⟩⟩

/-- The name that is read from a value is a valid one. -/
theorem nameOfValue_eq_ok_iff {value : Option Json} {name : String} :
    nameOfValue value = .ok name ↔ ∃ v codes, value = some v ∧ nameCodes? v = some codes ∧
      stripCodes codes = name.toList.map Char.toNat ∧ IsName name := by
  constructor
  -- what has been read has no faults, so it consists of whole characters
  · intro h
    unfold nameOfValue at h
    split at h
    · cases h
    · cases h
    · rename_i v _
      split at h
      · cases h
      · rename_i codes hcodes
        dsimp only at h
        split_ifs at h with hempty
        split at h
        · rename_i hfaults
          have hread := map_toNat_ofCodes (faultsOfName_eq_nil_iff.mp hfaults).2.2
          obtain rfl := Except.ok.inj h
          refine ⟨v, codes, rfl, hcodes, hread.symm, isName_iff.mpr ?_⟩
          rw [hread]
          exact ⟨by simpa using hempty, hfaults⟩
        · cases h
  -- a valid name has no faults, and its characters give it back
  · rintro ⟨v, codes, rfl, hcodes, hstrip, hname⟩
    obtain ⟨hne, hfaults⟩ := isName_iff.mp hname
    unfold nameOfValue
    split
    · rename_i hnone
      cases hnone
    · rename_i hnull
      cases hnull
      cases hcodes
    · rename_i v' hv
      cases hv
      rw [hcodes]
      dsimp only
      rw [hstrip, if_neg (by simpa using hne), hfaults]
      dsimp only
      have hread := map_toNat_ofCodes (faultsOfName_eq_nil_iff.mp hfaults).2.2
      -- characters are told apart by their code points
      have hinjective : Function.Injective (List.map Char.toNat) :=
        List.map_injective_iff.mpr fun _ _ => Char.toNat_inj.mp
      rw [String.toList_injective (hinjective hread)]

/-- **What a valid body is**: an object with a text or a number under `name`, of which a name is
left without the blanks at the ends. -/
theorem nameOf_eq_ok_iff {body : Json} {name : String} : nameOf body = .ok name ↔
    ∃ members v codes, body = .object members ∧ Json.lookup "name" members = some v ∧
      nameCodes? v = some codes ∧ stripCodes codes = name.toList.map Char.toNat ∧ IsName name := by
  cases body with
  | object members =>
    have hname : nameOf (.object members) = .ok name ↔
        nameOfValue (Json.lookup "name" members) = .ok name := by
      show (nameOfValue (Json.lookup "name" members)).mapError _ = _ ↔ _
      cases nameOfValue (Json.lookup "name" members) <;> simp [Except.mapError]
    rw [hname, nameOfValue_eq_ok_iff]
    simp
  | _ => simp [nameOf]

/-! ### Requests -/

variable {r : Request} {u : User} {s : Site}

theorem at?_workspaces : Endpoint.at? "/api/v1/workspaces/" = some .workspaces := by decide +kernel

theorem view_workspaces_of_trouble (hviewer : r.viewer = .user u) {trouble : Trouble}
    (hdata : r.data.bind nameOf = .error trouble) :
    view r .workspaces = pure (.error trouble) := by
  show createWorkspaceView r = _
  unfold createWorkspaceView
  rw [hviewer, hdata]
  rfl

theorem view_workspaces_of_name (hviewer : r.viewer = .user u) {name : String}
    (hdata : r.data.bind nameOf = .ok name) :
    view r .workspaces = attempt do
      let workspace ← Workspaces.create (.text name) (.user u)
      return (201, some workspace.toJson) := by
  show createWorkspaceView r = _
  unfold createWorkspaceView
  rw [hviewer, hdata]
  rfl

/-- What a request for a new workspace comes to where its body names none. -/
theorem serve_of_trouble (h : r.Asks u "POST" "/api/v1/workspaces/") {trouble : Trouble}
    (hdata : r.data.bind nameOf = .error trouble) (s : Site) :
    (∃ response, ((serve r).exec s).1 = .ok response ∧ 400 ≤ response.status) ∧
      ((serve r).exec s).2.store = s.store := by
  have hreaches := h.reaches at?_workspaces rfl
  have hview := view_workspaces_of_trouble h.viewer hdata
  have hrun : (view r .workspaces).exec (r.within s) = (.ok (.error trouble), r.within s) := by
    rw [hview]
    rfl
  exact ⟨serve_trouble hreaches nofun h.id hrun,
    (store_serve hreaches s).trans (congrArg (·.2.store) hrun)⟩

/-- What a request for a new workspace comes to where the store allows it. -/
theorem serve_of_admits (h : r.Asks u "POST" "/api/v1/workspaces/") {name : String}
    (hdata : r.data.bind nameOf = .ok name) (hadmits : s.store.Admits name u.id) :
    (∃ response, ((serve r).exec s).1 = .ok response ∧ response.status = 201) ∧
      ((serve r).exec s).2.store = s.store.founding name u.id s.clock := by
  have hreaches := h.reaches at?_workspaces rfl
  have hcreate := Workspaces.exec_create_of_admits (s := r.within s) hadmits
  have hserve := serve_attempt hreaches nofun (view_workspaces_of_name h.viewer hdata) h.id s
  rw [exec_bind_ok hcreate, exec_pure] at hserve
  refine ⟨?_, hserve.2⟩
  obtain ⟨response, hresponse, hstatus⟩ := hserve.1
  exact ⟨response, hresponse, hstatus.trans (status_respond _ 201 rfl)⟩

/-- What a request for a new workspace comes to where the store does not allow it. -/
theorem serve_of_not_admits (h : r.Asks u "POST" "/api/v1/workspaces/") {name : String}
    (hdata : r.data.bind nameOf = .ok name) (hadmits : ¬ s.store.Admits name u.id) :
    (∃ response, ((serve r).exec s).1 = .ok response ∧ response.status = 409) ∧
      ((serve r).exec s).2.store = s.store := by
  have hreaches := h.reaches at?_workspaces rfl
  have hcreate := Workspaces.exec_create_of_not_admits (s := r.within s) hadmits
  have hserve := serve_attempt hreaches nofun (view_workspaces_of_name h.viewer hdata) h.id s
  rw [exec_bind_error hcreate] at hserve
  exact hserve

/-- **Creating a workspace is all or nothing.** A request for a new workspace is answered whatever
its body is like. If it is answered by 201, its body has a valid name, and the store has got one
workspace, of this name and its slug, and one membership, that of the user as the administrator;
otherwise the store is as it was. A valid name is a conflict if and only if it is taken. -/
theorem creation_exact (h : r.Asks u "POST" "/api/v1/workspaces/") (s : Site) :
    ∃ response, ((serve r).exec s).1 = .ok response ∧
      ((response.status = 201 ∧ ∃ name, r.data.bind nameOf = .ok name ∧ IsName name ∧
          ((serve r).exec s).2.store = s.store.founding name u.id s.clock) ∨
        (response.status ≠ 201 ∧ ((serve r).exec s).2.store = s.store)) ∧
      ∀ name, r.data.bind nameOf = .ok name → s.store.Awaits →
        (response.status = 409 ↔ s.store.NameTaken name) ∧
          (response.status = 201 ↔ ¬ s.store.NameTaken name) := by
  cases hdata : r.data.bind nameOf with
  -- a body without a valid name is answered before the store is asked
  | error trouble =>
    obtain ⟨⟨response, hresponse, hstatus⟩, hstore⟩ := serve_of_trouble h hdata s
    exact ⟨response, hresponse, Or.inr ⟨by omega, hstore⟩, nofun⟩
  | ok name =>
    have hname : IsName name := by
      cases hbody : r.data with
      | error trouble =>
        rw [hbody] at hdata
        cases hdata
      | ok body =>
        rw [hbody] at hdata
        obtain ⟨-, -, -, -, -, -, -, hname⟩ := nameOf_eq_ok_iff.mp hdata
        exact hname
    -- a name is a conflict as a name or as a slug, or because of a membership that waits for it
    by_cases hadmits : s.store.Admits name u.id
    · obtain ⟨⟨response, hresponse, hstatus⟩, hstore⟩ := serve_of_admits h hdata hadmits
      refine ⟨response, hresponse, Or.inl ⟨hstatus, name, rfl, hname, hstore⟩, ?_⟩
      rintro _ ⟨rfl⟩ -
      simp [hstatus, hadmits.name]
    · obtain ⟨⟨response, hresponse, hstatus⟩, hstore⟩ := serve_of_not_admits h hdata hadmits
      refine ⟨response, hresponse, Or.inr ⟨by omega, hstore⟩, ?_⟩
      rintro _ ⟨rfl⟩ hawaits
      rw [hawaits.admits_iff, not_not] at hadmits
      simp [hstatus, hadmits]

/-- A store whose one workspace has the slug of a name without having the name. -/
def sampleTaken : Store := ({} : Store).founding "Acme" 1 ⟨0⟩

/-- A request for a workspace of this name. -/
def sampleCreation : Request :=
  { method := "POST", target := "/api/v1/workspaces/"
    viewer := .user { id := 2, username := "bob" }
    body := "\x7b\"name\": \" ACME! \"\x7d".toUTF8.toList }

theorem sampleCreation_asks :
    sampleCreation.Asks { id := 2, username := "bob" } "POST" "/api/v1/workspaces/" :=
  ⟨rfl, by decide +kernel, by decide +kernel, Option.isNone_iff_eq_none.mp (by decide +kernel),
    by decide +kernel⟩

theorem nameOf_sampleCreation : sampleCreation.data.bind nameOf = .ok "ACME!" :=
  toOption_eq_some_iff.mp (by decide +kernel)

theorem creation_exact_sample :
    sampleCreation.Asks { id := 2, username := "bob" } "POST" "/api/v1/workspaces/" ∧
      sampleCreation.data.bind nameOf = .ok "ACME!" ∧ sampleTaken.Awaits ∧
        ∃ response, ((serve sampleCreation).exec { store := sampleTaken }).1 = .ok response ∧
          response.status = 409 := by
  have hawaits : sampleTaken.Awaits :=
    Store.awaits_of_refers (List.forall_mem_singleton.mpr ⟨_, List.mem_singleton_self _, rfl⟩)
  obtain ⟨response, hresponse, -, hvalid⟩ :=
    creation_exact sampleCreation_asks { store := sampleTaken }
  have htaken : sampleTaken.NameTaken "ACME!" :=
    ⟨_, List.mem_singleton_self _, Or.inr (by decide +kernel)⟩
  exact ⟨sampleCreation_asks, nameOf_sampleCreation, hawaits, response, hresponse,
    (hvalid _ nameOf_sampleCreation hawaits).1.mpr htaken⟩

end Http

end WorkspaceHome
