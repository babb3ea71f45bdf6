import Mathlib.Tactic.SplitIfs
import WorkspaceHome.Proofs.Number.Key
import WorkspaceHome.Proofs.Store.Distinct

/-!
# Finding a workspace by its id or by its slug

Ids and slugs are looked up in one space of keys, and the oldest workspace that answers to a key is
taken (`Store.workspaceAt?_eq_some_iff`). So a member finds a workspace by its id unless the slug of
an older workspace is the numeral of this id, and by its slug unless the slug is a numeral for the
id of an older workspace (`find_iff`). Slugs are made from names that anybody may choose: a
workspace that is named by the id that the next one will have hides that one from its own members
(`find_hidden`).
-/

namespace WorkspaceHome

open Service

/-! ### Looking up a key -/

namespace Store

/-- A workspace answers to a key that stands for its id or is its slug. -/
def AnswersTo (number : Option ℤ) (slug : String) (w : Workspace) : Prop :=
  number = some (w.id : ℤ) ∨ w.slug = slug

/-- What looking up a key comes to for a user. -/
def lookup (s : Store) (user : ℕ) (key : String) : Except Failure Workspace :=
  match keyNumber key with
  | .error e => .error e
  | .ok number =>
    match s.workspaceAt? number key with
    | none => .error (.refuse .notFound ("Workspace '" ++ key ++ "' not found."))
    | some w =>
      if s.isMember w.id user then .ok w
      else
        .error (.refuse .permissionDenied
          ("You are not a member of workspace '" ++ w.slug ++ "'."))

variable {s : Store} {w : Workspace}

/-- The workspace at a key is the oldest one that answers to it. -/
theorem workspaceAt?_eq_some_iff {number : Option ℤ} {slug : String} :
    s.workspaceAt? number slug = some w ↔ w ∈ s.workspaces.rows ∧ AnswersTo number slug w ∧
      ∀ v ∈ s.workspaces.rows, v.id < w.id → ¬ AnswersTo number slug v := by
  unfold workspaceAt? AnswersTo
  rw [Table.find?_rows_eq_some_iff]
  simp only [Bool.or_eq_true, Bool.or_eq_false_iff, beq_iff_eq, beq_eq_false_iff_ne, not_or]
  rfl

/-- A key leads a user to a workspace of which the user is a member, if it is the oldest one that
answers to the key. -/
theorem lookup_eq_ok_iff {user : ℕ} {key : String} :
    s.lookup user key = .ok w ↔ s.isMember w.id user = true ∧ ∃ number, keyNumber key = .ok number ∧
      s.workspaceAt? number key = some w := by
  unfold lookup
  rcases keyNumber key with e | number
  · simp
  · dsimp only
    rcases hfound : s.workspaceAt? number key with _ | v
    · simp [hfound]
    · dsimp only
      constructor
      · intro h
        split_ifs at h with hmember
        obtain rfl : v = w := Except.ok.inj h
        exact ⟨hmember, number, rfl, hfound⟩
      · rintro ⟨hmember, _, ⟨rfl⟩, hw⟩
        obtain rfl : v = w := Option.some.inj (hfound.symm.trans hw)
        rw [if_pos hmember]

end Store

namespace Workspaces

theorem exec_find (key : Json) (u : User) (s : Site) :
    (find key (.user u)).exec s = (s.store.lookup u.id key.display, s) := by
  unfold find Store.lookup
  dsimp only
  rcases keyNumber key.display with e | number
  · rfl
  · dsimp only
    rw [exec_settle_ok_bind, exec_ask_bind]
    rcases s.store.workspaceAt? number key.display with _ | w
    · rfl
    · have hadmits : (admits w.id (.user u)).exec s = (.ok (s.store.isMember w.id u.id), s) := rfl
      dsimp only
      rw [exec_bind_ok hadmits]
      split_ifs
      · rfl
      · rfl

/-! ### Finding by id and by slug -/

variable {s : Store} {user : ℕ} {w : Workspace}

/-- A member is led to a workspace by the numeral of its id if no older workspace has it for its
slug. -/
theorem lookup_id_iff (hw : w ∈ s.workspaces.rows) (hmember : s.isMember w.id user = true) :
    s.lookup user (toString w.id) = .ok w ↔
      (toString w.id).length ≤ Numeral.digitLimit ∧
        ∀ v ∈ s.workspaces.rows, v.id < w.id → v.slug ≠ toString w.id := by
  rw [Store.lookup_eq_ok_iff, keyNumber_toString]
  simp only [Store.workspaceAt?_eq_some_iff]
  constructor
  · rintro ⟨-, number, hnumber, -, -, holdest⟩
    split_ifs at hnumber with hshort
    exact ⟨hshort, fun v hv hlt hslug => holdest v hv hlt (Or.inr hslug)⟩
  · rintro ⟨hshort, hslugs⟩
    refine ⟨hmember, some w.id, if_pos hshort, hw, Or.inl rfl, fun v hv hlt => ?_⟩
    rintro (hid | hslug)
    · exact hlt.ne (by simpa using hid.symm)
    · exact hslugs v hv hlt hslug

/-- A member is led to a workspace by its slug if this does not stand for the id of an older
workspace. -/
theorem lookup_slug_iff (hdistinct : s.DistinctWorkspaces) (hw : w ∈ s.workspaces.rows)
    (hmember : s.isMember w.id user = true) :
    s.lookup user w.slug = .ok w ↔
      ∃ number, keyNumber w.slug = .ok number ∧
        ∀ v ∈ s.workspaces.rows, v.id < w.id → number ≠ some (v.id : ℤ) := by
  rw [Store.lookup_eq_ok_iff]
  simp only [Store.workspaceAt?_eq_some_iff]
  constructor
  · rintro ⟨-, number, hnumber, -, -, holdest⟩
    exact ⟨number, hnumber, fun v hv hlt hid => holdest v hv hlt (Or.inl hid)⟩
  · rintro ⟨number, hnumber, hids⟩
    refine ⟨hmember, number, hnumber, hw, Or.inr rfl, fun v hv hlt => ?_⟩
    rintro (hid | hslug)
    · exact hids v hv hlt hid
    -- no other workspace has the same slug
    · obtain rfl := hdistinct v hv w hw (Or.inr hslug)
      exact lt_irrefl _ hlt

/-- **When a member finds a workspace** by its id or by its slug, after any run that starts with
distinct workspaces: by its id, as a number or as a numeral, if no older workspace has the numeral
for its slug; by its slug, if this does not stand for the id of an older workspace. -/
theorem find_iff (operations : List Operation) (site : Site)
    (hdistinct : site.store.DistinctWorkspaces) (u : User) (w : Workspace)
    (hw : w ∈ (Operation.performAll operations site).2.store.workspaces.rows)
    (hmember : (Operation.performAll operations site).2.store.isMember w.id u.id = true) :
    let after := (Operation.performAll operations site).2
    (∀ key, key = .int w.id ∨ key = .text (toString w.id) →
        (((find key (.user u)).exec after).1 = .ok w ↔
          (toString w.id).length ≤ Numeral.digitLimit ∧
            ∀ v ∈ after.store.workspaces.rows, v.id < w.id → v.slug ≠ toString w.id)) ∧
      (((find (.text w.slug) (.user u)).exec after).1 = .ok w ↔
        ∃ number, keyNumber w.slug = .ok number ∧
          ∀ v ∈ after.store.workspaces.rows, v.id < w.id → number ≠ some (v.id : ℤ)) := by
  have hafter := Store.distinctWorkspaces_invariant.performAll operations site hdistinct
  dsimp only
  refine ⟨fun key hkey => ?_, ?_⟩
  · have hdisplay : key.display = toString w.id := by
      rcases hkey with rfl | rfl
      · rfl
      · rfl
    rw [exec_find, hdisplay]
    exact lookup_id_iff hw hmember
  · rw [exec_find]
    exact lookup_slug_iff hafter hw hmember

/-- A user makes a workspace that is named by the id that the next workspace will have, and another
user makes the next one. -/
def sampleHiding : List Operation :=
  [.rows (.addUser "ada" "" "" ""), .rows (.addUser "ben" "" "" ""),
    .call (.createWorkspace (.text "2") (.named "ada")),
    .call (.createWorkspace (.text "Foo") (.named "ben"))]

/-- The site after both workspaces have been made. -/
def sampleHidden : Site := (Operation.performAll sampleHiding {}).2

theorem find_iff_sample :
    ∃ w ∈ sampleHidden.store.workspaces.rows, sampleHidden.store.isMember w.id 2 = true ∧
      ((find (.int w.id) (.user { id := 2, username := "ben" })).exec sampleHidden).1 ≠ .ok w ∧
      ((find (.text w.slug) (.user { id := 2, username := "ben" })).exec sampleHidden).1 =
        .ok w := by
  have hrows : sampleHidden.store.workspaces.rows =
      [⟨1, "2", "2", sampleHidden.clock, sampleHidden.clock⟩,
        ⟨2, "Foo", "foo", sampleHidden.clock, sampleHidden.clock⟩] := rfl
  have hfirst : ⟨1, "2", "2", sampleHidden.clock, sampleHidden.clock⟩ ∈
      sampleHidden.store.workspaces.rows := by simp [hrows]
  have hsecond : ⟨2, "Foo", "foo", sampleHidden.clock, sampleHidden.clock⟩ ∈
      sampleHidden.store.workspaces.rows := by simp [hrows]
  obtain ⟨hid, hslug⟩ := find_iff sampleHiding {} (fun v hv => absurd hv List.not_mem_nil)
    { id := 2, username := "ben" } _ hsecond rfl
  refine ⟨_, hsecond, rfl, fun hfound => ?_, hslug.mpr ⟨none, rfl, fun _ _ _ => nofun⟩⟩
  exact ((hid _ (Or.inl rfl)).mp hfound).2 _ hfirst Nat.one_lt_two rfl

/-- **A workspace can be hidden from its members**: named by the id of the next workspace, an older
one is found in its place, and the members of the next one are told that they are none. -/
theorem find_hidden :
    ∃ w ∈ sampleHidden.store.workspaces.rows, w.name = "Foo" ∧
      sampleHidden.store.isMember w.id 2 = true ∧
      ((find (.int w.id) (.user { id := 2, username := "ben" })).exec sampleHidden).1 =
        .error (.refuse .permissionDenied "You are not a member of workspace '2'.") := by
  have hkey : keyNumber "2" = .ok (some 2) := keyNumber_toString 2
  have hlookup : sampleHidden.store.lookup 2 "2" =
      .error (.refuse .permissionDenied "You are not a member of workspace '2'.") := by
    unfold Store.lookup
    rw [hkey]
    rfl
  refine ⟨⟨2, "Foo", "foo", sampleHidden.clock, sampleHidden.clock⟩,
    List.mem_cons_of_mem _ List.mem_cons_self, rfl, rfl, ?_⟩
  rw [exec_find]
  exact hlookup

end Workspaces

end WorkspaceHome
