import WorkspaceHome.Proofs.Homepage.Arrangement

/-!
# Recording moves to the front

Recording an application touches two recency lists. If no list has equal ids and none loses an id to
the limit, both are moved to the front (`touch_eq_front`), and so are the workspace among the groups
(`orderedWorkspaces_front`) and the applications with the recorded id inside each group
(`shownGroup_front`), though the one order is by first places and the other by last ones. All else
on the homepage stays (`build_recordRecent`).
-/

namespace WorkspaceHome

namespace Recency

variable {recent : List Json} {v : Json} {limit : ℤ}

/-- Touching an id costs a list none of its ids, nor the id itself. -/
def KeepsAll (recent : List Json) (v : Json) (limit : ℤ) : Prop :=
  ∀ w ∈ v :: recent, ∃ w' ∈ touch recent v limit, w'.same w = true

instance : Decidable (KeepsAll recent v limit) :=
  inferInstanceAs (Decidable (∀ w ∈ v :: recent, ∃ w' ∈ touch recent v limit, w'.same w = true))

theorem apart_front (hv : v.isScalarValue = true) (h : Apart recent) : Apart (front v recent) := by
  refine List.Pairwise.cons ?_ (h.filter _)
  intro w hw
  rw [Json.same_comm (Or.inl hv)]
  simpa using (List.mem_filter.mp hw).2

/-- A list without equal ids that loses none is touched by moving the id to its front. -/
theorem touch_eq_front (hv : v.isScalarValue = true) (happart : Apart recent)
    (h : KeepsAll recent v limit) : touch recent v limit = front v recent := by
  have hcut : touch recent v limit = (front v recent).take limit.toNat := by
    rw [touch, distinct_eq_self happart, front]
  rw [hcut]
  -- if anything is cut off, so is the id at the place of the limit
  apply List.take_of_length_le
  by_contra hlength
  have hlength : limit.toNat < (front v recent).length := Nat.lt_of_not_le hlength
  have hmem : (front v recent)[limit.toNat] ∈ v :: recent :=
    (List.filter_sublist.cons_cons v).subset (List.getElem_mem hlength)
  obtain ⟨w', hw', hsame⟩ := h _ hmem
  rw [hcut] at hw'
  -- what is kept stands before the first id that is cut off, and is therefore not equal to it
  obtain ⟨i, hi, rfl⟩ := List.mem_take_iff_getElem.mp hw'
  have hdiffer := List.pairwise_iff_getElem.mp (apart_front hv happart) i limit.toNat
    (by omega) hlength (by omega)
  rw [hdiffer] at hsame
  cases hsame

/-- In the order of first places, an id at the front is followed by all others as before. -/
theorem prioritise_front {all : List Json} (hv : v.isScalarValue = true) (hrecent : Scalars recent)
    (hall : Scalars all) :
    prioritise (front v recent) all =
      v :: (prioritise recent all).filter fun w => !v.same w := by
  have hflip : (recent.filter fun w => !w.same v) = recent.filter fun w => !v.same w :=
    List.filter_congr fun w _ => by rw [Json.same_comm (Or.inl hv)]
  rw [prioritise, prioritise, front, hflip, List.cons_append, distinct,
    filter_distinct_filter_append (respects_same hv) hrecent hall]

end Recency

/-- A group with the applications of an id moved to its front. -/
def WorkspaceGroup.promote (id : Json) (g : WorkspaceGroup) : WorkspaceGroup :=
  { g with
    applications := (g.applications.filter fun l => l.id.same id) ++
      g.applications.filter fun l => !l.id.same id }

namespace Homepage

open Recency Service

variable {s s' : Store} {user : ℕ} {recentWorkspaces recentApplications : List Json}

/-! ### Workspaces -/

/-- Ids that are dropped from an order are dropped from the workspaces in it. -/
theorem inOrder_filter {p : Json → Bool} {q : Workspace → Bool} {order : List Json}
    {workspaces : List Workspace}
    (h : ∀ id, ∀ w ∈ workspaces, (Json.int w.id).same id = true → p id = q w) :
    inOrder (order.filter p) workspaces = (inOrder order workspaces).filter q := by
  unfold inOrder
  rw [List.filterMap_filter, List.filter_filterMap]
  apply List.filterMap_congr
  intro id _
  cases hfound : workspaces.find? fun w => (Json.int w.id).same id with
  | none => simp
  | some w =>
    rw [h id w (List.mem_of_find?_eq_some hfound) (by simpa using List.find?_some hfound)]
    cases hq : q w <;> simp [Option.filter, hq]

theorem find?_int {w : Workspace} (hw : w ∈ s.workspacesOf user) :
    ((s.workspacesOf user).find? fun v => (Json.int v.id).same (.int w.id)) = some w := by
  have hself : (Json.int w.id).same (.int w.id) = true := by
    rw [Json.same_int_int, decide_eq_true rfl]
  cases hfound : (s.workspacesOf user).find? fun v => (Json.int v.id).same (.int w.id) with
  | none => exact absurd hself (List.find?_eq_none.mp hfound w hw)
  | some v =>
    have hv : (Json.int v.id).same (.int w.id) = true := by simpa using List.find?_some hfound
    rw [eq_of_mem_workspacesOf (List.mem_of_find?_eq_some hfound) hw (eq_of_same_id hv hself)]

/-- The workspace whose id is moved to the front of the recency list comes first. -/
theorem orderedWorkspaces_front (hrecent : Scalars recentWorkspaces) {w : Workspace}
    (hw : w ∈ s.workspacesOf user) :
    orderedWorkspaces s user (front (.int w.id) recentWorkspaces) =
      w :: (orderedWorkspaces s user recentWorkspaces).filter fun v => v.id != w.id := by
  have hcons (rest : List Json) : inOrder (.int w.id :: rest) (s.workspacesOf user) =
      w :: inOrder rest (s.workspacesOf user) := by
    unfold inOrder
    rw [List.filterMap_cons, find?_int hw]
  unfold orderedWorkspaces
  rw [prioritise_front rfl hrecent (s.scalars_workspaceKeys user), hcons]
  -- an id is dropped from the order exactly if it names the workspace that is moved
  congr 1
  apply inOrder_filter
  intro id v _ hv
  cases hsame : (Json.int w.id).same id with
  | true => simp [eq_of_same_id hv hsame]
  | false =>
    have hne : v.id ≠ w.id := by
      intro heq
      rw [heq, hsame] at hv
      cases hv
    simp [hne]

/-- Where a workspace stands among the others, and the others without it. -/
theorem exists_orderedWorkspaces_eq (hrecent : Scalars recentWorkspaces) {w : Workspace}
    (hw : w ∈ s.workspacesOf user) :
    ∃ xs ys, orderedWorkspaces s user recentWorkspaces = xs ++ w :: ys ∧
      ((orderedWorkspaces s user recentWorkspaces).filter fun v => v.id != w.id) = xs ++ ys := by
  have hmem := (mem_orderedWorkspaces hrecent).mpr (Store.mem_workspacesOf.mp hw)
  obtain ⟨xs, ys, hsplit⟩ := List.append_of_mem hmem
  have hordered := pairwise_orderedWorkspaces s user hrecent
  have hdiffer : (orderedWorkspaces s user recentWorkspaces).Pairwise fun v w => v.id ≠ w.id := by
    refine hordered.imp ?_
    intro v w hvw heq
    rw [heq] at hvw
    exact FirstBefore.irrefl hvw
  rw [hsplit, List.pairwise_append] at hdiffer
  obtain ⟨-, hys, hxs⟩ := hdiffer
  -- no other workspace has the id, so the filter drops just the one in the middle
  refine ⟨xs, ys, hsplit, ?_⟩
  rw [hsplit, List.filter_append, List.filter_cons_of_neg (by simp),
    List.filter_eq_self.mpr, List.filter_eq_self.mpr]
  · intro v hv
    simpa using (List.rel_of_pairwise_cons hys hv).symm
  · intro v hv
    simpa using hxs v hv w List.mem_cons_self

/-! ### Groups -/

/-- The group of a workspace as a user is shown it, in the order of a recency list. -/
def shownGroup (s : Store) (user : ℕ) (recent : List Json) (w : Workspace) : WorkspaceGroup :=
  (groupOf s (sortBy (·.id) recent (s.listedFor user)) w).withSlugs s

/-- Moving an id to the front of the recency list moves its applications to the front of a group. -/
theorem shownGroup_front (hlisted : ∀ l ∈ s.listedFor user, l.id.isScalarValue = true)
    (hrecent : Scalars recentApplications) {id : Json} (hid : id.isScalarValue = true)
    (w : Workspace) :
    shownGroup s user (front id recentApplications) w =
      (shownGroup s user recentApplications w).promote id := by
  have hfront : sortBy (·.id) (front id recentApplications) (s.listedFor user) = _ :=
    sortBy_front hrecent hid (fun _ _ hlt => Nat.lt_asymm hlt) (s.pairwise_row_listedFor user)
      hlisted
  have hcommute (p : ListedApplication → Bool) (items : List ListedApplication) :
      ((items.filter p).filter fun l => l.workspace == w.id) =
        (items.filter fun l => l.workspace == w.id).filter p := by
    rw [List.filter_filter, List.filter_filter]
    simp only [Bool.and_comm]
  unfold shownGroup groupOf WorkspaceGroup.withSlugs WorkspaceGroup.promote
  rw [hfront]
  simp only [List.filter_append, List.map_append, hcommute, List.filter_map]
  rfl

/-- **Both lists moved to the front**: the groups are those from before, with the workspace first
and with the applications of the id first in each. -/
theorem arranged_front_of_scalars (hlisted : ∀ l ∈ s.listedFor user, l.id.isScalarValue = true)
    (hworkspaces : Scalars recentWorkspaces) (happlications : Scalars recentApplications)
    {id : Json} (hid : id.isScalarValue = true) {w : Workspace} (hw : w ∈ s.workspacesOf user) :
    ∃ vs vs', arranged s user recentWorkspaces recentApplications =
        (vs ++ w :: vs').map (shownGroup s user recentApplications) ∧
      arranged s user (front (.int w.id) recentWorkspaces) (front id recentApplications) =
        ((w :: (vs ++ vs')).map (shownGroup s user recentApplications)).map (·.promote id) := by
  obtain ⟨vs, vs', hsplit, hrest⟩ := exists_orderedWorkspaces_eq hworkspaces hw
  refine ⟨vs, vs', ?_, ?_⟩
  · rw [arranged, hsplit]
    rfl
  · rw [arranged, orderedWorkspaces_front hworkspaces hw, hrest, List.map_map]
    exact List.map_congr_left fun v _ => shownGroup_front hlisted happlications hid v

theorem arranged_front (h : s.WellShaped user recentWorkspaces recentApplications) {id : Json}
    (hid : id.isScalarValue = true) {w : Workspace} (hw : w ∈ s.workspacesOf user) :
    ∃ xs g ys, arranged s user recentWorkspaces recentApplications = xs ++ g :: ys ∧
      g.workspace = w ∧
        arranged s user (front (.int w.id) recentWorkspaces) (front id recentApplications) =
          (g :: (xs ++ ys)).map (·.promote id) := by
  obtain ⟨vs, vs', hsplit, hfront⟩ := arranged_front_of_scalars
    (fun l hl => (h.showable.isScalar_id hl).1) (scalars_of_isScalar h.workspaceIds)
    (scalars_of_isScalar h.applicationIds) hid hw
  refine ⟨vs.map (shownGroup s user recentApplications), shownGroup s user recentApplications w,
    vs'.map (shownGroup s user recentApplications), ?_, rfl, ?_⟩
  · rw [hsplit, List.map_append, List.map_cons]
  · rw [hfront, List.map_cons, List.map_append]

/-! ### Recording -/

/-- The groups do not depend on what is remembered of users, apart from the two lists. -/
theorem arranged_congr {other : ℕ} (h : Store.SameBut other s s') :
    arranged s' user recentWorkspaces recentApplications =
      arranged s user recentWorkspaces recentApplications := by
  -- `arranged` reads none of the rows in which the two stores may differ
  obtain ⟨users, workspaces, memberships, applications, pages, data⟩ := s
  obtain ⟨users', workspaces', memberships', applications', pages', data'⟩ := s'
  obtain ⟨rfl, rfl, rfl, rfl, rfl, -⟩ := h
  rfl

theorem mem_of_mem_touch {recent : List Json} {v w : Json} {limit : ℤ}
    (h : w ∈ touch recent v limit) : w = v ∨ w ∈ recent := by
  rcases List.mem_cons.mp (List.mem_of_mem_take h) with rfl | h
  · exact Or.inl rfl
  · exact Or.inr (mem_of_mem_distinct (List.mem_filter.mp h).1)

theorem isScalar_of_mem_touch {recent : List Json} {v : Json} {limit : ℤ} (hv : v.IsScalar)
    (h : ∀ id ∈ recent, id.IsScalar) : ∀ id ∈ touch recent v limit, id.IsScalar := by
  intro id hid
  rcases mem_of_mem_touch hid with rfl | hid
  · exact hv
  · exact h id hid

/-- A list of scalars can be kept once an id that can be stored has been moved to its front. -/
theorem isKeepable_touch {recent : List Json} {v : Json} {limit : ℤ} (hv : isStorable v = true)
    (h : ∀ id ∈ recent, id.IsScalar) : isKeepable (.list (touch recent v limit)) = true := by
  rw [isKeepable_list, Json.everywhereItems_iff]
  intro id hid
  rcases mem_of_mem_touch hid with rfl | hid
  · exact hv
  · exact Json.everywhere_isFinite_of_isScalar (h id hid)

variable {site : Site} {u : User} {a : Application} {id : Json}

/-- Where lists of scalars are remembered, every application with an id that can be stored can be
recorded. -/
theorem recordable_of_remembers
    (h : site.store.Remembers u.id recentWorkspaces recentApplications)
    (hid : GitMetadata.clientId (.int a.id) a.gitMetadata = .ok id)
    (hstorable : isStorable id = true) :
    Remembrance.Recordable site u a id (touch recentApplications id site.settings.recentLimit)
      (touch recentWorkspaces (.int a.workspace) site.settings.recentLimit) := by
  obtain ⟨hws, has⟩ := site.store.remembered_recent u.id site.clock
  exact
    { clientId := hid
      touchApplications := by
        rw [has, h.applicationList, touchStored_list (scalars_of_isScalar h.applicationIds)]
      touchWorkspaces := by
        rw [hws, h.workspaceList, touchStored_list (scalars_of_isScalar h.workspaceIds)]
      keepApplications := isKeepable_touch hstorable h.applicationIds
      keepWorkspaces := isKeepable_touch rfl h.workspaceIds }

/-- For a store of the right shape every application with an id that is a scalar can be recorded. -/
theorem recordable (h : site.store.WellShaped u.id recentWorkspaces recentApplications)
    (hid : GitMetadata.clientId (.int a.id) a.gitMetadata = .ok id) (hscalar : id.IsScalar) :
    Remembrance.Recordable site u a id (touch recentApplications id site.settings.recentLimit)
      (touch recentWorkspaces (.int a.workspace) site.settings.recentLimit) :=
  recordable_of_remembers h.remembers hid (Json.everywhere_isFinite_of_isScalar hscalar)

/-- A store of the right shape stays so when other lists of scalars are remembered. -/
theorem wellShaped_of_sameBut (h : s.WellShaped user recentWorkspaces recentApplications)
    (hsame : Store.SameBut user s s') {d : UserData} {applications workspaces : List Json}
    (hrow : s'.dataOf? user = some d) (happlications : d.recentApplications = .list applications)
    (hworkspaces : d.recentWorkspaces = .list workspaces)
    (has : ∀ id ∈ applications, id.IsScalar) (hws : ∀ id ∈ workspaces, id.IsScalar) :
    s'.WellShaped user workspaces applications := by
  have hremembers := Store.remembers_of_row hrow hworkspaces happlications hws has
  refine
    { workspaceList := hremembers.workspaceList
      applicationList := hremembers.applicationList
      workspaceIds := hws
      applicationIds := has
      metadata := ?_
      pages := ?_
      publishedPages := ?_ }
  all_goals
    intro a ha hm
    rw [hsame.applications] at ha
    rw [hsame.isMember_eq] at hm
  · exact h.metadata a ha hm
  · exact h.pages a ha hm
  · exact h.publishedPages a ha hm

/-- **Recording is moving to the front**: after an application has been recorded, the groups of the
homepage are those from before with its workspace moved to the front, and in each of them the
applications of the recorded id come first; all else is as before. -/
theorem build_recordRecent (site : Site) (u : User)
    (h : site.store.WellShaped u.id recentWorkspaces recentApplications)
    (ha : a ∈ site.store.applications.rows) {w : Workspace} (hw : w ∈ site.store.workspaces.rows)
    (haw : a.workspace = w.id) (hmember : site.store.isMember w.id u.id = true)
    (hid : GitMetadata.clientId (.int a.id) a.gitMetadata = .ok id)
    (hws : Apart recentWorkspaces) (has : Apart recentApplications)
    (hkeepWorkspaces : KeepsAll recentWorkspaces (.int w.id) site.settings.recentLimit)
    (hkeepApplications : KeepsAll recentApplications id site.settings.recentLimit)
    (url url' : Option String) :
    ∃ before site₁ data site₂ after site₃,
      (build (.user u) url).exec site = (.ok before, site₁) ∧
        (Remembrance.recordRecent (.user u) a).exec site = (.ok data, site₂) ∧
          (build (.user u) url').exec site₂ = (.ok after, site₃) ∧
            ∃ xs g ys, before.groups = xs ++ g :: ys ∧ g.workspace = w ∧
              after.groups = (g :: (xs ++ ys)).map (·.promote id) := by
  -- the application is of one of the user's workspaces, so its metadata are of the right shape
  have hscalar : id.IsScalar := by
    obtain ⟨id', hid', hscalar⟩ := GitMetadata.clientId_ok (Json.isScalar_int a.id)
      (h.metadata a ha (by rw [haw]; exact hmember))
    rw [hid] at hid'
    rwa [Except.ok.inj hid']
  obtain ⟨before, site₁, hbefore, -, hgroups⟩ := build_ok site h url
  obtain ⟨store, hrecord, hrow, hsame⟩ :=
    Remembrance.exec_recordRecent_ok (recordable h hid hscalar)
  -- the second homepage is built from a store of the right shape again
  have hshape := wellShaped_of_sameBut h hsame hrow rfl rfl
    (isScalar_of_mem_touch hscalar h.applicationIds)
    (isScalar_of_mem_touch (Json.isScalar_int _) h.workspaceIds)
  obtain ⟨after, site₃, hafter, -, hgroups'⟩ := build_ok ({ site with store }.noting
    (Remembrance.creation site.store u.id ++
      [Event.recentApplicationRecorded u.id id a.workspace])) hshape url'
  refine ⟨before, site₁, _, _, after, site₃, hbefore, hrecord, hafter, ?_⟩
  obtain ⟨xs, g, ys, hsplit, hgw, hfront⟩ := arranged_front h hscalar.1
    (Store.mem_workspacesOf.mpr ⟨hw, hmember⟩)
  refine ⟨xs, g, ys, hgroups.trans hsplit, hgw, ?_⟩
  rw [hgroups', Site.noting_store, arranged_congr hsame, haw,
    touch_eq_front rfl hws hkeepWorkspaces, touch_eq_front hscalar.1 has hkeepApplications, hfront]

theorem build_recordRecent_sample :
    ∃ before site₁ data site₂ after site₃,
      (build (.user { id := 1, username := "ada" }) none).exec { store := Store.sample } =
          (.ok before, site₁) ∧
        (Remembrance.recordRecent (.user { id := 1, username := "ada" })
            { id := 1, workspace := 1, name := "A", slug := "a" }).exec { store := Store.sample } =
          (.ok data, site₂) ∧
        (build (.user { id := 1, username := "ada" }) none).exec site₂ = (.ok after, site₃) ∧
          ∃ xs g ys, before.groups = xs ++ g :: ys ∧
            g.workspace = ⟨1, "One", "one", ⟨0⟩, ⟨0⟩⟩ ∧
              after.groups = (g :: (xs ++ ys)).map (·.promote (.int 1)) :=
  build_recordRecent { store := Store.sample } { id := 1, username := "ada" }
    Store.sample_wellShaped (a := { id := 1, workspace := 1, name := "A", slug := "a" })
    (by simp [Store.sample, Table.insert]) (w := ⟨1, "One", "one", ⟨0⟩, ⟨0⟩⟩)
    (by simp [Store.sample, Table.insert]) rfl rfl rfl (by decide) (by decide) (by decide)
    (by decide) none none

end Homepage

end WorkspaceHome
