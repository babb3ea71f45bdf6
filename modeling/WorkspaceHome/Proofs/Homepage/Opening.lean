import WorkspaceHome.Proofs.Frame.Writing
import WorkspaceHome.Proofs.Homepage.Exact
import WorkspaceHome.Proofs.Homepage.Promotion
import WorkspaceHome.Proofs.Operation.Ownership

/-!
# What opening an application does to the homepage

Whatever the recency lists hold, touching an id moves it to the front of what is kept of its list
(`exists_touch_eq_front`). So after an application has been recorded, its workspace is the first one
on the homepage, and in it the applications of the recorded id come first (`build_touched`).
-/

namespace WorkspaceHome

/-- Among items with different keys, a filter that passes a single one leaves just this one. -/
theorem filter_eq_singleton {α β : Type} {key : α → β} {p : α → Bool} {items : List α} {a : α}
    (hdiffer : (items.map key).Nodup) (ha : a ∈ items) (hp : p a = true)
    (honly : ∀ b ∈ items, p b = true → key b = key a) : items.filter p = [a] := by
  have hmem : a ∈ items.filter p := List.mem_filter.mpr ⟨ha, hp⟩
  have hkeys : (items.filter p).map key = List.replicate (items.filter p).length (key a) := by
    refine List.eq_replicate_of_mem (fun k hk => ?_) |>.trans (by rw [List.length_map])
    obtain ⟨b, hb, rfl⟩ := List.mem_map.mp hk
    obtain ⟨hb, hpb⟩ := List.mem_filter.mp hb
    exact honly b hb hpb
  have hnodup : ((items.filter p).map key).Nodup := (List.filter_sublist.map key).nodup hdiffer
  rw [hkeys, List.nodup_replicate] at hnodup
  -- the items that pass have one key, so there is only one of them
  obtain ⟨b, hb⟩ : ∃ b, items.filter p = [b] :=
    List.length_eq_one_iff.mp (Nat.le_antisymm hnodup (List.length_pos_of_mem hmem))
  rw [hb] at hmem ⊢
  rw [List.mem_singleton.mp hmem]

namespace Recency

/-- Touching an id moves it to the front of those ids of the list that are kept. -/
theorem exists_touch_eq_front (recent : List Json) (v : Json) {limit : ℤ} (hlimit : 1 ≤ limit) :
    ∃ kept, (∀ w ∈ kept, w ∈ recent) ∧ touch recent v limit = front v kept := by
  obtain ⟨n, hn⟩ : ∃ n, limit.toNat = n + 1 := ⟨limit.toNat - 1, by omega⟩
  refine ⟨((distinct recent).filter fun w => !w.same v).take n, fun w hw => ?_, ?_⟩
  · exact mem_of_mem_distinct (List.mem_filter.mp (List.mem_of_mem_take hw)).1
  · have hothers : ∀ w ∈ ((distinct recent).filter fun w => !w.same v).take n,
        (!w.same v) = true := fun w hw => (List.mem_filter.mp (List.mem_of_mem_take hw)).2
    rw [touch, hn, List.take_succ_cons, front, List.filter_eq_self.mpr hothers]

end Recency

namespace Homepage

open Recency Service

variable {s : Store} {user : ℕ} {recentWorkspaces recentApplications : List Json}

/-! ### Groups -/

/-- **Both lists touched**: the workspace comes first, and in it the applications of the id. -/
theorem arranged_touch (h : s.Showable user recentWorkspaces recentApplications) {id : Json}
    (hid : id.isScalarValue = true) {w : Workspace} (hw : w ∈ s.workspacesOf user) {limit : ℤ}
    (hlimit : 1 ≤ limit) :
    ∃ kept rest, arranged s user (touch recentWorkspaces (.int w.id) limit)
      (touch recentApplications id limit) = (shownGroup s user kept w).promote id :: rest := by
  obtain ⟨keptWorkspaces, hkeptWorkspaces, hworkspaces⟩ :=
    exists_touch_eq_front recentWorkspaces (.int w.id) hlimit
  obtain ⟨kept, hkept, happlications⟩ := exists_touch_eq_front recentApplications id hlimit
  obtain ⟨vs, vs', -, hfront⟩ := arranged_front_of_scalars
    (fun l hl => (h.isScalar_id hl).1)
    (fun v hv => (h.workspaceIds v (hkeptWorkspaces v hv)).1)
    (fun v hv => (h.applicationIds v (hkept v hv)).1) hid hw
  rw [hworkspaces, happlications, hfront]
  exact ⟨kept, _, rfl⟩

/-- An application is in the group of a workspace exactly if it is one of those that the user is
shown in it, with the slugs put in. -/
theorem mem_shownGroup {recent : List Json} {w : Workspace} {l : ListedApplication} :
    l ∈ (shownGroup s user recent w).applications ↔
      ∃ plain ∈ s.listedFor user, plain.workspace = w.id ∧ l = (plain.withSlugs s).1 := by
  constructor
  · intro hl
    obtain ⟨plain, hplain, rfl⟩ := List.mem_map.mp hl
    obtain ⟨hplain, hw⟩ := List.mem_filter.mp hplain
    exact ⟨plain, mem_sortBy.mp hplain, by simpa using hw, rfl⟩
  · rintro ⟨plain, hplain, hw, rfl⟩
    exact List.mem_map.mpr ⟨plain, List.mem_filter.mpr ⟨mem_sortBy.mpr hplain, by simpa using hw⟩,
      rfl⟩

/-! ### Recording -/

/-- What can be shown stays so when other lists of scalars are remembered. -/
theorem showable_of_sameBut (h : s.Showable user recentWorkspaces recentApplications) {s' : Store}
    (hsame : Store.SameBut user s s') {workspaces applications : List Json}
    (hremembers : s'.Remembers user workspaces applications) :
    s'.Showable user workspaces applications := by
  refine { toRemembers := hremembers, visible := ?_, listed := ?_ }
  all_goals
    intro a ha hm
    rw [hsame.applications] at ha
    rw [hsame.isMember_eq] at hm
  · exact h.visible a ha hm
  · exact h.listed a ha hm

/-- Building a homepage leaves the two lists that are remembered, and the settings. -/
theorem remembers_built {site site' : Site} {u : User} {url : Option String} {homepage : Homepage}
    (h : site.store.Remembers u.id recentWorkspaces recentApplications)
    (hbuild : (build (.user u) url).exec site = (.ok homepage, site')) :
    Store.SameBut u.id site.store site'.store ∧
      site'.store.Remembers u.id recentWorkspaces recentApplications ∧
        site'.settings = site.settings := by
  -- fixing the viewed version is all that is done to the store
  have hleaves := leaves_build (.user u) url site
  unfold Leaves at hleaves
  rw [hbuild] at hleaves
  obtain ⟨u', hu', hstore⟩ := hleaves
  obtain rfl : u = u' := Viewer.user.inj hu'
  have hrow := Store.dataOf?_revise site.store u.id site.clock
    (Remembrance.viewing site.settings.appVersion site.clock)
  rw [← hstore] at hrow
  -- fixing the version leaves both lists of the row, also of one that it makes
  obtain ⟨hviewedWorkspaces, hviewedApplications⟩ := Remembrance.viewed_recent
    (site.store.remembered u.id site.clock) site.settings.appVersion site.clock
  obtain ⟨hworkspaces, happlications⟩ := site.store.remembered_recent u.id site.clock
  have hsettings : (Frame.fixing Site.settings).Lenient :=
    { Frame.fixing_mild fun _ _ _ _ => rfl with
      cache := fun _ _ => rfl
      requests := fun _ _ => rfl }
  refine ⟨hstore ▸ Store.sameBut_revise _ _ _ _, Store.remembers_of_row hrow ?_ ?_ h.workspaceIds
    h.applicationIds, ?_⟩
  · exact hviewedWorkspaces.trans (hworkspaces.trans h.workspaceList)
  · exact hviewedApplications.trans (happlications.trans h.applicationList)
  · have hkeeps := hsettings.build (Frame.fixing_writable fun _ _ _ _ => rfl).ensureViewed
      (.user u) url site
    unfold Frame.KeepsAt at hkeeps
    rw [hbuild] at hkeeps
    exact hkeeps

/-- **The homepage after an application has been opened**: where both lists have been touched and
nothing else of the store has changed, the first group is the one of the workspace, and in it the
applications of the id come first. -/
theorem build_touched {u : User} (h : s.Showable u.id recentWorkspaces recentApplications)
    {id : Json} (hscalar : id.IsScalar) {w : Workspace} (hw : w ∈ s.workspacesOf u.id) {limit : ℤ}
    (hlimit : 1 ≤ limit) (site : Site) (hsame : Store.SameBut u.id s site.store) {d : UserData}
    (hrow : site.store.dataOf? u.id = some d)
    (hworkspaces : d.recentWorkspaces = .list (touch recentWorkspaces (.int w.id) limit))
    (happlications : d.recentApplications = .list (touch recentApplications id limit))
    (url : Option String) :
    ∃ homepage site', (build (.user u) url).exec site = (.ok homepage, site') ∧
      ∃ kept rest, homepage.groups = (shownGroup s u.id kept w).promote id :: rest := by
  have hshowable : site.store.Showable u.id (touch recentWorkspaces (.int w.id) limit)
      (touch recentApplications id limit) :=
    showable_of_sameBut h hsame (Store.remembers_of_row hrow hworkspaces happlications
      (isScalar_of_mem_touch (Json.isScalar_int _) h.workspaceIds)
      (isScalar_of_mem_touch hscalar h.applicationIds))
  obtain ⟨homepage, site', hbuild, -, hgroups⟩ := build_showable site hshowable url
  obtain ⟨kept, rest, harranged⟩ := arranged_touch h hscalar.1 hw hlimit
  refine ⟨homepage, site', hbuild, kept, rest, ?_⟩
  rw [hgroups, arranged_congr hsame, harranged]

end Homepage

end WorkspaceHome
