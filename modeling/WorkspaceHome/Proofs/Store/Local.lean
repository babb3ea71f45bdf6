import WorkspaceHome.Proofs.Homepage.Shape
import WorkspaceHome.Proofs.Store.Groups
import WorkspaceHome.Proofs.Store.Table

/-!
# Questions about several rows

A question about several rows is local if what it tells of one of them does not depend on the others
(`Store.IsLocal` for rows that are listed and `Groups.IsLocal` for rows that are gathered).
Gathering keeps a question local (`Store.IsLocal.collect`). The four questions of the homepage are
local, each in its own order: workspaces by their ids, members by workspace, visible applications by
workspace, and pages by application.
-/

namespace WorkspaceHome

variable {α β : Type} {number : α → ℕ} {question : List ℤ → List α}

/-- What is gathered under an id; an id that names no row has nothing. -/
def Groups.at? (groups : Groups α) (id : ℤ) : Option (List α) :=
  (groups.find? fun group => (group.1 : ℤ) == id).map Prod.snd

/-- A question that gathers rows is local: under an id of the batch stands what asking for this id
alone gives, every id stands there once, with something to list, and only if it was asked for, and
all in all nothing is gathered but the whole list. -/
structure Groups.IsLocal (question : List ℤ → Groups α) (whole : List ℤ → List α) : Prop where
  alone : ∀ ids, ∀ id ∈ ids, (question ids).at? id = (question [id]).at? id
  asked : ∀ ids, ∀ group ∈ question ids, (group.1 : ℤ) ∈ ids ∧ group.2 ≠ []
  once : ∀ ids, ((question ids).map Prod.fst).Nodup
  whole : ∀ ids, ((question ids).flatMap Prod.snd).Perm (whole ids)

namespace Store

/-- A question that lists rows is local: the rows of an id of the batch are those that asking for
this id alone gives, in the same order, there are no rows of other ids, and no row comes twice. -/
structure IsLocal (number : α → ℕ) (question : List ℤ → List α) : Prop where
  alone : ∀ ids, ∀ id ∈ ids,
    ((question ids).filter fun a => (number a : ℤ) == id) = question [id]
  asked : ∀ ids, ∀ a ∈ question ids, (number a : ℤ) ∈ ids
  once : ∀ ids, (question ids).Nodup

/-- It is enough to know the rows of each number. -/
theorem IsLocal.of_rows {rows : ℕ → List α}
    (hrows : ∀ (ids : List ℤ) (n : ℕ), (n : ℤ) ∈ ids →
      ((question ids).filter fun a => number a == n) = rows n)
    (hasked : ∀ ids, ∀ a ∈ question ids, (number a : ℤ) ∈ ids)
    (honce : ∀ ids, (question ids).Nodup) : IsLocal number question where
  asked := hasked
  once := honce
  alone := by
    intro ids id hid
    have hself : ((question [id]).filter fun a => (number a : ℤ) == id) = question [id] :=
      List.filter_eq_self.mpr fun a ha =>
        beq_iff_eq.mpr (List.mem_singleton.mp (hasked [id] a ha))
    rw [← hself]
    by_cases hnat : ∃ n : ℕ, (n : ℤ) = id
    · obtain ⟨n, rfl⟩ := hnat
      have hcast : (fun a => (number a : ℤ) == (n : ℤ)) = fun a => number a == n := by
        funext a
        rw [Bool.eq_iff_iff, beq_iff_eq, beq_iff_eq, Nat.cast_inj]
      rw [hcast, hrows ids n hid, hrows [(n : ℤ)] n List.mem_cons_self]
    -- no row has a number that is none
    · have hnone (items : List α) : (items.filter fun a => (number a : ℤ) == id) = [] :=
        List.filter_eq_nil_iff.mpr fun a _ h => hnat ⟨number a, beq_iff_eq.mp h⟩
      rw [hnone, hnone]

end Store

/-! ### Gathering -/

theorem Groups.at?_natCast (groups : Groups α) (n : ℕ) : groups.at? n = groups.lookup n := by
  induction groups with
  | nil => rfl
  | cons group rest ih =>
    obtain ⟨k, list⟩ := group
    unfold at? at ih ⊢
    rw [lookup_cons, List.find?_cons]
    by_cases hk : n = k
    · simp [hk]
    · have hcast : ((k : ℤ) == (n : ℤ)) = false :=
        beq_eq_false_iff_ne.mpr fun h => hk (Nat.cast_injective h).symm
      rw [if_neg hk, hcast, ih]

theorem Groups.at?_eq_none {groups : Groups α} {id : ℤ} (h : ∀ n : ℕ, (n : ℤ) ≠ id) :
    groups.at? id = none := by
  have hnone : (groups.find? fun group => (group.1 : ℤ) == id) = none :=
    List.find?_eq_none.mpr fun group _ hgroup => h group.1 (beq_iff_eq.mp hgroup)
  rw [at?, hnone]
  rfl

/-- **Gathering keeps a question local.** -/
theorem Store.IsLocal.collect (h : IsLocal number question) (value : α → β) :
    Groups.IsLocal (fun ids => .collect number value (question ids))
      (fun ids => (question ids).map value) where
  alone := by
    intro ids id hid
    by_cases hnat : ∃ n : ℕ, (n : ℤ) = id
    · obtain ⟨n, rfl⟩ := hnat
      have hcast : (fun a => number a == n) = fun a => (number a : ℤ) == (n : ℤ) := by
        funext a
        rw [Bool.eq_iff_iff, beq_iff_eq, beq_iff_eq, Nat.cast_inj]
      rw [Groups.at?_natCast, Groups.at?_natCast, Groups.lookup_collect, Groups.lookup_collect,
        hcast, h.alone ids n hid, h.alone [(n : ℤ)] n List.mem_cons_self]
    · have hnone : ∀ n : ℕ, (n : ℤ) ≠ id := fun n hn => hnat ⟨n, hn⟩
      rw [Groups.at?_eq_none hnone, Groups.at?_eq_none hnone]
  asked := by
    rintro ids ⟨n, list⟩ hgroup
    obtain ⟨hlist, a, ha, rfl⟩ := Groups.exists_of_mem_collect hgroup
    exact ⟨h.asked ids a ha, hlist⟩
  once := fun ids => Groups.nodup_numbers_collect number value (question ids)
  whole := fun ids => Groups.flatMap_collect number value (question ids)

/-! ### The questions of the homepage -/

namespace Store

variable (s : Store)

theorem mem_isAmong {ids : List ℤ} {id : ℕ} (h : isAmong ids id = true) : (id : ℤ) ∈ ids := by
  simpa [isAmong] using h

theorem isLocal_workspacesWithIds : IsLocal (·.id) s.workspacesWithIds := by
  apply IsLocal.of_rows
  · intro ids n hn
    exact filter_isAmong (fun w : Workspace => w.id) _ hn
  · intro ids w hw
    exact mem_isAmong (List.mem_filter.mp hw).2
  · intro ids
    exact s.workspaces.nodup_rows.filter _

theorem isLocal_membersOf : IsLocal (·.1.workspace) s.membersOf := by
  apply IsLocal.of_rows
  · exact fun ids n hn => s.filter_membersOf hn
  · intro ids x hx
    obtain ⟨m, hm, hfound⟩ := List.mem_filterMap.mp hx
    obtain ⟨u, -, rfl⟩ := Option.map_eq_some_iff.mp hfound
    exact mem_isAmong (List.mem_filter.mp (List.mem_mergeSort.mp hm)).2
  · intro ids
    apply List.Nodup.filterMap
    · intro m m' x hx hx'
      obtain ⟨u, -, rfl⟩ := Option.map_eq_some_iff.mp hx
      obtain ⟨u', -, hsame⟩ := Option.map_eq_some_iff.mp hx'
      exact (congrArg Prod.fst hsame).symm
    · exact (List.mergeSort_perm _ _).nodup_iff.mpr (s.memberships.nodup_rows.filter _)

theorem isLocal_pagesIn : IsLocal (·.application) s.pagesIn := by
  apply IsLocal.of_rows
  · exact fun ids n hn => s.filter_pagesIn hn
  · intro ids p hp
    exact mem_isAmong (List.mem_filter.mp (List.mem_mergeSort.mp hp)).2
  · intro ids
    exact (List.mergeSort_perm _ _).nodup_iff.mpr (s.pages.nodup_rows.filter _)

/-- The applications of workspaces that the homepage lists, if all metadata can be read. -/
def visibleIn (ids : List ℤ) : List Application :=
  (s.applicationsIn ids).filter fun a => holds (GitMetadata.isVisible a.gitMetadata)

theorem isLocal_visibleIn : IsLocal (·.workspace) s.visibleIn := by
  apply IsLocal.of_rows
  · intro ids n hn
    unfold visibleIn applicationsIn
    rw [List.filter_comm, filter_isAmong (fun a : Application => a.workspace) _ hn]
  · intro ids a ha
    exact mem_isAmong (List.mem_filter.mp (List.mem_filter.mp ha).1).2
  · intro ids
    exact (s.applications.nodup_rows.filter _).filter _

end Store

/-- The homepage lists the visible applications, if all metadata are `null` or objects. -/
theorem Applications.exec_visibleIn {site : Site} (hmetadata : ∀ a ∈ site.store.applications.rows,
      a.gitMetadata = .null ∨ ∃ members, a.gitMetadata = .object members) (ids : List ℤ) :
    (visibleIn ids).exec site = (.ok (site.store.visibleIn ids), site.noting
      [.applicationsListed (site.store.visibleIn ids).length
        ((site.store.applicationsIn ids).length - (site.store.visibleIn ids).length)]) := by
  have hvisible : ∀ a ∈ site.store.applicationsIn ids,
      ∃ b, GitMetadata.isVisible a.gitMetadata = .ok b :=
    fun a ha => GitMetadata.isVisible_total (hmetadata a (List.mem_filter.mp ha).1)
  unfold visibleIn
  rw [Service.exec_ask_bind, Service.filterM_settle, filterM_eq_ok hvisible,
    Service.exec_settle_ok_bind, Service.exec_log_bind]
  rfl

end WorkspaceHome
