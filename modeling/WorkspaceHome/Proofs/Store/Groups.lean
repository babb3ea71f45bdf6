import Mathlib.Data.List.Induction
import WorkspaceHome.Homepage.PageSlug
import WorkspaceHome.Proofs.Sorting

/-!
# Gathering rows

Items that are gathered one after another under their numbers stand under each number as they stood
among all items (`Groups.lookup_collect`), each number once and each item once. So a question about
several rows can be asked for each row alone: members by workspace (`get_rolesByWorkspace`) and
pages by application (`get_pagesByApplication`), whatever the other ids are.
-/

namespace WorkspaceHome

namespace Groups

variable {α β : Type}

/-! ### Adding one value -/

theorem lookup_cons (k m : ℕ) (list : List α) (rest : Groups α) :
    List.lookup m ((k, list) :: rest) = if m = k then some list else rest.lookup m := by
  rw [List.lookup_cons]
  by_cases h : m = k
  · rw [if_pos h, beq_iff_eq.mpr h]
  · rw [if_neg h, beq_eq_false_iff_ne.mpr h]

theorem lookup_add (groups : Groups α) (n m : ℕ) (a : α) :
    (groups.add n a).lookup m = if m = n then some (groups.get n ++ [a]) else groups.lookup m := by
  induction groups with
  | nil => exact lookup_cons n m [a] []
  | cons group rest ih =>
    obtain ⟨k, list⟩ := group
    unfold get at ih ⊢
    rw [add]
    by_cases hk : k = n
    · subst hk
      rw [if_pos rfl, lookup_cons]
      by_cases hm : m = k <;> simp [hm, lookup_cons]
    · rw [if_neg hk, lookup_cons, ih]
      by_cases hm : m = k
      · subst hm
        simp [hk]
      · by_cases hn : m = n <;> simp [lookup_cons, hm, hn, Ne.symm hk]

theorem numbers_add (groups : Groups α) (n : ℕ) (a : α) :
    (groups.add n a).map Prod.fst =
      if n ∈ groups.map Prod.fst then groups.map Prod.fst else groups.map Prod.fst ++ [n] := by
  induction groups with
  | nil => rfl
  | cons group rest ih =>
    obtain ⟨k, list⟩ := group
    rw [add]
    by_cases hk : k = n
    · simp [hk]
    · rw [if_neg hk, List.map_cons, List.map_cons, ih]
      by_cases hmem : n ∈ rest.map Prod.fst
      · rw [if_pos hmem, if_pos (List.mem_cons_of_mem _ hmem)]
      · rw [if_neg hmem, if_neg fun h => hmem (List.mem_of_ne_of_mem (Ne.symm hk) h)]
        rfl

theorem flatMap_add (groups : Groups α) (n : ℕ) (a : α) :
    ((groups.add n a).flatMap Prod.snd).Perm (groups.flatMap Prod.snd ++ [a]) := by
  induction groups with
  | nil => exact .refl _
  | cons group rest ih =>
    obtain ⟨k, list⟩ := group
    rw [add]
    by_cases hk : k = n
    · rw [if_pos hk, List.flatMap_cons, List.flatMap_cons, List.append_assoc, List.append_assoc]
      exact List.perm_append_comm.append_left list
    · rw [if_neg hk, List.flatMap_cons, List.flatMap_cons, List.append_assoc]
      exact ih.append_left list

/-! ### Gathering all items -/

section collect

variable (number : β → ℕ) (value : β → α) (items : List β)

/-- The last item is added to what the items before it give. -/
theorem collect_concat (b : β) :
    collect number value (items ++ [b]) =
      (collect number value items).add (number b) (value b) := by
  unfold collect
  rw [List.foldl_concat]

/-- **What is gathered under a number**: the values of the items of the number, in their order, and
nothing at all if there are none. -/
theorem lookup_collect (n : ℕ) :
    (collect number value items).lookup n =
      if (items.filter fun b => number b == n).isEmpty then none
      else some ((items.filter fun b => number b == n).map value) := by
  induction items using List.reverseRecOn with
  | nil => rfl
  | append_singleton items b ih =>
    rw [collect_concat, lookup_add, List.filter_append]
    by_cases hn : n = number b
    · subst hn
      rw [if_pos rfl, get, ih]
      by_cases hnone : (items.filter fun c => number c == number b).isEmpty = true
      · simp [List.isEmpty_iff.mp hnone]
      · rw [if_neg hnone]
        simp
    · rw [if_neg hn, ih]
      simp [Ne.symm hn]

theorem get_collect (n : ℕ) :
    (collect number value items).get n = (items.filter fun b => number b == n).map value := by
  rw [get, lookup_collect]
  split_ifs with hnone
  · rw [List.isEmpty_iff.mp hnone]
    rfl
  · rfl

theorem nodup_numbers_collect : ((collect number value items).map Prod.fst).Nodup := by
  induction items using List.reverseRecOn with
  | nil => exact List.nodup_nil
  | append_singleton items b ih =>
    rw [collect_concat, numbers_add]
    split_ifs with hmem
    · exact ih
    · exact List.Nodup.append ih (List.nodup_singleton _) (List.disjoint_singleton.mpr hmem)

theorem flatMap_collect :
    ((collect number value items).flatMap Prod.snd).Perm (items.map value) := by
  induction items using List.reverseRecOn with
  | nil => exact .refl _
  | append_singleton items b ih =>
    rw [collect_concat, List.map_append]
    exact (flatMap_add _ _ _).trans (ih.append_right _)

variable {number value items}

/-- Under a number of its own each group stands where it is looked up. -/
theorem lookup_of_mem_collect {n : ℕ} {list : List α} (h : (n, list) ∈ collect number value items) :
    (collect number value items).lookup n = some list := by
  have hnodup := nodup_numbers_collect number value items
  obtain ⟨before, after, hgroups⟩ := List.append_of_mem h
  rw [List.lookup_eq_some_iff]
  refine ⟨before, after, hgroups, fun group hgroup => ?_⟩
  rw [hgroups, List.map_append, List.map_cons] at hnodup
  have hne : group.1 ≠ n :=
    (List.nodup_append.mp hnodup).2.2 _ (List.mem_map_of_mem hgroup) _ List.mem_cons_self
  simpa using hne.symm

/-- A group is there only for items. -/
theorem exists_of_mem_collect {n : ℕ} {list : List α} (h : (n, list) ∈ collect number value items) :
    list ≠ [] ∧ ∃ b ∈ items, number b = n := by
  have hlookup := lookup_of_mem_collect h
  rw [lookup_collect] at hlookup
  split_ifs at hlookup with hnone
  obtain ⟨b, hb⟩ := List.exists_mem_of_ne_nil _ (mt List.isEmpty_iff.mpr hnone)
  obtain ⟨hb, hn⟩ := List.mem_filter.mp hb
  refine ⟨?_, b, hb, by simpa using hn⟩
  rintro rfl
  exact hnone (List.isEmpty_iff.mpr (List.map_eq_nil_iff.mp (Option.some.inj hlookup)))

end collect

end Groups

/-! ### Rows of one id -/

/-- The members of a workspace in the order in which they joined. -/
def Store.rolesIn (s : Store) (workspace : ℕ) : List UserRole :=
  (s.memberships.rows.filter fun m => m.workspace == workspace).filterMap fun m =>
    (s.users.find? m.user).map fun u => ⟨u.username, u.fullName, m.role⟩

/-- The pages of an application. -/
def Store.pagesOf (s : Store) (application : ℕ) : List Page :=
  s.pages.rows.filter fun p => p.application == application

/-- An application with the slugs of its default pages in a store, and what there is to note. -/
def ListedApplication.withSlugs (s : Store) (a : ListedApplication) :
    ListedApplication × List Event :=
  a.withSlugsAmong (s.pagesOf a.row)

namespace Store

variable (s : Store) {ids : List ℤ} {id : ℕ}

theorem filter_isAmong {α : Type} (number : α → ℕ) (rows : List α) (h : (id : ℤ) ∈ ids) :
    ((rows.filter fun r => isAmong ids (number r)).filter fun r => number r == id) =
      rows.filter fun r => number r == id := by
  rw [List.filter_filter]
  apply List.filter_congr
  intro r _
  by_cases hr : number r = id
  · simp [isAmong, hr, h]
  · simp [hr]

theorem filter_membersOf (h : (id : ℤ) ∈ ids) :
    ((s.membersOf ids).filter fun x => x.1.workspace == id) =
      (s.memberships.rows.filter fun m => m.workspace == id).filterMap fun m =>
        (s.users.find? m.user).map (m, ·) := by
  rw [← filter_isAmong (·.workspace) s.memberships.rows h,
    ← Sorting.filter_sorted (·.workspace) (s.memberships.rows.filter _) id]
  unfold membersOf
  rw [List.filter_filterMap, List.filterMap_filter]
  apply List.filterMap_congr
  intro m _
  cases s.users.find? m.user with
  | none => simp
  | some u => simp [Option.filter]

theorem filter_pagesIn (h : (id : ℤ) ∈ ids) :
    ((s.pagesIn ids).filter fun p => p.application == id) = s.pagesOf id := by
  unfold pagesIn pagesOf
  rw [Sorting.filter_sorted fun p : Page => p.application,
    filter_isAmong (fun p : Page => p.application) _ h]

/-- **The roles of a workspace** are its own, whatever else they are asked for with. -/
theorem get_rolesByWorkspace (h : (id : ℤ) ∈ ids) :
    (s.rolesByWorkspace ids).get id = s.rolesIn id := by
  unfold rolesByWorkspace rolesIn
  rw [Groups.get_collect, filter_membersOf s h, List.map_filterMap]
  apply List.filterMap_congr
  intro m _
  cases s.users.find? m.user <;> rfl

/-- **The pages of an application** are its own, whatever else they are asked for with. -/
theorem get_pagesByApplication (h : (id : ℤ) ∈ ids) :
    (s.pagesByApplication ids).get id = s.pagesOf id := by
  unfold pagesByApplication
  rw [Groups.get_collect, filter_pagesIn s h, List.map_id']

end Store

end WorkspaceHome
