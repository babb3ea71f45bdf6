import WorkspaceHome.Proofs.Store.Revision

/-!
# Stores that differ in the ids of rows alone

Two stores are alike if they differ at most in which of the ids has been given to which row of what
is remembered (`Store.Alike`). A revision leads from stores that are alike to such stores
(`Alike.revise`). Revisions of two users can be made in either order, and so can two revisions of
one user that make the same of a row in either order: the stores are then alike (`alike_swap`).
-/

namespace WorkspaceHome

theorem Revision.content_change (r : Revision) (d : UserData) :
    (r.change d).content = r.change d.content := (r.renumber d 0).symm

/-- What a revision makes of a row is settled by the content of the row. -/
theorem Revision.content_congr (r : Revision) {d d' : UserData} (h : d.content = d'.content) :
    (r.change d).content = (r.change d').content := by
  rw [r.content_change, r.content_change, h]

namespace Store

/-- Two stores differ at most in what is remembered. -/
def Beside (s t : Store) : Prop := t = { s with userData := t.userData }

/-- Two stores are the same but for which rows of what is remembered have which of the ids. -/
structure Alike (s t : Store) : Prop where
  beside : Beside s t
  content : ∀ user,
    (t.dataOf? user).map UserData.content = (s.dataOf? user).map UserData.content
  ids : t.userData.rows.map UserData.id = s.userData.rows.map UserData.id
  last : t.userData.last = s.userData.last

variable {s t r : Store} {user other : ℕ} {now : Timestamp}

namespace Beside

theorem refl (s : Store) : Beside s s := rfl

theorem symm (h : Beside s t) : Beside t s := by
  unfold Beside at *
  rw [h]

theorem trans (h : Beside s t) (h' : Beside t r) : Beside s r :=
  calc r = { t with userData := r.userData } := h'
    _ = { s with userData := r.userData } :=
      congrArg (fun q : Store => { q with userData := r.userData }) h

theorem users (h : Beside s t) : t.users = s.users := by
  unfold Beside at h
  rw [h]

theorem applications (h : Beside s t) : t.applications = s.applications := by
  unfold Beside at h
  rw [h]

end Beside

theorem beside_revise (s : Store) (user : ℕ) (now : Timestamp) (r : Revision) :
    Beside s (s.revise user now r) := by
  unfold Beside revise
  cases s.dataOf? user <;> rfl

namespace Alike

theorem refl (s : Store) : Alike s s := ⟨Beside.refl s, fun _ => rfl, rfl, rfl⟩

theorem symm (h : Alike s t) : Alike t s :=
  ⟨h.beside.symm, fun user => (h.content user).symm, h.ids.symm, h.last.symm⟩

theorem trans (h : Alike s t) (h' : Alike t r) : Alike s r :=
  ⟨h.beside.trans h'.beside, fun user => (h'.content user).trans (h.content user),
    h'.ids.trans h.ids, h'.last.trans h.last⟩

theorem isSome_dataOf? (h : Alike s t) (user : ℕ) :
    (t.dataOf? user).isSome = (s.dataOf? user).isSome := by
  have hsome := congrArg Option.isSome (h.content user)
  rwa [Option.isSome_map, Option.isSome_map] at hsome

theorem content_remembered (h : Alike s t) (user : ℕ) (now : Timestamp) :
    (t.remembered user now).content = (s.remembered user now).content := by
  have hcontent := h.content user
  unfold remembered
  cases hs : s.dataOf? user <;> cases ht : t.dataOf? user <;> rw [hs, ht] at hcontent
  · rfl
  · cases hcontent
  · cases hcontent
  · exact Option.some.inj hcontent

end Alike

/-! ### The ids after a revision -/

/-- A revision gives the next id if the user has no row. -/
theorem ids_revise (s : Store) (user : ℕ) (now : Timestamp) (r : Revision) :
    (s.revise user now r).userData.rows.map UserData.id =
        s.userData.rows.map UserData.id ++
          (if (s.dataOf? user).isSome then [] else [s.userData.next]) ∧
      (s.revise user now r).userData.last =
        if (s.dataOf? user).isSome then s.userData.last else s.userData.next := by
  cases hrow : s.dataOf? user with
  | none =>
    rw [revise_of_none hrow]
    refine ⟨?_, rfl⟩
    rw [Table.rows_insert, List.map_append, List.map_singleton]
    exact congrArg (fun id => s.userData.rows.map UserData.id ++ [id]) (id_revised r _ user now)
  | some d =>
    rw [revise_of_some hrow]
    refine ⟨?_, rfl⟩
    rw [Table.rows_modify, List.map_map, Option.isSome_some, if_pos rfl, List.append_nil]
    apply List.map_congr_left
    intro d' _
    show (if Row.id d' = d.id then r.change d' else d').id = d'.id
    split_ifs
    · exact r.id_eq d'
    · rfl

/-! ### Revisions of stores that are alike -/

theorem Alike.revise (h : Alike s t) (user : ℕ) (now : Timestamp) (r : Revision) :
    Alike (s.revise user now r) (t.revise user now r) := by
  have hs := sameBut_revise s user now r
  have ht := sameBut_revise t user now r
  obtain ⟨hsids, hslast⟩ := ids_revise s user now r
  obtain ⟨htids, htlast⟩ := ids_revise t user now r
  have hnext : t.userData.next = s.userData.next := congrArg (· + 1) h.last
  refine ⟨?_, fun x => ?_, ?_, ?_⟩
  · exact ((beside_revise s user now r).symm.trans h.beside).trans (beside_revise t user now r)
  · by_cases hx : x = user
    · subst hx
      rw [dataOf?_revise, dataOf?_revise, Option.map_some, Option.map_some,
        r.content_congr (h.content_remembered x now)]
    · rw [ht.dataOf?_eq hx, hs.dataOf?_eq hx, h.content x]
  · rw [htids, hsids, h.ids, h.isSome_dataOf?, hnext]
  · rw [htlast, hslast, h.isSome_dataOf?, hnext, h.last]

/-- Revisions of two users, in one order. -/
theorem dataOf?_revise_revise (hne : user ≠ other) (r r' : Revision) (x : ℕ) :
    (((s.revise user now r).revise other now r').dataOf? x).map UserData.content =
      if x = user then some (r.change (s.remembered user now)).content
      else if x = other then some (r'.change (s.remembered other now)).content
      else (s.dataOf? x).map UserData.content := by
  have hother := (sameBut_revise s user now r).dataOf?_eq hne.symm
  split_ifs with hx hx'
  · rw [hx, (sameBut_revise _ other now r').dataOf?_eq hne, dataOf?_revise, Option.map_some]
  · -- the id of a fresh row depends on whether the other row has been made
    have hcontent : ((s.revise user now r).remembered other now).content =
        (s.remembered other now).content := by
      unfold remembered
      rw [hother]
      cases s.dataOf? other <;> rfl
    rw [hx', dataOf?_revise, Option.map_some, r'.content_congr hcontent]
  · rw [(sameBut_revise _ other now r').dataOf?_eq hx',
      (sameBut_revise s user now r).dataOf?_eq hx]

/-- **Two revisions in either order** lead to stores that are alike, if they are of different users
or make the same of a row in either order. -/
theorem alike_swap (s : Store) (now : Timestamp) {r r' : Revision}
    (h : user ≠ other ∨ ∀ d, r'.change (r.change d) = r.change (r'.change d)) :
    Alike ((s.revise user now r).revise other now r')
      ((s.revise other now r').revise user now r) := by
  by_cases hne : user = other
  -- of one user the two changes commute, so the stores are even the same
  · subst hne
    have hcomm := h.resolve_left (fun hne => hne rfl)
    have hswap : s.revise user now (r'.andThen r) = s.revise user now (r.andThen r') :=
      revise_congr (hcomm _).symm
    rw [revise_revise, revise_revise, hswap]
    exact Alike.refl _
  · obtain ⟨hids, hlast⟩ := ids_revise s user now r
    obtain ⟨hids', hlast'⟩ := ids_revise s other now r'
    obtain ⟨hidsTwo, hlastTwo⟩ := ids_revise (s.revise user now r) other now r'
    obtain ⟨hidsTwo', hlastTwo'⟩ := ids_revise (s.revise other now r') user now r
    rw [(sameBut_revise s user now r).dataOf?_eq (Ne.symm hne)] at hidsTwo hlastTwo
    rw [(sameBut_revise s other now r').dataOf?_eq hne] at hidsTwo' hlastTwo'
    -- of two users each row is made from what is there of its user, but the ids may be swapped
    refine ⟨?_, fun x => ?_, ?_, ?_⟩
    · have hone := (beside_revise s user now r).trans (beside_revise _ other now r')
      exact hone.symm.trans ((beside_revise s other now r').trans (beside_revise _ user now r))
    · rw [dataOf?_revise_revise hne, dataOf?_revise_revise (Ne.symm hne)]
      split_ifs with hxo hxu
      · exact absurd (hxu.symm.trans hxo) hne
      all_goals rfl
    -- both orders give the same ids, each once
    · rw [hidsTwo', hidsTwo, hids', hids]
      unfold Table.next
      rw [hlast', hlast]
      cases (s.dataOf? user).isSome <;> cases (s.dataOf? other).isSome <;> simp [Table.next]
    · rw [hlastTwo', hlastTwo]
      unfold Table.next
      rw [hlast', hlast]
      cases (s.dataOf? user).isSome <;> cases (s.dataOf? other).isSome <;> simp [Table.next]

end Store

end WorkspaceHome
