import WorkspaceHome.Proofs.Operation.Visit

/-!
# Visits in any order

Two visits are independent if they are of different callers or if one of them opens no application:
then their order makes no difference to what is remembered (`Visit.alike_writeTo`). So the visits of
a run can be put into any other order in which every caller opens the same applications in the same
order (`visits_commute`): no update is lost.
-/

namespace WorkspaceHome

open Remembrance

/-- Touching the lists and fixing the viewed version do not disturb each other. -/
theorem Remembrance.viewing_touching (version : String) (id : Json) (workspace : ℕ) (limit : ℤ)
    (now : Timestamp) (d : UserData) :
    (viewing version now).change ((touching id workspace limit now).change d) =
      (touching id workspace limit now).change ((viewing version now).change d) := by
  obtain ⟨hws, has⟩ := viewed_recent d version now
  show viewed ((touching id workspace limit now).change d) version now =
    (touching id workspace limit now).change (viewed d version now)
  unfold touching
  dsimp only
  rw [hws, has]
  split
  · unfold viewed recorded
    dsimp only
    split_ifs <;> rfl
  · rfl

namespace Visit

/-- Whether a caller opens an application. -/
def isRecordOf (c : Caller) (v : Visit) : Bool := v.isRecord && v.caller == c

/-- Two visits of different callers, or of which one opens no application. -/
def Independent (v w : Visit) : Prop :=
  v.caller ≠ w.caller ∨ v.isRecord = false ∨ w.isRecord = false

/-! ### Two visits -/

section swap

variable {site : Site} {s t : Store} {v w : Visit}

theorem writeTo_congr (h : Store.Alike s t) (site : Site) (v : Visit) :
    Store.Alike (v.writeTo site s) (v.writeTo site t) := by
  unfold writeTo
  cases v.revision? site with
  | none => exact h
  | some effect => exact h.revise _ _ _

variable (hmetadata : ∀ a ∈ site.store.applications.rows, a.gitMetadata.IsMetadata)

include hmetadata

/-- The revisions of two visits, of which one opens no application, make the same of a row in either
order. -/
theorem change_change {u u' : User} {r r' : Revision} (hv : v.revision? site = some (u, r))
    (hw : w.revision? site = some (u', r')) (h : v.isRecord = false ∨ w.isRecord = false)
    (d : UserData) : r'.change (r.change d) = r.change (r'.change d) := by
  obtain ⟨-, hrecord, hview⟩ := revision?_spec hmetadata hv
  obtain ⟨-, hrecord', hview'⟩ := revision?_spec hmetadata hw
  cases hkind : v.isRecord with
  | false =>
    obtain rfl := hview hkind
    cases hkind' : w.isRecord with
    | false =>
      obtain rfl := hview' hkind'
      rfl
    | true =>
      obtain ⟨id, workspace, -, rfl⟩ := hrecord' hkind'
      exact (viewing_touching _ _ _ _ _ d).symm
  | true =>
    rw [hkind] at h
    obtain ⟨id, workspace, -, rfl⟩ := hrecord hkind
    obtain rfl := hview' (h.resolve_left Bool.noConfusion)
    exact viewing_touching _ _ _ _ _ d

/-- **Independent visits in either order** lead to stores that are alike. -/
theorem alike_writeTo (h : v.Independent w) (s : Store) :
    Store.Alike (w.writeTo site (v.writeTo site s)) (v.writeTo site (w.writeTo site s)) := by
  unfold writeTo
  cases hv : v.revision? site with
  | none => exact Store.Alike.refl _
  | some effect =>
    cases hw : w.revision? site with
    | none => exact Store.Alike.refl _
    | some effect' =>
      obtain ⟨u, r⟩ := effect
      obtain ⟨u', r'⟩ := effect'
      have hcaller := (revision?_spec hmetadata hv).1
      have hcaller' := (revision?_spec hmetadata hw).1
      exact Store.alike_swap s site.clock
        (h.imp (mt (Caller.eq_of_user? hcaller hcaller')) (change_change hmetadata hv hw))

end swap

/-! ### Runs -/

/-- In an order of visits in which every caller opens the same applications in the same order as in
another one, all that comes before the first visit of the other one is independent of it. -/
theorem exists_independent_before {xs rest : List Visit} {v : Visit} (hperm : xs.Perm (v :: rest))
    (horder : ∀ c, xs.filter (isRecordOf c) = (v :: rest).filter (isRecordOf c)) :
    ∃ before after, xs = before ++ v :: after ∧ ∀ w ∈ before, w.Independent v := by
  cases hkind : v.isRecord with
  | false =>
    obtain ⟨before, after, rfl⟩ := List.append_of_mem (hperm.symm.subset List.mem_cons_self)
    exact ⟨before, after, rfl, fun w _ => Or.inr (Or.inr hkind)⟩
  | true =>
    -- `v` is the first application that its caller opens, in both orders
    have hfirst := horder v.caller
    rw [List.filter_cons_of_pos (by simp [isRecordOf, hkind])] at hfirst
    obtain ⟨before, after, rfl, hbefore, -, -⟩ := List.filter_eq_cons_iff.mp hfirst
    refine ⟨before, after, rfl, fun w hw => ?_⟩
    by_cases hcaller : w.caller = v.caller
    · exact Or.inr (Or.inl (by simpa [isRecordOf, hcaller] using hbefore w hw))
    · exact Or.inl hcaller

/-- Without one and the same visit, two orders still have the same applications opened in the same
order. -/
theorem filter_eq_of_filter_eq {before after rest : List Visit} {v : Visit}
    (hbefore : ∀ w ∈ before, w.Independent v) {c : Caller}
    (h : (before ++ v :: after).filter (isRecordOf c) = (v :: rest).filter (isRecordOf c)) :
    (before ++ after).filter (isRecordOf c) = rest.filter (isRecordOf c) := by
  rw [List.filter_append] at h ⊢
  by_cases hv : isRecordOf c v = true
  · have hnone : before.filter (isRecordOf c) = [] := by
      simp only [isRecordOf, Bool.and_eq_true, beq_iff_eq] at hv
      refine List.filter_eq_nil_iff.mpr fun w hw hrecord => ?_
      simp only [isRecordOf, Bool.and_eq_true, beq_iff_eq] at hrecord
      rcases hbefore w hw with hne | hno | hno
      · exact hne (hrecord.2.trans hv.2.symm)
      · rw [hrecord.1] at hno
        cases hno
      · rw [hv.1] at hno
        cases hno
    rw [List.filter_cons_of_pos hv, List.filter_cons_of_pos hv, hnone] at h
    rw [hnone]
    exact List.tail_eq_of_cons_eq h
  · rwa [List.filter_cons_of_neg hv, List.filter_cons_of_neg hv] at h

section order

variable {site : Site}

theorem writeAll_congr {s t : Store} (h : Store.Alike s t) (site : Site) (visits : List Visit) :
    Store.Alike (writeAll site visits s) (writeAll site visits t) := by
  induction visits generalizing s t with
  | nil => exact h
  | cons v rest ih => exact ih (writeTo_congr h site v)

variable (hmetadata : ∀ a ∈ site.store.applications.rows, a.gitMetadata.IsMetadata)

include hmetadata

/-- A visit can be made before all those that it is independent of. -/
theorem alike_front {before after : List Visit} {v : Visit} (h : ∀ w ∈ before, w.Independent v)
    (s : Store) :
    Store.Alike (writeAll site (before ++ v :: after) s)
      (writeAll site (v :: (before ++ after)) s) := by
  induction before generalizing s with
  | nil => exact Store.Alike.refl _
  | cons w rest ih =>
    obtain ⟨hw, hrest⟩ := List.forall_mem_cons.mp h
    have hmoved := ih hrest (w.writeTo site s)
    exact hmoved.trans (writeAll_congr (alike_writeTo hmetadata hw s) site (rest ++ after))

/-- **Visits in two orders**, in both of which every caller opens the same applications in the same
order, lead to stores that are alike. -/
theorem alike_of_perm {xs ys : List Visit} (hperm : xs.Perm ys)
    (horder : ∀ c, xs.filter (isRecordOf c) = ys.filter (isRecordOf c)) (s : Store) :
    Store.Alike (writeAll site xs s) (writeAll site ys s) := by
  -- by induction on the second order: its first visit can be made first in the other one as well
  induction ys generalizing xs s with
  | nil =>
    rw [hperm.eq_nil]
    exact Store.Alike.refl _
  | cons v rest ih =>
    obtain ⟨before, after, rfl, hbefore⟩ := exists_independent_before hperm horder
    have hrest : (before ++ after).Perm rest := (List.perm_middle.symm.trans hperm).cons_inv
    have hrestOrder : ∀ c, (before ++ after).filter (isRecordOf c) = rest.filter (isRecordOf c) :=
      fun c => filter_eq_of_filter_eq hbefore (horder c)
    exact (alike_front hmetadata hbefore s).trans (ih hrest hrestOrder (v.writeTo site s))

end order

/-- The row of a user keeps its id. -/
theorem id_writeAll (site : Site) (visits : List Visit) {s : Store} {user : ℕ} {d : UserData}
    (hrow : s.dataOf? user = some d) :
    ∃ d', (writeAll site visits s).dataOf? user = some d' ∧ d'.id = d.id := by
  induction visits generalizing s d with
  | nil => exact ⟨d, hrow, rfl⟩
  | cons v rest ih =>
    obtain ⟨d', hrow', hid⟩ : ∃ d', (v.writeTo site s).dataOf? user = some d' ∧ d'.id = d.id := by
      unfold writeTo
      cases v.revision? site with
      | none => exact ⟨d, hrow, rfl⟩
      | some effect =>
        obtain ⟨u, r⟩ := effect
        by_cases hu : user = u.id
        · subst hu
          refine ⟨_, Store.dataOf?_revise _ _ _ _, ?_⟩
          rw [Store.remembered_of_dataOf? hrow]
          exact r.id_eq d
        · refine ⟨d, ?_, rfl⟩
          rw [← hrow]
          exact (Store.sameBut_revise _ _ _ _).dataOf?_eq hu
    obtain ⟨d'', hrow'', hid'⟩ := ih hrow'
    exact ⟨d'', hrow'', hid'.trans hid⟩

end Visit

open Visit

/-- **Visits commute**: in a regular store, two visits of different callers, or of which at most one
opens an application, can be made in either order, and all visits of a run in any order in which
every caller opens the same applications in the same order. What is remembered of every user is the
same, with its dates; no more than the ids of new rows is exchanged, while a row that was there
keeps its id. -/
theorem visits_commute (site : Site) (h : site.store.Regular) :
    (∀ v w : Visit, v.Independent w →
      Store.Alike (storeAfter [v, w] site) (storeAfter [w, v] site)) ∧
    (∀ xs ys : List Visit, xs.Perm ys →
      (∀ c, xs.filter (isRecordOf c) = ys.filter (isRecordOf c)) →
        Store.Alike (storeAfter xs site) (storeAfter ys site)) ∧
    ∀ (xs : List Visit) user d, site.store.dataOf? user = some d →
      ∃ d', (storeAfter xs site).dataOf? user = some d' ∧ d'.id = d.id := by
  refine ⟨fun v w hvw => ?_, fun xs ys hperm horder => ?_, fun xs user d hrow => ?_⟩
  · rw [storeAfter_eq _ _ h, storeAfter_eq _ _ h]
    exact alike_writeTo h.metadata hvw site.store
  · rw [storeAfter_eq _ _ h, storeAfter_eq _ _ h]
    exact alike_of_perm h.metadata hperm horder site.store
  · rw [storeAfter_eq _ _ h]
    exact id_writeAll site xs hrow

/-- The small store with a second user, of whom nothing is remembered. -/
def Store.sampleOfTwo : Store :=
  { Store.sample with users := Store.sample.users.insert { id := 2, username := "ben" } rfl }

/-- Opening an application and loading the homepage in both orders, and a run of two users in two
orders. -/
theorem visits_commute_sample :
    Store.Alike
        (storeAfter [.record (.named "ben") (.int 1), .homepage (.named "ben") none]
          { store := Store.sampleOfTwo })
        (storeAfter [.homepage (.named "ben") none, .record (.named "ben") (.int 1)]
          { store := Store.sampleOfTwo }) ∧
      Store.Alike
        (storeAfter [.record (.named "ada") (.int 1), .record (.named "ben") (.int 2),
          .view (.named "ben")] { store := Store.sampleOfTwo })
        (storeAfter [.record (.named "ben") (.int 2), .record (.named "ada") (.int 1),
          .view (.named "ben")] { store := Store.sampleOfTwo }) := by
  have hregular : Store.sampleOfTwo.Regular :=
    ⟨Store.sample_regular.recent, Store.sample_regular.metadata, Store.sample_regular.pages,
      Store.sample_regular.publishedPages⟩
  obtain ⟨hpair, hrun, -⟩ := visits_commute { store := Store.sampleOfTwo } hregular
  refine ⟨hpair _ _ (Or.inr (Or.inr rfl)), hrun _ _ (List.Perm.swap _ _ _) fun c => ?_⟩
  by_cases hada : c = .named "ada"
  · subst hada
    rfl
  · have hno : isRecordOf c (.record (.named "ada") (.int 1)) = false := by
      simp [isRecordOf, isRecord, caller, Ne.symm hada]
    simp only [List.filter, hno]

end WorkspaceHome
