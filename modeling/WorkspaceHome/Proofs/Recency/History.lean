import Mathlib.Data.List.Induction
import WorkspaceHome.Proofs.Recency.Stored

/-!
# A list that is touched again and again

Touching cuts a list to the limit every time. What is left after any number of touches is what a
single cut of the whole history leaves (`touchAll_eq`): the ids that were touched, the newest first,
and then those that were there before, each once, up to the limit. This holds for every limit and
for every list to begin with, and needs nothing of the ids beyond that no touch failed.
-/

namespace WorkspaceHome.Recency

/-- Touches a stored list with ids, one after another. -/
def touchAll (limit : ℤ) (stored : Json) (ids : List Json) : Except Failure Json :=
  ids.foldlM (fun stored id => Json.list <$> touchStored stored id limit) stored

variable {limit : ℤ} {stored : Json}

theorem touchAll_append (xs ys : List Json) :
    touchAll limit stored (xs ++ ys) =
      touchAll limit stored xs >>= fun stored => touchAll limit stored ys :=
  List.foldlM_append

theorem touchAll_singleton (id : Json) :
    touchAll limit stored [id] = Json.list <$> touchStored stored id limit := by
  unfold touchAll
  rw [List.foldlM_cons]
  cases touchStored stored id limit <;> rfl

/-- What a history leaves: each id once, the newest first, up to the limit. -/
def kept (limit : ℤ) (history : List Json) : Json := .list ((distinct history).take limit.toNat)

theorem scalars_of_touchStored_list {ids kept : List Json} {v : Json}
    (h : touchStored (.list ids) v limit = .ok kept) : Scalars ids := by
  obtain ⟨held, hheld, -⟩ := touchStored_eq_ok_iff.mp h
  have hscalars := Json.scalars_of_idsIfAny hheld
  cases ids with
  | nil => exact fun w hw => absurd hw List.not_mem_nil
  | cons w rest =>
    replace hheld : (Json.list (w :: rest)).ids = .ok held := hheld
    obtain ⟨items, hitems, hall⟩ := bind_eq_ok_iff.mp hheld
    obtain rfl : w :: rest = items := Except.ok.inj hitems
    split_ifs at hall with hscalar
    exact List.all_eq_true.mp hscalar

/-- A list holds scalars if it does so after its first id, and what is kept of it does. -/
theorem scalars_of_take_distinct {history : List Json} {n : ℕ} (hn : 0 < n)
    (hkept : Scalars ((distinct history).take n)) (htail : Scalars history.tail) :
    Scalars history := by
  cases history with
  | nil => exact htail
  | cons newest rest =>
    obtain ⟨k, rfl⟩ := Nat.exists_eq_add_one_of_ne_zero hn.ne'
    rw [distinct, List.take_succ_cons] at hkept
    exact htail.cons hkept.head

/-- **Cutting every time is cutting once.** -/
theorem touchAll_eq {ids : List Json} (hids : Scalars ids) {touched : List Json} {final : Json}
    (hne : touched ≠ []) (h : touchAll limit (.list ids) touched = .ok final) :
    final = kept limit (touched.reverse ++ ids) := by
  -- only the newest id of the history need not be a scalar: every other one was read again, unless
  -- the limit keeps nothing at all
  suffices hboth : final = kept limit (touched.reverse ++ ids) ∧
      (0 < limit.toNat → Scalars (touched.reverse ++ ids).tail) from hboth.1
  induction touched using List.reverseRecOn generalizing final with
  | nil => exact absurd rfl hne
  | append_singleton earlier id ih =>
    rw [touchAll_append] at h
    obtain ⟨before, hbefore, h⟩ := bind_eq_ok_iff.mp h
    rw [touchAll_singleton] at h
    rw [List.reverse_append, List.reverse_singleton, List.singleton_append, List.cons_append,
      List.tail_cons]
    by_cases hearlier : earlier = []
    · subst hearlier
      obtain rfl : Json.list ids = before := Except.ok.inj hbefore
      rw [touchStored_list hids] at h
      obtain rfl := (Except.ok.inj h).symm
      refine ⟨?_, fun _ => hids⟩
      rw [kept, touch_eq hids]
      rfl
    · obtain ⟨rfl, htail⟩ := ih hearlier hbefore
      cases htouch : touchStored (kept limit (earlier.reverse ++ ids)) id limit with
      | error e =>
        rw [htouch] at h
        cases h
      | ok newer =>
        rw [htouch] at h
        obtain rfl := (Except.ok.inj h).symm
        have hkept := scalars_of_touchStored_list htouch
        rw [kept, touchStored_list hkept] at htouch
        obtain rfl := (Except.ok.inj htouch).symm
        by_cases hlimit : 0 < limit.toNat
        · have hscalars : Scalars (earlier.reverse ++ ids) :=
            scalars_of_take_distinct hlimit hkept (htail hlimit)
          refine ⟨?_, fun _ => hscalars⟩
          rw [touch_take hscalars, touch_eq hscalars, kept]
        · have hzero : limit.toNat = 0 := by omega
          refine ⟨?_, fun hpos => absurd hpos hlimit⟩
          rw [kept, touch, hzero]
          rfl

end WorkspaceHome.Recency
