import WorkspaceHome.Proofs.Recency.Distinct
import WorkspaceHome.Proofs.Sorting

/-!
# The order of a recency list

The first and the last place of an id in a list are said by positions (`IsFirstPlace`,
`IsLastPlace`), apart from the functions that find them. `sortBy` puts an item before another if the
last place of its id comes before that of the other one, and items of one place in the order in
which they were given (`pairwise_sortBy`); items whose ids are not in the list come last.

Moving an id to the front of a list without equal ids moves the items with this id to the front of
the sorted items and leaves all others in their order (`sortBy_front`).
-/

namespace WorkspaceHome.Recency

/-! ### Places -/

/-- The first place at which a list has an id. -/
def IsFirstPlace (v : Json) (ids : List Json) (n : ℕ) : Prop :=
  (∃ w, ids[n]? = some w ∧ w.same v = true) ∧
    ∀ m w, m < n → ids[m]? = some w → w.same v = false

/-- The last place at which a list has an id. -/
def IsLastPlace (v : Json) (ids : List Json) (n : ℕ) : Prop :=
  (∃ w, ids[n]? = some w ∧ w.same v = true) ∧
    ∀ m w, n < m → ids[m]? = some w → w.same v = false

theorem IsLastPlace.unique {v : Json} {ids : List Json} {m n : ℕ} (hm : IsLastPlace v ids m)
    (hn : IsLastPlace v ids n) : m = n := by
  obtain ⟨⟨x, hx, hxv⟩, hxlast⟩ := hm
  obtain ⟨⟨y, hy, hyv⟩, hylast⟩ := hn
  by_contra hne
  rcases Nat.lt_or_gt_of_ne hne with h | h
  · rw [hxlast n y h hy] at hyv
    cases hyv
  · rw [hylast m x h hx] at hxv
    cases hxv

theorem IsLastPlace.lt_length {v : Json} {ids : List Json} {n : ℕ} (h : IsLastPlace v ids n) :
    n < ids.length := by
  obtain ⟨⟨w, hw, -⟩, -⟩ := h
  exact (List.getElem?_eq_some_iff.mp hw).1

theorem lastPlace?_eq_none_iff {v : Json} {ids : List Json} :
    lastPlace? v ids = none ↔ ∀ w ∈ ids, w.same v = false := by
  induction ids with
  | nil => simp [lastPlace?]
  | cons w rest ih =>
    rw [lastPlace?, List.forall_mem_cons, ← ih]
    cases lastPlace? v rest <;> simp

theorem isLastPlace_of_lastPlace? {v : Json} {ids : List Json} {n : ℕ}
    (h : lastPlace? v ids = some n) : IsLastPlace v ids n := by
  induction ids generalizing n with
  | nil => simp [lastPlace?] at h
  | cons w rest ih =>
    -- a place in the rest is later than the head, so the head counts only if there is none
    rw [lastPlace?] at h
    cases hrest : lastPlace? v rest with
    | some k =>
      rw [hrest] at h
      obtain rfl : k + 1 = n := Option.some.inj h
      obtain ⟨⟨x, hx, hxv⟩, hlast⟩ := ih hrest
      refine ⟨⟨x, by simpa using hx, hxv⟩, ?_⟩
      intro m u hm hu
      obtain ⟨m, rfl⟩ : ∃ m', m = m' + 1 := ⟨m - 1, by omega⟩
      exact hlast m u (by omega) (by simpa using hu)
    | none =>
      rw [hrest] at h
      split_ifs at h with hw
      obtain rfl : 0 = n := Option.some.inj h
      refine ⟨⟨w, rfl, hw⟩, ?_⟩
      intro m u hm hu
      obtain ⟨m, rfl⟩ : ∃ m', m = m' + 1 := ⟨m - 1, by omega⟩
      rw [List.getElem?_cons_succ] at hu
      exact lastPlace?_eq_none_iff.mp hrest u (List.mem_of_getElem? hu)

theorem lastPlace?_eq_some_iff {v : Json} {ids : List Json} {n : ℕ} :
    lastPlace? v ids = some n ↔ IsLastPlace v ids n := by
  constructor
  · exact isLastPlace_of_lastPlace?
  · intro h
    cases hplace : lastPlace? v ids with
    | some k => rw [h.unique (isLastPlace_of_lastPlace? hplace)]
    | none =>
      obtain ⟨⟨w, hw, hwv⟩, -⟩ := h
      rw [lastPlace?_eq_none_iff.mp hplace w (List.mem_of_getElem? hw)] at hwv
      cases hwv

/-! ### The order of first places -/

/-- A list has no id that is equal to a given one. -/
def Absent (v : Json) (ids : List Json) : Prop := ∀ w ∈ ids, w.same v = false

/-- An id comes before another one by its first place: that place is before every first place of the
other. -/
def FirstBefore (ids : List Json) (v w : Json) : Prop :=
  ∃ m, IsFirstPlace v ids m ∧ ∀ n, IsFirstPlace w ids n → m < n

theorem IsFirstPlace.unique {v : Json} {ids : List Json} {m n : ℕ} (hm : IsFirstPlace v ids m)
    (hn : IsFirstPlace v ids n) : m = n := by
  obtain ⟨⟨x, hx, hxv⟩, hxfirst⟩ := hm
  obtain ⟨⟨y, hy, hyv⟩, hyfirst⟩ := hn
  by_contra hne
  rcases Nat.lt_or_gt_of_ne hne with h | h
  · rw [hyfirst m x h hx] at hxv
    cases hxv
  · rw [hxfirst n y h hy] at hyv
    cases hyv

theorem IsFirstPlace.lt_length {v : Json} {ids : List Json} {n : ℕ} (h : IsFirstPlace v ids n) :
    n < ids.length := by
  obtain ⟨⟨w, hw, -⟩, -⟩ := h
  exact (List.getElem?_eq_some_iff.mp hw).1

theorem exists_isFirstPlace {v : Json} {ids : List Json} {n : ℕ} {w : Json}
    (hw : ids[n]? = some w) (h : w.same v = true) : ∃ m ≤ n, IsFirstPlace v ids m := by
  -- an equal id at an earlier place takes over, until there is none
  induction n using Nat.strong_induction_on generalizing w with
  | _ n ih =>
    by_cases hearlier : ∃ m u, m < n ∧ ids[m]? = some u ∧ u.same v = true
    · obtain ⟨m, u, hm, hu, huv⟩ := hearlier
      obtain ⟨k, hk, hfirst⟩ := ih m hm hu huv
      exact ⟨k, by omega, hfirst⟩
    · refine ⟨n, le_rfl, ⟨w, hw, h⟩, ?_⟩
      intro m u hm hu
      by_contra huv
      exact hearlier ⟨m, u, hm, hu, by simpa using huv⟩

theorem FirstBefore.irrefl {ids : List Json} {v : Json} : ¬ FirstBefore ids v v := by
  rintro ⟨m, hm, hbefore⟩
  exact absurd (hbefore m hm) (Nat.lt_irrefl m)

theorem isFirstPlace_cons {u v : Json} {rest : List Json} {n : ℕ} (hu : u.same v = false) :
    IsFirstPlace v (u :: rest) n ↔ ∃ k, n = k + 1 ∧ IsFirstPlace v rest k := by
  constructor
  · rintro ⟨⟨w, hw, hwv⟩, hfirst⟩
    cases n with
    | zero =>
      obtain rfl : u = w := by simpa using hw
      rw [hu] at hwv
      cases hwv
    | succ k =>
      refine ⟨k, rfl, ⟨w, by simpa using hw, hwv⟩, ?_⟩
      exact fun m x hm hx => hfirst (m + 1) x (by omega) (by simpa using hx)
  · rintro ⟨k, rfl, ⟨w, hw, hwv⟩, hfirst⟩
    refine ⟨⟨w, by simpa using hw, hwv⟩, ?_⟩
    intro m x hm hx
    cases m with
    | zero =>
      obtain rfl : u = x := by simpa using hx
      exact hu
    | succ m => exact hfirst m x (by omega) (by simpa using hx)

/-- **The order of `distinct` ids** is the one of their first places. -/
theorem pairwise_firstBefore_distinct {ids : List Json} (h : Scalars ids) :
    (distinct ids).Pairwise fun i j => ∀ v w : Json, v.isScalarValue = true →
      w.isScalarValue = true → v.same i = true → w.same j = true → FirstBefore ids v w := by
  induction ids with
  | nil => exact List.Pairwise.nil
  | cons u rest ih =>
    -- an id that the filter lets through has no place at the head, and neither has an equal one
    have hpassed : ∀ i ∈ (distinct rest).filter fun w => !u.same w, ∀ v : Json,
        v.same i = true → u.same v = false := by
      intro i hi v hvi
      obtain ⟨hi, hui⟩ := List.mem_filter.mp hi
      have hi := h.tail.distinct i hi
      have hv := Json.isScalarValue_of_same hi hvi
      rw [Json.same_comm (Or.inl h.head), Json.same_congr_left u hi hvi,
        Json.same_comm (Or.inl hi)]
      simpa using hui
    rw [distinct]
    -- the head comes first of all; the others keep their order, one place further on
    refine List.Pairwise.cons ?_ (((ih h.tail).filter _).imp_of_mem ?_)
    · intro j hj v w hv _ hvu hwj
      refine ⟨0, ⟨⟨u, rfl, by rwa [Json.same_comm (Or.inr hv)]⟩, ?_⟩, ?_⟩
      · exact fun m x hm _ => absurd hm (Nat.not_lt_zero m)
      · intro n hn
        obtain ⟨k, rfl, -⟩ := (isFirstPlace_cons (hpassed j hj w hwj)).mp hn
        exact Nat.succ_pos k
    · intro i j hi hj hij v w hv hw hvi hwj
      obtain ⟨m, hm, hbefore⟩ := hij v w hv hw hvi hwj
      refine ⟨m + 1, (isFirstPlace_cons (hpassed i hi v hvi)).mpr ⟨m, rfl, hm⟩, ?_⟩
      intro n hn
      obtain ⟨k, rfl, hk⟩ := (isFirstPlace_cons (hpassed j hj w hwj)).mp hn
      exact Nat.succ_lt_succ (hbefore k hk)

theorem isFirstPlace_append_left {xs ys : List Json} {v : Json} {n : ℕ} (hn : n < xs.length) :
    IsFirstPlace v (xs ++ ys) n ↔ IsFirstPlace v xs n := by
  unfold IsFirstPlace
  rw [List.getElem?_append_left hn]
  refine and_congr_right fun _ => forall₂_congr fun m w => forall_congr' fun hm => ?_
  rw [List.getElem?_append_left (hm.trans hn)]

theorem isFirstPlace_append_right {xs ys : List Json} {v : Json} (h : Absent v xs) {n : ℕ} :
    IsFirstPlace v (xs ++ ys) (xs.length + n) ↔ IsFirstPlace v ys n := by
  unfold IsFirstPlace
  rw [List.getElem?_append_right (Nat.le_add_right _ _), Nat.add_sub_cancel_left]
  refine and_congr_right fun _ => ⟨?_, ?_⟩
  · intro hfirst m w hm hw
    apply hfirst (xs.length + m) w (by omega)
    rwa [List.getElem?_append_right (Nat.le_add_right _ _), Nat.add_sub_cancel_left]
  · intro hfirst m w hm hw
    by_cases hmx : m < xs.length
    · rw [List.getElem?_append_left hmx] at hw
      exact h w (List.mem_of_getElem? hw)
    · rw [List.getElem?_append_right (Nat.le_of_not_lt hmx)] at hw
      exact hfirst (m - xs.length) w (by omega) hw

/-- An id whose first place lies beyond a list is absent from it. -/
theorem absent_of_isFirstPlace_append {xs : List Json} (ys : List Json) {v : Json}
    (h : ∀ n, IsFirstPlace v (xs ++ ys) n → xs.length ≤ n) : Absent v xs := by
  intro u hu
  by_contra huv
  obtain ⟨k, hk, rfl⟩ := List.mem_iff_getElem.mp hu
  have hplace : (xs ++ ys)[k]? = some xs[k] := by
    rw [List.getElem?_append_left hk, List.getElem?_eq_getElem hk]
  obtain ⟨n, hn, hfirst⟩ := exists_isFirstPlace hplace (by simpa using huv)
  exact absurd (h n hfirst) (by omega)

/-- In two lists together an id of the first comes before all that the first lacks. -/
theorem FirstBefore.of_append {xs ys : List Json} {v w : Json} (h : FirstBefore (xs ++ ys) v w) :
    FirstBefore xs v w ∨ Absent v xs ∧ Absent w xs ∧ FirstBefore ys v w := by
  obtain ⟨m, hm, hbefore⟩ := h
  -- either the first place lies in the first list, or both ids are beyond it
  by_cases hmx : m < xs.length
  · refine Or.inl ⟨m, (isFirstPlace_append_left hmx).mp hm, ?_⟩
    exact fun n hn => hbefore n ((isFirstPlace_append_left hn.lt_length).mpr hn)
  · right
    have hmx := Nat.le_of_not_lt hmx
    have hv : Absent v xs := by
      refine absent_of_isFirstPlace_append ys fun n hn => ?_
      rwa [hn.unique hm]
    have hw : Absent w xs :=
      absent_of_isFirstPlace_append ys fun n hn => hmx.trans (hbefore n hn).le
    obtain ⟨k, rfl⟩ := Nat.exists_eq_add_of_le hmx
    refine ⟨hv, hw, k, (isFirstPlace_append_right hv).mp hm, ?_⟩
    intro n hn
    have hlt := hbefore _ ((isFirstPlace_append_right hw).mpr hn)
    omega

/-! ### Ranks -/

theorem rank_eq_of_isLastPlace {v : Json} {ids : List Json} {n : ℕ} (h : IsLastPlace v ids n) :
    rank ids v = n := by
  rw [rank, lastPlace?_eq_some_iff.mpr h, Option.getD_some]

theorem rank_le_length (ids : List Json) (v : Json) : rank ids v ≤ ids.length := by
  unfold rank
  cases h : lastPlace? v ids with
  | none => simp
  | some n => exact (lastPlace?_eq_some_iff.mp h).lt_length.le

/-- A rank below the length of the list is a last place. -/
theorem isLastPlace_of_rank_lt {v : Json} {ids : List Json} (h : rank ids v < ids.length) :
    IsLastPlace v ids (rank ids v) := by
  cases hplace : lastPlace? v ids with
  | none =>
    rw [rank, hplace, Option.getD_none] at h
    omega
  | some n =>
    rw [rank, hplace, Option.getD_some]
    exact lastPlace?_eq_some_iff.mp hplace

/-- An id comes before another one by recency: its last place is before every last place of the
other. -/
def LastBefore (recent : List Json) (v w : Json) : Prop :=
  ∃ m, IsLastPlace v recent m ∧ ∀ n, IsLastPlace w recent n → m < n

/-- Two ids stand at one last place, or at none. -/
def SameLast (recent : List Json) (v w : Json) : Prop :=
  ∀ n, IsLastPlace v recent n ↔ IsLastPlace w recent n

theorem lastBefore_of_rank_lt {recent : List Json} {v w : Json}
    (h : rank recent v < rank recent w) : LastBefore recent v w := by
  have hlt := Nat.lt_of_lt_of_le h (rank_le_length recent w)
  refine ⟨rank recent v, isLastPlace_of_rank_lt hlt, ?_⟩
  intro n hn
  rwa [rank_eq_of_isLastPlace hn] at h

theorem sameLast_of_rank_eq {recent : List Json} {v w : Json}
    (h : rank recent v = rank recent w) : SameLast recent v w := by
  have hdir : ∀ {x y : Json} {n : ℕ}, rank recent x = rank recent y → IsLastPlace x recent n →
      IsLastPlace y recent n := by
    intro x y n hxy hx
    have hn := rank_eq_of_isLastPlace hx
    have hy := isLastPlace_of_rank_lt (v := y) (by rw [← hxy, hn]; exact hx.lt_length)
    rwa [← hxy, hn] at hy
  exact fun n => ⟨hdir h, hdir h.symm⟩

theorem rank_congr {recent : List Json} (hrecent : Scalars recent) {v w : Json}
    (hw : w.isScalarValue = true) (h : v.same w = true) : rank recent v = rank recent w := by
  have hv := Json.isScalarValue_of_same hw h
  have hplace : lastPlace? v recent = lastPlace? w recent := by
    induction recent with
    | nil => rfl
    | cons x rest ih =>
      have hx : x.same v = x.same w := by
        rw [Json.same_comm (Or.inr hv), Json.same_congr_left x hw h, Json.same_comm (Or.inl hw)]
      rw [lastPlace?, lastPlace?, ih hrecent.tail, hx]
  rw [rank, rank, hplace]

/-! ### Sorting -/

section sortBy

variable {α : Type} {key : α → Json} {recent : List Json}

theorem sortBy_perm (items : List α) : (sortBy key recent items).Perm items :=
  List.mergeSort_perm _ _

theorem mem_sortBy {a : α} {items : List α} : a ∈ sortBy key recent items ↔ a ∈ items :=
  (sortBy_perm items).mem_iff

theorem pairwise_rank_sortBy (items : List α) :
    (sortBy key recent items).Pairwise fun a b => rank recent (key a) ≤ rank recent (key b) :=
  Sorting.pairwise_sorted _ items

/-- Sorting is stable: the items of a rank keep their order. -/
theorem filter_rank_sortBy (items : List α) (r : ℕ) :
    ((sortBy key recent items).filter fun a => rank recent (key a) == r) =
      items.filter fun a => rank recent (key a) == r :=
  Sorting.filter_sorted _ items r

/-- **The order of sorted items**: by rank, and items of one rank as they were given. -/
theorem pairwise_sortBy {R : α → α → Prop} {items : List α} (hR : items.Pairwise R) :
    (sortBy key recent items).Pairwise fun a b =>
      rank recent (key a) < rank recent (key b) ∨
        rank recent (key a) = rank recent (key b) ∧ R a b := by
  rw [List.pairwise_iff_forall_sublist]
  intro a b hab
  have hle := List.pairwise_iff_forall_sublist.mp (pairwise_rank_sortBy items) hab
  rcases Nat.lt_or_eq_of_le hle with h | h
  · exact Or.inl h
  · refine Or.inr ⟨h, ?_⟩
    -- sorting keeps the items of one rank in order, so both stand in the given list as they do here
    have hsub := hab.filter fun x => rank recent (key x) == rank recent (key b)
    rw [filter_rank_sortBy] at hsub
    have hsub := hsub.trans List.filter_sublist
    simp only [List.filter_cons, h, beq_self_eq_true, if_true, List.filter_nil] at hsub
    exact List.pairwise_iff_forall_sublist.mp hR hsub

end sortBy

/-! ### Moving an id to the front -/

theorem rank_cons (w : Json) (rest : List Json) (x : Json) :
    rank (w :: rest) x =
      if lastPlace? x rest = none ∧ w.same x = true then 0 else rank rest x + 1 := by
  unfold rank
  rw [lastPlace?]
  cases lastPlace? x rest with
  | some n => simp
  | none => by_cases hw : w.same x = true <;> simp [hw]

theorem lastPlace?_filter_eq_none_iff {p : Json → Bool} {ids : List Json} {x : Json}
    (hp : ∀ w ∈ ids, w.same x = true → p w = true) :
    lastPlace? x (ids.filter p) = none ↔ lastPlace? x ids = none := by
  rw [lastPlace?_eq_none_iff, lastPlace?_eq_none_iff]
  constructor
  · intro h w hw
    by_contra hsame
    have hsame : w.same x = true := by simpa using hsame
    rw [h w (List.mem_filter.mpr ⟨hw, hp w hw hsame⟩)] at hsame
    cases hsame
  · exact fun h w hw => h w (List.mem_filter.mp hw).1

/-- Dropping other ids moves an id forward by the number of those dropped before it. -/
theorem rank_filter {p : Json → Bool} {ids : List Json} {x : Json}
    (hp : ∀ w ∈ ids, w.same x = true → p w = true) :
    rank (ids.filter p) x = (ids.take (rank ids x)).countP p := by
  induction ids with
  | nil => simp [rank, lastPlace?]
  | cons w rest ih =>
    obtain ⟨hw, hrest⟩ := List.forall_mem_cons.mp hp
    rw [rank_cons]
    -- the head is the last place itself, or it is passed over and counts if it is kept
    by_cases hlast : lastPlace? x rest = none ∧ w.same x = true
    · rw [List.filter_cons_of_pos (hw hlast.2), rank_cons, if_pos hlast, if_pos]
      · rfl
      · exact ⟨(lastPlace?_filter_eq_none_iff hrest).mpr hlast.1, hlast.2⟩
    · rw [if_neg hlast, List.take_succ_cons]
      by_cases hpw : p w = true
      · rw [List.filter_cons_of_pos hpw, rank_cons, if_neg, ih hrest,
          List.countP_cons_of_pos hpw]
        rwa [lastPlace?_filter_eq_none_iff hrest]
      · rw [List.filter_cons_of_neg hpw, List.countP_cons_of_neg hpw, ih hrest]

/-- Counting further past an item that counts gives more. -/
theorem countP_take_lt {p : Json → Bool} {ids : List Json} {i j : ℕ} {w : Json} (hij : i < j)
    (hw : ids[i]? = some w) (hp : p w = true) :
    (ids.take i).countP p < (ids.take j).countP p := by
  have hstep : (ids.take (i + 1)).countP p = (ids.take i).countP p + 1 := by
    rw [List.take_add_one, hw, List.countP_append]
    simp [hp]
  have hmono : (ids.take (i + 1)).countP p ≤ (ids.take j).countP p :=
    (List.take_sublist_take_left (by omega)).countP_le
  omega

section front

variable {α : Type} {key : α → Json} {recent : List Json} {v : Json}

/-- The list with an id moved to the front. -/
def front (v : Json) (recent : List Json) : List Json := v :: recent.filter fun w => !w.same v

theorem rank_front_of_same (hv : v.isScalarValue = true) {x : Json} (h : x.same v = true) :
    rank (front v recent) x = 0 := by
  have hx := Json.isScalarValue_of_same hv h
  rw [front, rank_cons, if_pos]
  refine ⟨lastPlace?_eq_none_iff.mpr ?_, by rw [Json.same_comm (Or.inl hv)]; exact h⟩
  intro w hw
  by_contra hwx
  have hwv := Json.same_trans hx (by simpa using hwx) h
  simp [hwv] at hw

theorem rank_front_of_not_same (hv : v.isScalarValue = true) {x : Json}
    (hx : x.isScalarValue = true) (h : x.same v = false) :
    rank (front v recent) x =
      (recent.take (rank recent x)).countP (fun w => !w.same v) + 1 := by
  rw [front, rank_cons, if_neg, rank_filter]
  · intro w _ hwx
    rw [Json.same_congr_left v hx hwx, h]
    rfl
  · rw [Json.same_comm (Or.inl hv), h]
    simp

theorem rank_front_lt (hv : v.isScalarValue = true) {x y : Json} (hx : x.isScalarValue = true)
    (hy : y.isScalarValue = true) (hxv : x.same v = false) (hyv : y.same v = false)
    (h : rank recent x < rank recent y) : rank (front v recent) x < rank (front v recent) y := by
  rw [rank_front_of_not_same hv hx hxv, rank_front_of_not_same hv hy hyv]
  obtain ⟨⟨w, hw, hwx⟩, -⟩ :=
    isLastPlace_of_rank_lt (Nat.lt_of_lt_of_le h (rank_le_length recent y))
  have hcount := countP_take_lt (p := fun w => !w.same v) h hw
    (by rw [Json.same_congr_left v hx hwx, hxv]; rfl)
  omega

/-- **Moving an id to the front** of a list moves the items with this id to the front of the sorted
items, and leaves the order among them and among all others. -/
theorem sortBy_front (hrecent : Scalars recent) (hv : v.isScalarValue = true)
    {R : α → α → Prop} (hasymm : ∀ a b, R a b → ¬ R b a) {items : List α}
    (hitems : items.Pairwise R) (hkeys : ∀ a ∈ items, (key a).isScalarValue = true) :
    sortBy key (front v recent) items =
      ((sortBy key recent items).filter fun a => (key a).same v) ++
        (sortBy key recent items).filter fun a => !(key a).same v := by
  have hsorted : (sortBy key recent items).Pairwise _ := pairwise_sortBy hitems
  have hfront : (sortBy key (front v recent) items).Pairwise _ := pairwise_sortBy hitems
  have hkey : ∀ a ∈ sortBy key recent items, (key a).isScalarValue = true :=
    fun a ha => hkeys a (mem_sortBy.mp ha)
  -- both sides have the same items, each before those of a higher new rank and, within a rank,
  -- in the given order, which leaves a single arrangement
  refine List.Perm.eq_of_pairwise ?_ hfront ?_ ?_
  · rintro a b - - (hab | ⟨hab, hRab⟩) (hba | ⟨hba, hRba⟩)
    · omega
    · omega
    · omega
    · exact absurd hRba (hasymm a b hRab)
  · rw [List.pairwise_append]
    refine ⟨?_, ?_, ?_⟩
    -- the items of `v`: all have rank 0 now, and had one rank before
    · refine (hsorted.filter _).imp_of_mem ?_
      intro a b ha hb hab
      have ha := (List.mem_filter.mp ha).2
      have hb := (List.mem_filter.mp hb).2
      rw [rank_front_of_same hv ha, rank_front_of_same hv hb]
      rw [rank_congr hrecent hv ha, rank_congr hrecent hv hb] at hab
      simpa using hab
    -- all others: the new ranks are in the order of the old ones
    · refine (hsorted.filter _).imp_of_mem ?_
      intro a b ha hb hab
      obtain ⟨ha, hav⟩ := List.mem_filter.mp ha
      obtain ⟨hb, hbv⟩ := List.mem_filter.mp hb
      have hav : (key a).same v = false := by simpa using hav
      have hbv : (key b).same v = false := by simpa using hbv
      rcases hab with hab | ⟨hab, hRab⟩
      · exact Or.inl (rank_front_lt hv (hkey a ha) (hkey b hb) hav hbv hab)
      · refine Or.inr ⟨?_, hRab⟩
        rw [rank_front_of_not_same hv (hkey a ha) hav, rank_front_of_not_same hv (hkey b hb) hbv,
          hab]
    · intro a ha b hb
      have ha := (List.mem_filter.mp ha).2
      obtain ⟨hb, hbv⟩ := List.mem_filter.mp hb
      have hbv : (key b).same v = false := by simpa using hbv
      left
      rw [rank_front_of_same hv ha, rank_front_of_not_same hv (hkey b hb) hbv]
      omega
  · exact ((sortBy_perm items).trans (sortBy_perm items).symm).trans
      (List.filter_append_perm _ _).symm

end front

end WorkspaceHome.Recency
