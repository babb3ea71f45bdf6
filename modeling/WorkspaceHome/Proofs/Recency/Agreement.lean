import WorkspaceHome.Proofs.Recency.Buckets

/-!
# The two orders by recency

Ids are put in order by `prioritise`, which lists them, and items by `sortBy`, which ranks them. On
lists without equal ids the two agree: what `prioritise` lists of given ids is what `sortBy` makes
of them (`prioritiseStored_agrees`). With equal ids they do not, since the first place of an id
counts for the one and the last place for the other.

For lists one after another, `distinct` gives the ids of the first and then those of the second that
the first lacks (`distinct_append`), each as it stands at its first place
(`find?_of_mem_distinct`). Without equal ids a bucket holds one item at most
(`filter_same_eq_find?`), so the buckets of a sorted list are its ids found one by one.
-/

namespace WorkspaceHome.Recency

/-- Values that can be compared as ids: they hold no others, and none is not-a-number. -/
def Comparable (ids : List Json) : Prop := ∀ v ∈ ids, v.isScalarValue = true ∧ v.isNan = false

instance (ids : List Json) : Decidable (Comparable ids) :=
  inferInstanceAs (Decidable (∀ v ∈ ids, v.isScalarValue = true ∧ v.isNan = false))

variable {ids xs ys : List Json} {v w : Json}

namespace Comparable

theorem scalars (h : Comparable ids) : Scalars ids := fun v hv => (h v hv).1

theorem same_self (h : Comparable ids) (hv : v ∈ ids) : v.same v = true :=
  Json.same_self_of_not_nan (h v hv).1 (h v hv).2

theorem not_absent (h : Comparable ids) (hv : v ∈ ids) : ¬ Absent v ids :=
  not_absent_of_same hv (h v hv).1 (h.same_self hv)

theorem append (hx : Comparable xs) (hy : Comparable ys) : Comparable (xs ++ ys) := by
  intro v hv
  rcases List.mem_append.mp hv with hv | hv
  · exact hx v hv
  · exact hy v hv

end Comparable

/-! ### Lists one after another -/

/-- The ids of two lists are those of the first, and then those of the second that it lacks. -/
theorem distinct_append (xs ys : List Json) :
    distinct (xs ++ ys) = distinct xs ++ (distinct ys).filter fun w => Absent w xs := by
  induction xs with
  | nil => simp [distinct, Absent]
  | cons v rest ih =>
    have hfilter : ((distinct ys).filter fun w => Absent w rest).filter (fun w => !v.same w) =
        (distinct ys).filter fun w => Absent w (v :: rest) := by
      rw [List.filter_filter]
      apply List.filter_congr
      intro w _
      rw [Bool.eq_iff_iff, decide_eq_true_iff, absent_cons]
      simp
    rw [List.cons_append, distinct, ih, List.filter_append, hfilter, distinct, List.cons_append]

theorem absent_distinct_iff (h : Scalars ids) (hv : v.isScalarValue = true) :
    Absent v (distinct ids) ↔ Absent v ids := by
  constructor
  · intro habsent
    by_contra hnot
    obtain ⟨w, hw, hwv⟩ := exists_same_of_not_absent hnot
    rw [Json.same_comm (Or.inr hv)] at hwv
    obtain ⟨u, hu, hvu⟩ := (exists_same_distinct_iff h hv).mpr ⟨w, hw, hwv⟩
    exact not_absent_of_same hu (h.distinct u hu) hvu habsent
  · exact fun habsent w hw => habsent w (mem_of_mem_distinct hw)

/-- Every id of a `distinct` list stands in the original as the first of those equal to it. -/
theorem find?_of_mem_distinct (h : Comparable ids) (hw : w ∈ distinct ids) :
    (ids.find? fun u => u.same w) = some w := by
  induction ids with
  | nil => cases hw
  | cons v rest ih =>
    have hrest : Comparable rest := fun u hu => h u (List.mem_cons_of_mem _ hu)
    rw [distinct] at hw
    rcases List.mem_cons.mp hw with rfl | hw
    · rw [List.find?_cons, h.same_self List.mem_cons_self]
    · obtain ⟨hw, hvw⟩ := List.mem_filter.mp hw
      rw [List.find?_cons, show v.same w = false by simpa using hvw]
      exact ih hrest hw

/-- The list is in two parts: the recent ids, and those that are not. -/
theorem prioritise_eq (recent all : List Json) :
    prioritise recent all = distinct recent ++ (distinct all).filter fun v => Absent v recent :=
  distinct_append recent all

/-! ### Lists without equal ids -/

/-- In a list without equal ids every place is the last one. -/
theorem distinctLast_eq_self (h : Scalars ids) (hapart : Apart ids) : distinctLast ids = ids := by
  induction ids with
  | nil => rfl
  | cons v rest ih =>
    have hv : Absent v rest := by
      intro w hw
      rw [Json.same_comm (Or.inr h.head)]
      exact List.rel_of_pairwise_cons hapart hw
    rw [distinctLast, if_pos hv, ih h.tail hapart.of_cons]

/-- A list without equal ids has one at most that is equal to a given one. -/
theorem filter_same_eq_find? (h : Scalars ids) (hapart : Apart ids) (hv : v.isScalarValue = true) :
    (ids.filter fun w => w.same v) = (ids.find? fun w => w.same v).toList := by
  induction ids with
  | nil => rfl
  | cons w rest ih =>
    cases hwv : w.same v with
    | true =>
      -- an id of the rest that is equal to `v` would be equal to `w`
      have hrest : ∀ u ∈ rest, u.same v = false := by
        intro u hu
        by_contra huv
        have hvu : v.same u = true := by
          rw [Json.same_comm (Or.inl hv)]
          simpa using huv
        have hwu : w.same u = true := Json.same_trans hv hwv hvu
        rw [List.rel_of_pairwise_cons hapart hu] at hwu
        cases hwu
      rw [List.filter_cons, if_pos hwv, List.find?_cons, hwv,
        List.filter_eq_nil_iff.mpr (by simpa using hrest)]
      rfl
    | false =>
      rw [List.filter_cons, if_neg (by simp [hwv]), List.find?_cons, hwv,
        ih h.tail hapart.of_cons]

/-- The ids of a list that another one has too, and what they are found as there. -/
theorem forall₂_find? (hx : Scalars xs) (hy : Scalars ys) :
    List.Forall₂ (fun v w => v.same w = true) (xs.filter fun v => ¬ Absent v ys)
      (xs.filterMap fun v => ys.find? fun w => w.same v) := by
  induction xs with
  | nil => exact .nil
  | cons v rest ih =>
    cases hfound : ys.find? fun w => w.same v with
    | none =>
      have habsent : Absent v ys := by simpa [Absent] using hfound
      rw [List.filter_cons_of_neg (by simpa using habsent), List.filterMap_cons, hfound]
      exact ih hx.tail
    | some w =>
      have hw := List.mem_of_find?_eq_some hfound
      have hwv := List.find?_some hfound
      have hvw : v.same w = true := by
        rw [Json.same_comm (Or.inl hx.head)]
        exact hwv
      rw [List.filter_cons_of_pos (by simpa using not_absent_of_same hw (hy w hw) hvw),
        List.filterMap_cons, hfound]
      exact .cons hvw (ih hx.tail)

/-- The buckets of two lists without equal ids: the ids of the first that are found in the second,
and then those that are not in the first. -/
theorem buckets_of_apart (hx : Scalars xs) (hxapart : Apart xs) (hy : Scalars ys)
    (hyapart : Apart ys) :
    buckets id xs ys = (xs.filterMap fun v => ys.find? fun w => w.same v) ++
      ys.filter fun w => Absent w xs := by
  unfold buckets
  rw [distinctLast_eq_self hx hxapart, List.filterMap_eq_flatMap_toList]
  congr 1
  apply List.flatMap_congr
  intro v hv
  exact filter_same_eq_find? hy hyapart (hx v hv)

/-! ### The agreement -/

/-- A recency list that is stored as a list, or is absent and has no ids. -/
def IsStoredAs (stored : Json) (recent : List Json) : Prop :=
  stored = .list recent ∨ stored = .null ∧ recent = []

theorem idsIfAny_of_isStoredAs {stored : Json} (h : IsStoredAs stored ids)
    (hscalars : Scalars ids) : stored.idsIfAny = .ok ids := by
  rcases h with rfl | ⟨rfl, rfl⟩
  · exact Json.idsIfAny_list hscalars
  · rfl

/-- What `prioritise` lists of given ids is, one by one, what sorting makes of them. -/
theorem forall₂_prioritise_sortBy {recent all : List Json} (hrecent : Comparable recent)
    (hall : Comparable all) :
    List.Forall₂ (fun v w => v.same w = true)
      ((prioritise recent all).filter fun v => ¬ Absent v all)
      (sortBy id (distinct recent) (distinct all)) := by
  -- leaving out equal ids before makes no difference to what is named and what is not
  have hothers : (distinct all).filter (fun w => Absent w (distinct recent)) =
      (distinct all).filter fun w => Absent w recent := by
    apply List.filter_congr
    intro w hw
    rw [Bool.eq_iff_iff, decide_eq_true_iff, decide_eq_true_iff]
    exact absent_distinct_iff hrecent.scalars (hall.scalars.distinct w hw)
  have hkept : ((distinct all).filter fun v => Absent v recent).filter (fun v => ¬ Absent v all) =
      (distinct all).filter fun v => Absent v recent := by
    apply List.filter_eq_self.mpr
    intro v hv
    have hv := mem_of_mem_distinct (List.mem_filter.mp hv).1
    simpa using hall.not_absent hv
  have hfound : ((distinct recent).filter fun v => ¬ Absent v all) =
      (distinct recent).filter fun v => ¬ Absent v (distinct all) := by
    apply List.filter_congr
    intro v hv
    rw [Bool.eq_iff_iff, decide_eq_true_iff, decide_eq_true_iff,
      absent_distinct_iff hall.scalars (hrecent.scalars.distinct v hv)]
  -- both sides are now the named ids in the order of the recency list, and then the others
  rw [sortBy_eq_buckets hrecent.scalars.distinct,
    buckets_of_apart hrecent.scalars.distinct (pairwise_distinct recent) hall.scalars.distinct
      (pairwise_distinct all), prioritise_eq, List.filter_append, hkept, hothers, hfound]
  refine List.rel_append (forall₂_find? hrecent.scalars.distinct hall.scalars.distinct) ?_
  rw [List.forall₂_same]
  intro v hv
  exact hall.same_self (mem_of_mem_distinct (List.mem_filter.mp hv).1)

/-- **The two orders by recency agree.** Putting ids in order gives a list without equal ids that
has exactly the values of the recency list and of the ids, each as it stands at its first place, and
in which all that are in the recency list precede all that are not. Those of its ids that were to be
put in order are, one by one, what sorting them by the recency list gives, if equal ids are left out
of both before. -/
theorem prioritiseStored_agrees {stored : Json} {recent all : List Json}
    (hstored : IsStoredAs stored recent) (hrecent : Comparable recent) (hall : Comparable all) :
    ∃ ordered sorted, prioritiseStored stored (.list all) = .ok ordered ∧
      sortStored .ok (.list (distinct recent)) (distinct all) = .ok sorted ∧
      Apart ordered ∧
      (∀ v ∈ recent ++ all, ∃ w ∈ ordered, v.same w = true) ∧
      (∀ w ∈ ordered, ((recent ++ all).find? fun u => u.same w) = some w) ∧
      (∃ front rest, ordered = front ++ rest ∧ (∀ v ∈ front, ¬ Absent v recent) ∧
        ∀ v ∈ rest, Absent v recent) ∧
      List.Forall₂ (fun v w => v.same w = true) (ordered.filter fun v => ¬ Absent v all)
        sorted := by
  have hboth := hrecent.append hall
  have hordered : prioritiseStored stored (.list all) = .ok (prioritise recent all) := by
    unfold prioritiseStored
    rw [idsIfAny_of_isStoredAs hstored hrecent.scalars, Json.ids_list hall.scalars]
    rfl
  have hsorted : sortStored .ok (.list (distinct recent)) (distinct all) =
      .ok (sortBy id (distinct recent) (distinct all)) :=
    sortStored_list hrecent.scalars.distinct fun v hv => hall.scalars.distinct v hv
  refine ⟨_, _, hordered, hsorted, pairwise_distinct _, ?_, ?_, ?_,
    forall₂_prioritise_sortBy hrecent hall⟩
  -- every id is equal to the one that stands for it
  · intro v hv
    exact (exists_same_distinct_iff hboth.scalars (hboth v hv).1).mpr
      ⟨v, hv, hboth.same_self hv⟩
  · exact fun w hw => find?_of_mem_distinct hboth hw
  · refine ⟨_, _, prioritise_eq recent all, ?_, ?_⟩
    · exact fun v hv => hrecent.not_absent (mem_of_mem_distinct hv)
    · exact fun v hv => of_decide_eq_true (List.mem_filter.mp hv).2

/-- Ids two of which are one number, which the recency list names as well. -/
def sampleIds : List Json := [.text "1", .float (.finite false 1 0), .int 5, .int 1]

theorem prioritiseStored_agrees_sample :
    IsStoredAs (.list sampleRecent) sampleRecent ∧ Comparable sampleRecent ∧
      Comparable sampleIds ∧
      ∃ ordered sorted, prioritiseStored (.list sampleRecent) (.list sampleIds) = .ok ordered ∧
        sortStored .ok (.list (distinct sampleRecent)) (distinct sampleIds) = .ok sorted ∧
        ordered.length = 4 ∧ (ordered.filter fun v => ¬ Absent v sampleIds).length = 3 ∧
        List.Forall₂ (fun v w => v.same w = true) (ordered.filter fun v => ¬ Absent v sampleIds)
          sorted := by
  have hstored : IsStoredAs (.list sampleRecent) sampleRecent := Or.inl rfl
  have hrecent : Comparable sampleRecent := by decide
  have hids : Comparable sampleIds := by decide
  obtain ⟨ordered, sorted, hordered, hsorted, -, -, -, -, hagree⟩ :=
    prioritiseStored_agrees hstored hrecent hids
  obtain rfl : prioritise sampleRecent sampleIds = ordered :=
    Except.ok.inj ((prioritiseStored_list hrecent.scalars hids.scalars).symm.trans hordered)
  exact ⟨hstored, hrecent, hids, _, sorted, hordered, hsorted, by decide +kernel,
    by decide +kernel, hagree⟩

end WorkspaceHome.Recency
