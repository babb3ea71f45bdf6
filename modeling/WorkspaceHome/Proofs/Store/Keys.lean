import WorkspaceHome.Proofs.Store.Table

/-!
# Keys, references and the succession of rows

What has to hold between rows: no two rows of a table have one key (`Table.Distinct`), and every row
refers to a row that is there (`Table.Refers`). And what holds between a table and a later one: a
row with an id from before is a row from before (`Table.Follows`), since no id is given twice.

A table changes in two ways. Rows are dropped, or a single row is saved: a new one, or one that has
been there (`Table.Saves`). All three are kept when rows are dropped, and when a row is saved that
has its key for itself and refers to a row that is there.
-/

namespace WorkspaceHome.Table

variable {α β κ μ : Type} [Row α] [Row β] {t t' : Table α} {r : α}

/-! ### Rows that are there -/

/-- A table has a row of an id. -/
def Has (t : Table α) (id : ℕ) : Prop := ∃ r ∈ t.rows, Row.id r = id

theorem has_of_mem (hr : r ∈ t.rows) : t.Has (Row.id r) := ⟨r, hr, rfl⟩

theorem has_iff_isSome {id : ℕ} : t.Has id ↔ (t.find? id).isSome = true := by
  rw [Option.isSome_iff_exists]
  simp only [Has, find?_eq_some_iff]

theorem Has.le_last {id : ℕ} (h : t.Has id) : id ≤ t.last := by
  obtain ⟨r, hr, rfl⟩ := h
  exact t.bounded r hr

theorem has_erase_iff {id n : ℕ} : (t.erase id).Has n ↔ t.Has n ∧ n ≠ id := by
  constructor
  · rintro ⟨r, hr, rfl⟩
    obtain ⟨hr, hne⟩ := List.mem_filter.mp hr
    exact ⟨⟨r, hr, rfl⟩, by simpa using hne⟩
  · rintro ⟨⟨r, hr, rfl⟩, hne⟩
    exact ⟨r, List.mem_filter.mpr ⟨hr, by simpa using hne⟩, rfl⟩

/-! ### Saving a row -/

/-- A row is saved: it takes the place of the row with its id, with the same mark, or else its id
has not been given before. All other rows stay. -/
structure Saves (mark : α → μ) (t : Table α) (r : α) (t' : Table α) : Prop where
  mem_iff : ∀ r', r' ∈ t'.rows ↔ r' = r ∨ r' ∈ t.rows ∧ Row.id r' ≠ Row.id r
  last : t.last ≤ t'.last
  origin : t.last < Row.id r ∨ ∃ old ∈ t.rows, Row.id old = Row.id r ∧ mark old = mark r

variable {mark : α → μ}

/-- A new row is saved with the next id. -/
theorem saves_insert (mark : α → μ) (hr : Row.id r = t.next) : Saves mark t r (t.insert r hr) where
  mem_iff r' := by
    rw [rows_insert, List.mem_append, List.mem_singleton, or_comm]
    refine or_congr_right ⟨fun hr' => ⟨hr', fun hid => ?_⟩, And.left⟩
    -- the next id is greater than all ids that are in use
    have hle := t.bounded r' hr'
    rw [hid, hr] at hle
    exact Nat.not_succ_le_self _ hle
  last := Nat.le_succ _
  origin := Or.inl (hr ▸ Nat.lt_succ_self _)

/-- A row that is there is saved in its place. -/
theorem saves_modify {old : α} (hold : old ∈ t.rows) {change : α → α}
    (keeps : ∀ r, Row.id (change r) = Row.id r) (hmark : mark (change old) = mark old) :
    Saves mark t (change old) (t.modify (Row.id old) change keeps) where
  mem_iff r' := by
    rw [rows_modify, List.mem_map, keeps]
    constructor
    · rintro ⟨a, ha, rfl⟩
      split_ifs with hid
      · rw [eq_of_id_eq ha hold hid]
        exact Or.inl rfl
      · exact Or.inr ⟨ha, hid⟩
    · rintro (rfl | ⟨hr', hid⟩)
      · exact ⟨old, hold, if_pos rfl⟩
      · exact ⟨r', hr', if_neg hid⟩
  last := Nat.le_refl _
  origin := Or.inr ⟨old, hold, (keeps old).symm, hmark.symm⟩

/-- A row that is changed in its place stays there. -/
theorem has_of_rows_map {old : α} (hold : old ∈ t.rows) {change : α → α}
    (hrows : t'.rows = t.rows.map fun r => if Row.id r = Row.id old then change r else r)
    (hid : Row.id (change old) = Row.id old) : t'.Has (Row.id old) := by
  refine ⟨change old, ?_, hid⟩
  rw [hrows, List.mem_map]
  exact ⟨old, hold, if_pos rfl⟩

namespace Saves

theorem mem (h : Saves mark t r t') : r ∈ t'.rows := (h.mem_iff r).mpr (Or.inl rfl)

/-- A row that is saved is not lost. -/
theorem has (h : Saves mark t r t') {id : ℕ} (hid : t.Has id) : t'.Has id := by
  obtain ⟨r', hr', rfl⟩ := hid
  by_cases hsame : Row.id r' = Row.id r
  · exact ⟨r, h.mem, hsame.symm⟩
  · exact ⟨r', (h.mem_iff r').mpr (Or.inr ⟨hr', hsame⟩), rfl⟩

end Saves

/-! ### Keys -/

/-- No two rows have one key. -/
def Distinct (key : α → κ) (t : Table α) : Prop :=
  ∀ r ∈ t.rows, ∀ r' ∈ t.rows, key r = key r' → r = r'

/-- A row has its key for itself: no row of another id has it. -/
def Free (key : α → κ) (r : α) (t : Table α) : Prop :=
  ∀ r' ∈ t.rows, Row.id r' ≠ Row.id r → key r' ≠ key r

namespace Distinct

variable {key : α → κ}

theorem saves (h : t.Distinct key) (hsaved : Saves mark t r t') (hfree : t.Free key r) :
    t'.Distinct key := by
  intro a ha b hb hab
  rcases (hsaved.mem_iff a).mp ha with rfl | ⟨ha, hne⟩ <;>
    rcases (hsaved.mem_iff b).mp hb with rfl | ⟨hb, hne'⟩
  · rfl
  · exact absurd hab.symm (hfree b hb hne')
  · exact absurd hab (hfree a ha hne)
  · exact h a ha b hb hab

theorem filter (h : t.Distinct key) (keep : α → Bool) : (t.filter keep).Distinct key :=
  fun a ha b hb => h a (List.mem_filter.mp ha).1 b (List.mem_filter.mp hb).1

end Distinct

/-! ### References -/

/-- Every row refers to a row that is there. -/
def Refers (t : Table α) (target : α → ℕ) (u : Table β) : Prop := ∀ r ∈ t.rows, u.Has (target r)

namespace Refers

variable {target : α → ℕ} {u u' : Table β}

theorem saves (h : t.Refers target u) (hsaved : Saves mark t r t') (hr : u.Has (target r)) :
    t'.Refers target u := by
  intro a ha
  rcases (hsaved.mem_iff a).mp ha with rfl | ⟨ha, -⟩
  · exact hr
  · exact h a ha

theorem filter (h : t.Refers target u) (keep : α → Bool) : (t.filter keep).Refers target u :=
  fun a ha => h a (List.mem_filter.mp ha).1

/-- Saving a row leaves the references to it. -/
theorem saves_right (h : t.Refers target u) {mark : β → μ} {r : β} (hsaved : Saves mark u r u') :
    t.Refers target u' :=
  fun a ha => hsaved.has (h a ha)

/-- A row that is deleted takes along the rows that refer to it. -/
theorem erase_right (h : t.Refers target u) (id : ℕ) :
    (t.filter fun r => target r != id).Refers target (u.erase id) := by
  intro a ha
  obtain ⟨ha, hne⟩ := List.mem_filter.mp ha
  exact has_erase_iff.mpr ⟨h a ha, by simpa using hne⟩

end Refers

/-! ### Succession -/

/-- A table comes after another one: no fewer ids have been given, and a row with an id from before
is a row from before, with the same mark. -/
structure Follows (mark : α → μ) (t t' : Table α) : Prop where
  last : t.last ≤ t'.last
  origin : ∀ r' ∈ t'.rows, Row.id r' ≤ t.last →
    ∃ r ∈ t.rows, Row.id r = Row.id r' ∧ mark r = mark r'

namespace Follows

theorem refl (mark : α → μ) (t : Table α) : Follows mark t t :=
  ⟨Nat.le_refl _, fun r hr _ => ⟨r, hr, rfl, rfl⟩⟩

theorem trans {u v : Table α} (h : Follows mark t u) (h' : Follows mark u v) :
    Follows mark t v := by
  refine ⟨h.last.trans h'.last, fun r'' hr'' hid => ?_⟩
  obtain ⟨r', hr', hid', hmark'⟩ := h'.origin r'' hr'' (hid.trans h.last)
  obtain ⟨r, hr, hid, hmark⟩ := h.origin r' hr' (hid'.trans_le hid)
  exact ⟨r, hr, hid.trans hid', hmark.trans hmark'⟩

theorem of_saves (h : Saves mark t r t') : Follows mark t t' := by
  refine ⟨h.last, fun r' hr' hid => ?_⟩
  rcases (h.mem_iff r').mp hr' with rfl | ⟨hr', -⟩
  · exact h.origin.resolve_left hid.not_gt
  · exact ⟨r', hr', rfl, rfl⟩

theorem filter (mark : α → μ) (t : Table α) (keep : α → Bool) : Follows mark t (t.filter keep) :=
  ⟨Nat.le_refl _, fun r hr _ => ⟨r, (List.mem_filter.mp hr).1, rfl, rfl⟩⟩

/-- A row from before that is still there has its mark from before. -/
theorem mark_eq (h : Follows mark t t') (hr : r ∈ t.rows) {r' : α} (hr' : r' ∈ t'.rows)
    (hid : Row.id r' = Row.id r) : mark r' = mark r := by
  obtain ⟨old, hold, hsame, hmark⟩ := h.origin r' hr' (hid.trans_le (t.bounded r hr))
  rw [← hmark, eq_of_id_eq hold hr (hsame.trans hid)]

/-- **What is there before and after is there in between**: no id is used again. -/
theorem has_between {u v : Table α} (h : Follows mark t u) (h' : Follows mark u v) {id : ℕ}
    (hbefore : t.Has id) (hafter : v.Has id) : u.Has id := by
  obtain ⟨r'', hr'', rfl⟩ := hafter
  obtain ⟨r, hr, hid, -⟩ := h'.origin r'' hr'' (hbefore.le_last.trans h.last)
  exact ⟨r, hr, hid⟩

end Follows

end WorkspaceHome.Table
