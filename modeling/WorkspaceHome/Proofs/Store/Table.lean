import Mathlib.Data.List.Sort
import Mathlib.Tactic.SplitIfs
import WorkspaceHome.Store.Basic

/-!
# Rows of tables

A table is settled by its rows and its last number (`Table.eq_of_rows_eq`) and a row by its id
(`Table.eq_of_id_eq`). Two tables that agree on the rows of a kind list these rows alike
(`Table.AgreeOn.filter_eq`).
-/

namespace WorkspaceHome.Table

variable {α : Type} [Row α]

@[simp]
theorem rows_insert (t : Table α) (r : α) (h : Row.id r = t.next) :
    (t.insert r h).rows = t.rows ++ [r] := rfl

@[simp]
theorem rows_modify (t : Table α) (id : ℕ) (change : α → α)
    (keeps : ∀ r, Row.id (change r) = Row.id r) :
    (t.modify id change keeps).rows = t.rows.map fun r => if Row.id r = id then change r else r :=
  rfl

@[simp]
theorem mem_rows_filter {t : Table α} {keep : α → Bool} {r : α} :
    r ∈ (t.filter keep).rows ↔ r ∈ t.rows ∧ keep r = true :=
  List.mem_filter

@[simp]
theorem mem_rows_erase {t : Table α} {id : ℕ} {r : α} :
    r ∈ (t.erase id).rows ↔ r ∈ t.rows ∧ Row.id r ≠ id := by
  rw [erase, mem_rows_filter, bne_iff_ne]

/-- A table is settled by its rows and the last number that it has given. -/
theorem eq_of_rows_eq {t t' : Table α} (hrows : t.rows = t'.rows) (hlast : t.last = t'.last) :
    t = t' := by
  obtain ⟨rows, last, ascending, bounded⟩ := t
  obtain ⟨rows', last', ascending', bounded'⟩ := t'
  obtain rfl : rows = rows' := hrows
  obtain rfl : last = last' := hlast
  rfl

/-- Nothing matters of a change but what it makes of the row with the id. -/
theorem modify_congr {t : Table α} {id : ℕ} {change change' : α → α}
    {keeps : ∀ r, Row.id (change r) = Row.id r} {keeps' : ∀ r, Row.id (change' r) = Row.id r}
    (h : ∀ r ∈ t.rows, Row.id r = id → change r = change' r) :
    t.modify id change keeps = t.modify id change' keeps' := by
  refine eq_of_rows_eq (List.map_congr_left fun r hr => ?_) rfl
  split_ifs with hid
  · exact h r hr hid
  · rfl

theorem modify_id (t : Table α) (id : ℕ) : t.modify id (fun r => r) (fun _ => rfl) = t := by
  refine eq_of_rows_eq ?_ rfl
  simp

theorem eq_of_id_eq {t : Table α} {r r' : α} (hr : r ∈ t.rows) (hr' : r' ∈ t.rows)
    (h : Row.id r = Row.id r') : r = r' := by
  have hdistinct : ∀ a ∈ t.rows, ∀ b ∈ t.rows, Row.id a = Row.id b → a = b :=
    fun a ha b hb => List.Pairwise.forall_of_forall_of_flip
      (R := fun a b => Row.id a = Row.id b → a = b) (fun _ _ _ => rfl)
      (t.ascending.imp fun hlt heq => absurd heq hlt.ne)
      (t.ascending.imp fun hlt heq => absurd heq hlt.ne') ha hb
  exact hdistinct r hr r' hr' h

theorem nodup_rows (t : Table α) : t.rows.Nodup :=
  t.ascending.imp fun hlt heq => (Nat.ne_of_lt hlt) (congrArg Row.id heq)

theorem find?_eq_some_iff {t : Table α} {id : ℕ} {r : α} :
    t.find? id = some r ↔ r ∈ t.rows ∧ Row.id r = id := by
  unfold find?
  constructor
  · intro h
    exact ⟨List.mem_of_find?_eq_some h, by simpa using List.find?_some h⟩
  · rintro ⟨hr, rfl⟩
    cases hfound : t.rows.find? fun r' => Row.id r' == Row.id r with
    | none => exact absurd (List.find?_eq_none.mp hfound r hr) (by simp)
    | some r' =>
      have hid : Row.id r' = Row.id r := by simpa using List.find?_some hfound
      rw [eq_of_id_eq (List.mem_of_find?_eq_some hfound) hr hid]

/-- The first row of a kind is the one of the kind with the least id. -/
theorem find?_rows_eq_some_iff {t : Table α} {p : α → Bool} {r : α} :
    t.rows.find? p = some r ↔
      r ∈ t.rows ∧ p r = true ∧ ∀ r' ∈ t.rows, Row.id r' < Row.id r → p r' = false := by
  rw [List.find?_eq_some_iff_append]
  constructor
  · rintro ⟨hr, before, after, hrows, hbefore⟩
    have hascending := t.ascending
    rw [hrows] at hascending ⊢
    obtain ⟨-, hrest, -⟩ := List.pairwise_append.mp hascending
    refine ⟨List.mem_append_right _ List.mem_cons_self, hr, fun r' hr' hlt => ?_⟩
    -- a row of a smaller id cannot come later
    rcases List.mem_append.mp hr' with hr' | hr'
    · simpa using hbefore r' hr'
    · rcases List.mem_cons.mp hr' with rfl | hr'
      · exact absurd hlt (Nat.lt_irrefl _)
      · exact absurd ((List.pairwise_cons.mp hrest).1 r' hr') hlt.not_gt
  · rintro ⟨hmem, hr, hbefore⟩
    obtain ⟨before, after, hrows⟩ := List.append_of_mem hmem
    have hascending := t.ascending
    rw [hrows] at hascending hbefore
    refine ⟨hr, before, after, hrows, fun r' hr' => ?_⟩
    have hlt := (List.pairwise_append.mp hascending).2.2 r' hr' r List.mem_cons_self
    simpa using hbefore r' (List.mem_append_left _ hr') hlt

/-- Two tables have the same rows of a kind. -/
def AgreeOn (p : α → Prop) (t t' : Table α) : Prop := ∀ r, p r → (r ∈ t.rows ↔ r ∈ t'.rows)

theorem AgreeOn.filter_eq {p : α → Bool} {t t' : Table α} (h : AgreeOn (fun r => p r) t t') :
    t.rows.filter p = t'.rows.filter p := by
  have hirrefl : Std.Irrefl fun a b : α => Row.id a < Row.id b := ⟨fun _ => Nat.lt_irrefl _⟩
  have hantisymm : Std.Antisymm fun a b : α => Row.id a < Row.id b :=
    ⟨fun _ _ hab hba => absurd hba hab.not_gt⟩
  apply List.Pairwise.eq_of_mem_iff (r := fun a b : α => Row.id a < Row.id b)
  · exact t.ascending.filter _
  · exact t'.ascending.filter _
  · intro r
    simp only [List.mem_filter]
    constructor
    · exact fun ⟨hr, hp⟩ => ⟨(h r hp).mp hr, hp⟩
    · exact fun ⟨hr, hp⟩ => ⟨(h r hp).mpr hr, hp⟩

end WorkspaceHome.Table
