/-!
# Tables

A `Table` holds rows in the order of their ids. It numbers them itself: a new row takes the number
after the last one ever given, so that the id of a deleted row is never used again. That ids rise
and that none lies beyond the last number are part of the type.
-/

namespace WorkspaceHome

/-- Rows that have an id. -/
class Row (α : Type) where
  id : α → Nat

/-- Rows in the order of their ids, and the last id that has been given. -/
structure Table (α : Type) [Row α] where
  rows : List α
  last : Nat
  ascending : rows.Pairwise fun a b => Row.id a < Row.id b
  bounded : ∀ r ∈ rows, Row.id r ≤ last

namespace Table

variable {α : Type} [Row α]

/-- The table without rows. -/
def empty : Table α := ⟨[], 0, .nil, by simp⟩

instance : Inhabited (Table α) := ⟨empty⟩

/-- The id of the next row. -/
def next (t : Table α) : Nat := t.last + 1

/-- The row with an id. -/
def find? (t : Table α) (id : Nat) : Option α := t.rows.find? fun r => Row.id r == id

/-- Adds a row, which has to carry the next id. -/
def insert (t : Table α) (r : α) (numbered : Row.id r = t.next) : Table α where
  rows := t.rows ++ [r]
  last := t.next
  ascending := by
    refine List.pairwise_append.2 ⟨t.ascending, List.pairwise_singleton _ _, ?_⟩
    intro a ha b hb
    have h := t.bounded a ha
    simp only [List.mem_singleton] at hb
    subst hb
    unfold next at numbered
    omega
  bounded := by
    intro a ha
    rcases List.mem_append.1 ha with h | h
    · exact Nat.le_succ_of_le (t.bounded a h)
    · simp only [List.mem_singleton] at h
      subst h
      exact Nat.le_of_eq numbered

/-- Changes the row with an id. -/
def modify (t : Table α) (id : Nat) (change : α → α) (keeps : ∀ r, Row.id (change r) = Row.id r) :
    Table α where
  rows := t.rows.map fun r => if Row.id r = id then change r else r
  last := t.last
  ascending := by
    refine List.pairwise_map.2 (t.ascending.imp ?_)
    intro a b h
    split <;> split <;> simp_all
  bounded := by
    intro a ha
    obtain ⟨r, hr, rfl⟩ := List.mem_map.1 ha
    have h := t.bounded r hr
    split
    · rw [keeps]; exact h
    · exact h

/-- Keeps the rows that a predicate holds of; their ids stay given. -/
def filter (t : Table α) (keep : α → Bool) : Table α where
  rows := t.rows.filter keep
  last := t.last
  ascending := t.ascending.filter _
  bounded := fun a ha => t.bounded a ((List.mem_filter.1 ha).1)

/-- Drops the row with an id. -/
def erase (t : Table α) (id : Nat) : Table α := t.filter fun r => Row.id r != id

/-- The number of rows. -/
def size (t : Table α) : Nat := t.rows.length

end Table

end WorkspaceHome
