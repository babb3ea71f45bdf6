import WorkspaceHome.Applications
import WorkspaceHome.Proofs.Workspaces

/-!
# How a lookup by a key ends

A key matches an application whose id it denotes, and a workspace whose id it denotes or whose slug
it is. Of the rows that a key matches the oldest one is selected (`Table.Selects`). Whatever the key
is, a user who looks it up gets the selected row, or is told that there is none or that the user is
no member; but a key that looks like a number and cannot be read is a failure of its own
(`Lookup.Ends`, `Lookup.IsExact`).
-/

namespace WorkspaceHome

open Service

namespace Table

variable {α : Type} [Row α] {t : Table α} {Matches : α → Prop} {p : α → Bool} {r r' : α}

/-- The row of a table that is selected among those that match: the oldest one. -/
def Selects (t : Table α) (Matches : α → Prop) (r : α) : Prop :=
  r ∈ t.rows ∧ Matches r ∧ ∀ r' ∈ t.rows, Row.id r' < Row.id r → ¬ Matches r'

theorem Selects.unique (h : t.Selects Matches r) (h' : t.Selects Matches r') : r = r' := by
  obtain ⟨hr, hmatch, hfirst⟩ := h
  obtain ⟨hr', hmatch', hfirst'⟩ := h'
  apply Table.eq_of_id_eq hr hr'
  rcases Nat.lt_trichotomy (Row.id r) (Row.id r') with hlt | heq | hlt
  · exact absurd hmatch (hfirst' r hr hlt)
  · exact heq
  · exact absurd hmatch' (hfirst r' hr' hlt)

/-- What is found by going through the rows is the selected row. -/
theorem selects_of_find? (hp : ∀ r, p r = true ↔ Matches r) (h : t.rows.find? p = some r) :
    t.Selects Matches r := by
  obtain ⟨hr, hmatch, hfirst⟩ := find?_rows_eq_some_iff.mp h
  refine ⟨hr, (hp r).mp hmatch, fun r' hr' hlt hmatch' => ?_⟩
  rw [← hp, hfirst r' hr' hlt] at hmatch'
  cases hmatch'

end Table

namespace Lookup

variable {α : Type} [Row α]

/-- How looking up a key in a table ends, when some rows match the key and the user is admitted to
some: a row is given, or it is told that there is none or that the user is not admitted to it, or
the key cannot be read. -/
inductive Ends (t : Table α) (key : String) (Matches Admits : α → Prop) (absence : String)
    (exclusion : α → String) : Except Failure α → Prop
  | unreadable (hkey : Key.Unreadable key) :
      Ends t key Matches Admits absence exclusion (.error .malformed)
  | missing (hkey : ¬ Key.Unreadable key) (hnone : ∀ r ∈ t.rows, ¬ Matches r) :
      Ends t key Matches Admits absence exclusion (.error (.refuse .notFound absence))
  | denied (hkey : ¬ Key.Unreadable key) {r : α} (hr : t.Selects Matches r) (hout : ¬ Admits r) :
      Ends t key Matches Admits absence exclusion
        (.error (.refuse .permissionDenied (exclusion r)))
  | found (hkey : ¬ Key.Unreadable key) {r : α} (hr : t.Selects Matches r) (hin : Admits r) :
      Ends t key Matches Admits absence exclusion (.ok r)

/-- A lookup gives a row exactly if it is the selected one and the user is admitted to it, it tells
that there is none exactly if no row matches, it denies a row exactly if it is the selected one and
the user is not admitted to it, and it does nothing else, unless the key cannot be read; exactly
then it is a failure. -/
structure IsExact (t : Table α) (key : String) (Matches Admits : α → Prop) (absence : String)
    (exclusion : α → String) (outcome : Except Failure α) : Prop where
  found : ∀ r, outcome = .ok r ↔ ¬ Key.Unreadable key ∧ t.Selects Matches r ∧ Admits r
  missing : outcome = .error (.refuse .notFound absence) ↔
    ¬ Key.Unreadable key ∧ ∀ r ∈ t.rows, ¬ Matches r
  denied : ∀ r, t.Selects Matches r →
    (outcome = .error (.refuse .permissionDenied (exclusion r)) ↔
      ¬ Key.Unreadable key ∧ ¬ Admits r)
  unreadable : outcome = .error .malformed ↔ Key.Unreadable key
  total : ¬ Key.Unreadable key → (∃ r, outcome = .ok r) ∨
    outcome = .error (.refuse .notFound absence) ∨
      ∃ r, t.Selects Matches r ∧ outcome = .error (.refuse .permissionDenied (exclusion r))

variable {t : Table α} {key : String} {Matches Admits : α → Prop} {absence : String}
  {exclusion : α → String} {outcome : Except Failure α}

/-- What is answered when a row is found, or none. -/
def answer (admits : α → Bool) (absence : String) (exclusion : α → String) :
    Option α → Except Failure α
  | none => .error (.refuse .notFound absence)
  | some r => if admits r then .ok r else .error (.refuse .permissionDenied (exclusion r))

/-- The end of a lookup that takes the first row that matches. -/
theorem Ends.of_find? {p admits : α → Bool} {found : Option α} (hfound : t.rows.find? p = found)
    (hp : ∀ r, p r = true ↔ Matches r) (hkey : ¬ Key.Unreadable key) :
    Ends t key Matches (admits · = true) absence exclusion
      (answer admits absence exclusion found) := by
  unfold answer
  cases found with
  | none =>
    exact .missing hkey fun r hr hmatch => List.find?_eq_none.mp hfound r hr ((hp r).mpr hmatch)
  | some r =>
    have hselects := Table.selects_of_find? hp hfound
    dsimp only
    split_ifs with hadmits
    · exact .found hkey hselects hadmits
    · exact .denied hkey hselects hadmits

/-- The ends of a lookup exclude each other. -/
theorem Ends.isExact (h : Ends t key Matches Admits absence exclusion outcome) :
    IsExact t key Matches Admits absence exclusion outcome := by
  cases h with
  -- each end decides every part of the specification at once
  | unreadable hkey =>
    constructor <;> simp [hkey, Failure.refuse]
  | missing hkey hnone =>
    -- without a matching row none is selected
    have hno (r : α) : ¬ t.Selects Matches r := fun hr => hnone r hr.1 hr.2.1
    constructor
    · simp [hno]
    · simp only [true_iff]
      exact ⟨hkey, hnone⟩
    · exact fun r hr => absurd hr (hno r)
    · simp [hkey, Failure.refuse]
    · exact fun _ => Or.inr (Or.inl rfl)
  -- the first matching row is the only one that is selected, so it alone is looked at
  | @denied hkey r hr hout =>
    have hsome : ¬ ∀ r ∈ t.rows, ¬ Matches r := fun hnone => hnone r hr.1 hr.2.1
    have honly (r' : α) (hr' : t.Selects Matches r') : r' = r := hr'.unique hr
    constructor
    · intro r'
      simp only [reduceCtorEq, false_iff, not_and]
      intro _ hr'
      rwa [honly r' hr']
    · simp [hkey, hsome, Failure.refuse, Refusal.of]
    · intro r' hr'
      simp [honly r' hr', hkey, hout]
    · simp [hkey, Failure.refuse]
    · exact fun _ => Or.inr (Or.inr ⟨r, hr, rfl⟩)
  | @found hkey r hr hin =>
    have hsome : ¬ ∀ r ∈ t.rows, ¬ Matches r := fun hnone => hnone r hr.1 hr.2.1
    have honly (r' : α) (hr' : t.Selects Matches r') : r' = r := hr'.unique hr
    constructor
    · intro r'
      constructor
      · intro heq
        obtain rfl : r = r' := Except.ok.inj heq
        exact ⟨hkey, hr, hin⟩
      · rintro ⟨-, hr', -⟩
        rw [honly r' hr']
    · simp [hsome]
    · intro r' hr'
      simp [honly r' hr', hin]
    · simp [hkey]
    · exact fun _ => Or.inl ⟨r, rfl⟩

end Lookup

/-- A key that is read is read as the ids that it denotes. -/
theorem keyNumber_ok_iff {key : String} {number : Option ℤ} (h : keyNumber key = .ok number)
    (n : ℕ) : number = some (n : ℤ) ↔ Key.Denotes key n := by
  rw [← keyNumber_eq_some_iff, h, Except.ok.injEq]

theorem not_unreadable_of_keyNumber {key : String} {number : Option ℤ}
    (h : keyNumber key = .ok number) : ¬ Key.Unreadable key := by
  intro hkey
  rw [keyNumber_eq_error_iff.mpr ⟨rfl, hkey⟩] at h
  cases h

/-! ### Applications -/

namespace Applications

/-- What it is told of a key to which no application belongs. -/
def absence (key : String) : String := "Application '" ++ key ++ "' not found."

/-- What a user is told who is no member of the workspace of an application. -/
def exclusion : String := "You do not have access to this application."

/-- The application whose id a key denotes is the selected one. -/
theorem selects_of_denotes {s : Store} {key : String} {a : Application}
    (ha : a ∈ s.applications.rows) (h : Key.Denotes key a.id) :
    s.applications.Selects (fun a => Key.Denotes key a.id) a := by
  refine ⟨ha, h, fun b _ hlt hb => ?_⟩
  have hid : b.id = a.id := hb.unique h
  exact hlt.ne hid

/-- **How finding an application ends**, for every key; it changes nothing. -/
theorem exec_find (key : Json) (u : User) (s : Site) :
    ∃ outcome, (find key (.user u)).exec s = (outcome, s) ∧
      Lookup.Ends s.store.applications key.display (fun a => Key.Denotes key.display a.id)
        (fun a => s.store.isMember a.workspace u.id = true) (absence key.display)
        (fun _ => exclusion) outcome := by
  unfold find
  dsimp only
  rcases hnumber : keyNumber key.display with e | number
  · obtain ⟨rfl, hkey⟩ := keyNumber_eq_error_iff.mp hnumber
    exact ⟨_, rfl, .unreadable hkey⟩
  · rw [exec_settle_ok_bind, exec_ask_bind]
    generalize hfound : s.store.applications.rows.find? _ = found
    refine ⟨_, ?_, Lookup.Ends.of_find? hfound (fun a => ?_) (not_unreadable_of_keyNumber hnumber)⟩
    · cases found with
      | none => rfl
      | some a =>
        have hadmits : (Workspaces.admits a.workspace (.user u)).exec s =
            (.ok (s.store.isMember a.workspace u.id), s) := rfl
        dsimp only [Lookup.answer]
        rw [exec_bind_ok hadmits]
        split_ifs
        · rfl
        · rfl
    · rw [beq_iff_eq, keyNumber_ok_iff hnumber]

end Applications

/-! ### Workspaces -/

namespace Workspaces

/-- What it is told of a key to which no workspace belongs. -/
def absence (key : String) : String := "Workspace '" ++ key ++ "' not found."

/-- What a user is told who is no member of a workspace. -/
def exclusion (w : Workspace) : String := "You are not a member of workspace '" ++ w.slug ++ "'."

/-- **How looking up a workspace ends**, for every key. -/
theorem ends_lookup (s : Store) (user : ℕ) (key : String) :
    Lookup.Ends s.workspaces key (fun w => Key.Denotes key w.id ∨ w.slug = key)
      (fun w => s.isMember w.id user = true) (absence key) exclusion (s.lookup user key) := by
  unfold Store.lookup
  rcases hnumber : keyNumber key with e | number
  · obtain ⟨rfl, hkey⟩ := keyNumber_eq_error_iff.mp hnumber
    exact .unreadable hkey
  · have hends : Lookup.Ends s.workspaces key (fun w => Key.Denotes key w.id ∨ w.slug = key)
        (fun w => s.isMember w.id user = true) (absence key) exclusion
        (Lookup.answer (fun w => s.isMember w.id user) (absence key) exclusion
          (s.workspaceAt? number key)) := by
      refine Lookup.Ends.of_find? rfl (fun w => ?_) (not_unreadable_of_keyNumber hnumber)
      rw [Bool.or_eq_true, beq_iff_eq, beq_iff_eq, keyNumber_ok_iff hnumber]
    dsimp only
    cases hfound : s.workspaceAt? number key with
    | none => rwa [hfound] at hends
    | some w => rwa [hfound] at hends

end Workspaces

end WorkspaceHome
