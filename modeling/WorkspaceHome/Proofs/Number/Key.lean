import WorkspaceHome.Proofs.Number.Numeral
import WorkspaceHome.Workspaces

/-!
# Keys that consist of digits

A key is taken for a number if it consists of digits in the wider sense, but only decimal digits
are read, and not too many of them. So a key denotes the number that its decimal digits write
(`Key.Denotes`, `keyNumber_eq_some_iff`), or it is a row of digits that cannot be read, on which
looking it up fails (`Key.Unreadable`, `keyNumber_eq_error_iff`), or it is no number at all.
-/

namespace WorkspaceHome

/-! ### Keys -/

namespace Key

/-- A key denotes a number if it is the number in decimal digits, of any scripts and with any zeros
in front, and not longer than what is read. -/
structure Denotes (key : String) (n : ℕ) : Prop where
  nonempty : key ≠ ""
  short : key.length ≤ Numeral.digitLimit
  digits : ∃ values : List ℕ, key.toList.map Text.digitValue? = values.map some ∧
    Nat.ofDigits 10 values.reverse = n

/-- A key that looks like a number and cannot be read as one: a row of digits in the wider sense
of which one has no value or that is too long. -/
structure Unreadable (key : String) : Prop where
  digits : Text.allDigits key.toList = true
  broken : Numeral.digitLimit < key.length ∨ ∃ c ∈ key.toList, Text.digitValue? c = none

variable {key : String} {n : ℕ}

theorem toList_ne_nil_iff : key.toList ≠ [] ↔ key ≠ "" := by
  rw [Ne, String.toList_eq_nil_iff]

/-- A key denotes a number if it is a row of decimal digits that are not too many, and it is the
number that these are read as. -/
theorem denotes_iff :
    Denotes key n ↔ key ≠ "" ∧ ((key.toList.all fun c => (Text.digitValue? c).isSome) = true ∧
      key.length ≤ Numeral.digitLimit) ∧
        Numeral.ofDigits (key.toList.filterMap Text.digitValue?) = n := by
  constructor
  · rintro ⟨hne, hshort, values, hvalues, rfl⟩
    refine ⟨hne, ⟨List.all_eq_true.mpr fun c hc => ?_, hshort⟩, ?_⟩
    · have hmem : Text.digitValue? c ∈ values.map some := hvalues ▸ List.mem_map_of_mem hc
      obtain ⟨d, -, hd⟩ := List.mem_map.mp hmem
      rw [← hd, Option.isSome_some]
    · rw [Numeral.filterMap_digitValue? hvalues, Numeral.ofDigits_eq]
  · rintro ⟨hne, ⟨hall, hshort⟩, rfl⟩
    have hvalues := Numeral.map_digitValue? (List.all_eq_true.mp hall)
    exact ⟨hne, hshort, _, hvalues, (Numeral.ofDigits_eq _).symm⟩

end Key

variable {key : String} {n : ℕ}

/-- What a key is read as, in its three cases. -/
theorem keyNumber_eq (key : String) :
    keyNumber key =
      if Text.allDigits key.toList = true then
        if (key.toList.all fun c => (Text.digitValue? c).isSome) = true ∧
            key.length ≤ Numeral.digitLimit then
          .ok (some (Numeral.ofDigits (key.toList.filterMap Text.digitValue?) : ℤ))
        else .error .malformed
      else .ok none := by
  unfold keyNumber
  by_cases hdigits : Text.allDigits key.toList = true
  · obtain ⟨hne, hall⟩ := Text.allDigits_eq_true_iff.mp hdigits
    rw [if_pos hdigits, if_pos hdigits, Numeral.int?_of_digits hne hall]
    split_ifs <;> rfl
  · rw [if_neg hdigits, if_neg hdigits]

/-- **A key is read as the number that it denotes.** -/
theorem keyNumber_eq_some_iff : keyNumber key = .ok (some (n : ℤ)) ↔ Key.Denotes key n := by
  rw [keyNumber_eq, Key.denotes_iff]
  constructor
  · intro h
    split_ifs at h with hdigits hread
    · have hne := (Text.allDigits_eq_true_iff.mp hdigits).1
      rw [Except.ok.injEq, Option.some.injEq, Int.natCast_inj] at h
      exact ⟨Key.toList_ne_nil_iff.mp hne, hread, h⟩
    · cases h
  · rintro ⟨hne, hread, hvalue⟩
    have hdigits : Text.allDigits key.toList = true :=
      Text.allDigits_eq_true_iff.mpr ⟨Key.toList_ne_nil_iff.mpr hne, fun c hc =>
        Text.isDigit_of_isSome (List.all_eq_true.mp hread.1 c hc)⟩
    rw [if_pos hdigits, if_pos hread, hvalue]

/-- **A key is a failure if it looks like a number and cannot be read.** -/
theorem keyNumber_eq_error_iff {e : Failure} :
    keyNumber key = .error e ↔ e = .malformed ∧ Key.Unreadable key := by
  have hbroken : ¬ ((key.toList.all fun c => (Text.digitValue? c).isSome) = true ∧
      key.length ≤ Numeral.digitLimit) ↔
        Numeral.digitLimit < key.length ∨ ∃ c ∈ key.toList, Text.digitValue? c = none := by
    rw [not_and_or, not_le, Or.comm, List.all_eq_true, not_forall]
    simp only [exists_prop, not_forall, Bool.not_eq_true, Option.isSome_eq_false_iff,
      Option.isNone_iff_eq_none]
  rw [keyNumber_eq]
  constructor
  · intro h
    split_ifs at h with hdigits hread
    · cases h
      exact ⟨rfl, hdigits, hbroken.mp hread⟩
  · rintro ⟨rfl, hdigits, h⟩
    rw [if_pos hdigits, if_neg (hbroken.mpr h)]

/-- The numeral of a natural number is a key for this number, unless it is too long to be read. -/
theorem keyNumber_toString (n : ℕ) :
    keyNumber (toString n) =
      if (toString n).length ≤ Numeral.digitLimit then .ok (some (n : ℤ))
      else .error .malformed := by
  unfold keyNumber
  rw [if_pos (Text.allDigits_toString n), Numeral.int?_toString]
  by_cases hlong : Numeral.digitLimit < (toString n).length
  · rw [if_pos hlong, if_neg hlong.not_ge]
  · rw [if_neg hlong, if_pos (not_lt.mp hlong)]

namespace Key

/-- A key denotes one number at most. -/
theorem Denotes.unique {m : ℕ} (hm : Denotes key m) (hn : Denotes key n) : m = n := by
  have h := (keyNumber_eq_some_iff.mpr hm).symm.trans (keyNumber_eq_some_iff.mpr hn)
  simpa using h

/-- A key that denotes a number has nothing but decimal digits. -/
theorem Denotes.isSome_digitValue? (h : Denotes key n) {c : Char} (hc : c ∈ key.toList) :
    (Text.digitValue? c).isSome = true :=
  List.all_eq_true.mp (denotes_iff.mp h).2.1.1 c hc

/-- An unreadable key denotes nothing. -/
theorem Unreadable.not_denotes (h : Unreadable key) : ¬ Denotes key n := by
  intro hn
  have hfailed := keyNumber_eq_error_iff.mpr ⟨rfl, h⟩
  rw [keyNumber_eq_some_iff.mpr hn] at hfailed
  cases hfailed

/-- The numeral of a number that is not too long denotes the number. -/
theorem denotes_toString (h : (toString n).length ≤ Numeral.digitLimit) :
    Denotes (toString n) n := by
  rw [← keyNumber_eq_some_iff, keyNumber_toString, if_pos h]

end Key

end WorkspaceHome
