import Mathlib.Data.Int.Notation
import Mathlib.Data.List.TakeWhile
import Mathlib.Data.Nat.Digits.Defs
import Mathlib.Data.Nat.Notation
import WorkspaceHome.Number.Numeral

/-!
# Reading rows of digits

A row of digits in the wider sense is read if all of them are decimal digits, of any script, and
they are not too many (`Numeral.int?_of_digits`). The numeral of a natural number is such a row
(`Text.allDigits_toString`), and it is read as this number (`Numeral.int?_toString`).
-/

namespace WorkspaceHome

/-! ### Digits -/

namespace Text

/-- The code points of the blanks, of the signs and of the underscore. -/
def separators : List ℕ :=
  [0x9, 0xA, 0xB, 0xC, 0xD, 0x1C, 0x1D, 0x1E, 0x1F, 0x20, 0x85, 0xA0, 0x1680, 0x2000, 0x2001,
    0x2002, 0x2003, 0x2004, 0x2005, 0x2006, 0x2007, 0x2008, 0x2009, 0x200A, 0x2028, 0x2029, 0x202F,
    0x205F, 0x3000, 0x2B, 0x2D, 0x5F]

theorem isDigit_separators : ∀ n ∈ separators, isDigit (Char.ofNat n) = false := by
  decide +kernel

theorem mem_separators_of_isBlank {c : Char} (h : isBlank c = true) : c.toNat ∈ separators := by
  unfold isBlank at h
  simp only [Bool.or_eq_true, Bool.and_eq_true, decide_eq_true_eq, beq_iff_eq] at h
  simp only [separators, List.mem_cons, List.not_mem_nil, or_false]
  omega

/-- No digit is a blank, a sign or the underscore. -/
theorem not_mem_separators {c : Char} (h : isDigit c = true) : c.toNat ∉ separators := by
  intro hmem
  have hno := isDigit_separators c.toNat hmem
  rw [Char.ofNat_toNat, h] at hno
  cases hno

theorem isBlank_of_isDigit {c : Char} (h : isDigit c = true) : isBlank c = false :=
  Bool.eq_false_iff.mpr fun hblank => not_mem_separators h (mem_separators_of_isBlank hblank)

theorem isDigit_of_isSome {c : Char} (h : (digitValue? c).isSome = true) : isDigit c = true := by
  unfold isDigit
  rw [h, Bool.true_or]

theorem allDigits_eq_true_iff {cs : List Char} :
    allDigits cs = true ↔ cs ≠ [] ∧ ∀ c ∈ cs, isDigit c = true := by
  unfold allDigits
  rw [Bool.and_eq_true, Bool.not_eq_true', List.isEmpty_eq_false_iff, List.all_eq_true]

theorem toNat_bounds_of_isDigit {c : Char} (h : c.isDigit = true) :
    48 ≤ c.toNat ∧ c.toNat ≤ 57 := by
  simpa [Char.isDigit, UInt32.le_iff_toNat_le] using h

/-- An ASCII digit has its place after the zero for its value. -/
theorem digitValue?_of_isDigit {c : Char} (h : c.isDigit = true) :
    digitValue? c = some (c.toNat - 48) := by
  obtain ⟨hlow, hhigh⟩ := toNat_bounds_of_isDigit h
  have hfirst : (decide (0x30 ≤ c.toNat) && decide (c.toNat < 0x30 + 10)) = true := by
    simp only [Bool.and_eq_true, decide_eq_true_eq]
    omega
  -- the zero of ASCII is the first of all zeros
  unfold digitValue?
  rw [show zeros = 0x30 :: zeros.tail from rfl, List.find?_cons, hfirst]
  rfl

/-- Nothing is stripped from a text without blanks. -/
theorem strip_eq_self {cs : List Char} (h : ∀ c ∈ cs, isBlank c = false) : strip cs = cs := by
  have hdrop {ds : List Char} (hds : ∀ c ∈ ds, isBlank c = false) : ds.dropWhile isBlank = ds := by
    cases ds with
    | nil => rfl
    | cons c rest => exact List.dropWhile_cons_of_neg (by simp [hds c List.mem_cons_self])
  unfold strip
  rw [hdrop h, hdrop fun c hc => h c (List.mem_reverse.mp hc), List.reverse_reverse]

/-- The digits by which a natural number is written. -/
theorem isDigit_of_mem_toString {n : ℕ} {c : Char} (h : c ∈ (toString n).toList) :
    c.isDigit = true := by
  rw [Nat.toString_eq_ofList_toDigits, String.toList_ofList] at h
  exact Nat.isDigit_of_mem_toDigits (by decide) (by decide) h

theorem toString_toList_ne_nil (n : ℕ) : (toString n).toList ≠ [] := by
  rw [Nat.toString_eq_ofList_toDigits, String.toList_ofList]
  exact Nat.toDigits_ne_nil

theorem allDigits_toString (n : ℕ) : allDigits (toString n).toList = true := by
  rw [allDigits_eq_true_iff]
  refine ⟨toString_toList_ne_nil n, fun c hc => isDigit_of_isSome ?_⟩
  rw [digitValue?_of_isDigit (isDigit_of_mem_toString hc), Option.isSome_some]

end Text

namespace Numeral

open Text

/-! ### Rows of digits -/

/-- The positional value of a row of digits, the first one weighing most. -/
theorem ofDigits_eq (digits : List ℕ) : ofDigits digits = Nat.ofDigits 10 digits.reverse := by
  rw [Nat.ofDigits_eq_foldr, List.foldr_reverse]
  unfold ofDigits
  congr 1
  funext n d
  rw [Nat.cast_id]
  omega

/-- Without underscores the digits that are split off are those up to the first other character. -/
theorem splitDigits_of_notMem {cs : List Char} (h : '_' ∉ cs) :
    splitDigits cs = ((cs.takeWhile fun c => (digitValue? c).isSome).filterMap digitValue?,
      cs.dropWhile fun c => (digitValue? c).isSome) := by
  induction cs with
  | nil => rw [splitDigits]; rfl
  | cons c rest ih =>
    have hplain : ∀ (e : Char) (more : List Char), rest = '_' :: e :: more → False := by
      rintro e more rfl
      exact h (List.mem_cons_of_mem _ List.mem_cons_self)
    rw [splitDigits.eq_3 c rest hplain, ih fun hmem => h (List.mem_cons_of_mem _ hmem)]
    cases hvalue : digitValue? c with
    | none => simp [hvalue]
    | some d => simp [hvalue]

/-- The values of a row of decimal digits. -/
theorem map_digitValue? {cs : List Char} (h : ∀ c ∈ cs, (digitValue? c).isSome = true) :
    cs.map digitValue? = (cs.filterMap digitValue?).map some := by
  induction cs with
  | nil => rfl
  | cons c rest ih =>
    obtain ⟨hc, hrest⟩ := List.forall_mem_cons.mp h
    obtain ⟨d, hd⟩ := Option.isSome_iff_exists.mp hc
    rw [List.map_cons, List.filterMap_cons_some hd, List.map_cons, ih hrest, hd]

theorem filterMap_digitValue? {cs : List Char} {values : List ℕ}
    (h : cs.map digitValue? = values.map some) : cs.filterMap digitValue? = values :=
  calc cs.filterMap digitValue?
      = (cs.map digitValue?).filterMap id := by rw [List.filterMap_map, Function.id_comp]
    _ = (values.map some).filterMap id := by rw [h]
    _ = values := by rw [List.filterMap_map, Function.id_comp, List.filterMap_some]

/-- A row of digits in the wider sense is read if all of them are decimal and they are not too
many. -/
theorem int?_of_digits {key : String} (hne : key.toList ≠ [])
    (hdigits : ∀ c ∈ key.toList, isDigit c = true) :
    int? key =
      if (key.toList.all fun c => (digitValue? c).isSome) = true ∧ key.length ≤ digitLimit then
        some (ofDigits (key.toList.filterMap digitValue?) : ℤ)
      else none := by
  -- digits are neither signs nor blanks nor separators, so the text is read as it stands
  have hno (c : Char) (hc : c.toNat ∈ separators) : c ∉ key.toList := fun hmem =>
    not_mem_separators (hdigits c hmem) hc
  have hsign : splitSign key.toList = (false, key.toList) := by
    unfold splitSign
    split
    · rename_i heq
      exact absurd (heq ▸ List.mem_cons_self) (hno '-' (by decide))
    · rename_i heq
      exact absurd (heq ▸ List.mem_cons_self) (hno '+' (by decide))
    · rfl
  unfold int?
  rw [strip_eq_self fun c hc => isBlank_of_isDigit (hdigits c hc), hsign]
  dsimp only
  rw [splitDigits_of_notMem (hno '_' (by decide))]
  by_cases hall : ∀ c ∈ key.toList, (digitValue? c).isSome = true
  -- all values are there, and as many as there are characters
  · have hlength : (key.toList.filterMap digitValue?).length = key.length := by
      rw [← List.length_map (f := some), ← map_digitValue? hall, List.length_map,
        String.length_toList]
    have hvalues : key.toList.filterMap digitValue? ≠ [] := by
      rw [← List.length_pos_iff, hlength, ← String.length_toList]
      exact List.length_pos_iff.mpr hne
    obtain ⟨d, ds, hcons⟩ := List.exists_cons_of_ne_nil hvalues
    rw [List.takeWhile_eq_self_iff.mpr hall, List.dropWhile_eq_nil_iff.mpr hall, hcons]
    rw [hcons] at hlength
    dsimp only
    rw [hlength, if_neg Bool.false_ne_true]
    by_cases hlong : digitLimit < key.length
    · rw [if_pos hlong, if_neg fun h => hlong.not_ge h.2]
    · rw [if_neg hlong, if_pos ⟨List.all_eq_true.mpr hall, not_lt.mp hlong⟩]
  -- the first digit without a value is not split off
  · have hrest : key.toList.dropWhile (fun c => (digitValue? c).isSome) ≠ [] :=
      mt List.dropWhile_eq_nil_iff.mp hall
    obtain ⟨c, cs, hcons⟩ := List.exists_cons_of_ne_nil hrest
    rw [hcons, if_neg fun h => hall (List.all_eq_true.mp h.1)]
    cases (key.toList.takeWhile fun c => (digitValue? c).isSome).filterMap digitValue? with
    | nil => rfl
    | cons d ds => rfl

/-! ### The numeral of a number -/

/-- The digits of the numeral of a number stand for this number. -/
theorem ofDigits_toString (n : ℕ) : ofDigits ((toString n).toList.map (·.toNat - 48)) = n := by
  rw [Nat.toString_eq_ofList_toDigits, String.toList_ofList]
  calc ofDigits ((Nat.toDigits 10 n).map (·.toNat - 48))
      = Nat.ofDigitChars 10 (Nat.toDigits 10 n) 0 := by
        unfold ofDigits Nat.ofDigitChars
        rw [List.foldl_map]
        simp only [Nat.mul_comm 10]
        rfl
    _ = n := Nat.ofDigitChars_ten_toDigits

theorem toString_injective : Function.Injective (toString : ℕ → String) := by
  intro m n h
  rw [← ofDigits_toString m, h, ofDigits_toString]

/-- **The numeral of a number** is read as the number, unless it has too many digits. -/
theorem int?_toString (n : ℕ) :
    int? (toString n) = if digitLimit < (toString n).length then none else some (n : ℤ) := by
  obtain ⟨hne, hdigits⟩ := allDigits_eq_true_iff.mp (allDigits_toString n)
  have hvalues : (toString n).toList.map digitValue? =
      ((toString n).toList.map (·.toNat - 48)).map some := by
    rw [List.map_map]
    exact List.map_congr_left fun c hc => digitValue?_of_isDigit (isDigit_of_mem_toString hc)
  have hall : ((toString n).toList.all fun c => (digitValue? c).isSome) = true := by
    refine List.all_eq_true.mpr fun c hc => ?_
    rw [digitValue?_of_isDigit (isDigit_of_mem_toString hc), Option.isSome_some]
  rw [int?_of_digits hne hdigits, filterMap_digitValue? hvalues, ofDigits_toString]
  by_cases hlong : digitLimit < (toString n).length
  · rw [if_neg fun h => hlong.not_ge h.2, if_pos hlong]
  · rw [if_pos ⟨hall, not_lt.mp hlong⟩, if_neg hlong]

end Numeral

end WorkspaceHome
