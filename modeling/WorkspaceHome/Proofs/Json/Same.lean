import Mathlib.Algebra.Order.Field.Rat
import Mathlib.Tactic.FieldSimp
import Mathlib.Tactic.NormNum
import Mathlib.Tactic.Ring
import WorkspaceHome.Failure

/-!
# Equality of values by keys

Two values that hold no others are equal exactly if they have the same key (`Json.same_iff_key`): a
number its rational value, a text its characters. Not-a-number has no key and equals nothing. So
`Json.same` is symmetric and transitive on these values (`Json.same_comm`, `Json.same_trans`), and
reflexive where there is a key; integers and texts are equal only to themselves.
-/

namespace WorkspaceHome

/-- What a value that holds no others is equal by. -/
inductive Key where
  | null
  | text (s : String)
  | torn (codes : List Nat)
  | number (q : ℚ)
  | infinite (negative : Bool)

/-! ### Numbers -/

namespace Binary64

/-- The rational value of `± mantissa * 2 ^ exponent`. -/
def value (negative : Bool) (mantissa : ℕ) (exponent : ℤ) : ℚ :=
  (if negative then -1 else 1) * mantissa * 2 ^ exponent

/-- The key of a number; not-a-number has none. -/
def key : Binary64 → Option Key
  | .finite s m e => some (.number (value s m e))
  | .infinite s => some (.infinite s)
  | .nan => none

/-- The key of a number is a rational or an infinity. -/
theorem key_cases {x : Binary64} {k : Key} (h : x.key = some k) :
    (∃ q, k = .number q) ∨ ∃ s, k = .infinite s := by
  cases x <;> simp [key] at h <;> simp [← h]

/-- A number at a lower exponent has the mantissa that `same` compares. -/
theorem value_eq_scaled (s : Bool) (m : ℕ) {low e : ℤ} (h : low ≤ e) :
    value s m e = value s (m * power 2 (e - low)) low := by
  have hpow : (2 : ℚ) ^ e = 2 ^ (e - low).toNat * 2 ^ low := by
    rw [← zpow_natCast, ← zpow_add₀ (by norm_num)]
    congr 1
    omega
  unfold value power
  rw [hpow, Nat.pow_eq]
  push_cast
  ring

/-- At one exponent, values are equal when the mantissas are and the signs too, unless they are
zero. -/
theorem value_inj (s t : Bool) (m n : ℕ) (e : ℤ) :
    value s m e = value t n e ↔ m = n ∧ (m = 0 ∨ s = t) := by
  have hpos : (2 : ℚ) ^ e ≠ 0 := zpow_ne_zero _ (by norm_num)
  have hinjective : Function.Injective (Int.cast : ℤ → ℚ) := Int.cast_injective
  -- the power cancels, and what is left is a comparison of whole numbers
  have hcast : value s m e = value t n e ↔
      (if s then -1 else 1 : ℤ) * m = (if t then -1 else 1 : ℤ) * n := by
    unfold value
    rw [mul_left_inj' hpos]
    constructor
    · intro h
      apply hinjective
      push_cast
      cases s <;> cases t <;> simpa using h
    · intro h
      have h' := congrArg (Int.cast : ℤ → ℚ) h
      push_cast at h'
      cases s <;> cases t <;> simpa using h'
  rw [hcast]
  cases s <;> cases t <;> simp <;> omega

theorem same_iff_key (x y : Binary64) :
    x.same y = true ↔ ∃ k, x.key = some k ∧ y.key = some k := by
  cases x with
  | finite s m e =>
    cases y with
    | finite t n f =>
      have hvalues : value s m e = value t n f ↔ Binary64.same (.finite s m e) (.finite t n f) := by
        rw [value_eq_scaled s m (min_le_left e f), value_eq_scaled t n (min_le_right e f),
          value_inj]
        simp [same]
      rw [← hvalues]
      simp [key, eq_comm]
    | _ => simp [key, same]
  | infinite s =>
    cases y with
    | infinite t => cases s <;> cases t <;> simp [key, same]
    | _ => simp [key, same]
  | nan => simp [key, same]

theorem sameInt_iff_key (x : Binary64) (n : ℤ) :
    x.sameInt n = true ↔ x.key = some (.number n) := by
  have hn : value (n < 0) n.natAbs 0 = n := by
    unfold value
    rcases lt_or_ge n 0 with h | h
    · rw [decide_eq_true h, ← Int.cast_natCast, Int.natCast_natAbs, abs_of_neg h]
      simp
    · rw [decide_eq_false h.not_gt, ← Int.cast_natCast, Int.natCast_natAbs, abs_of_nonneg h]
      simp
  unfold sameInt
  rw [same_iff_key]
  simp [key, hn]

end Binary64

/-! ### Values that hold no others -/

namespace Json

/-- The key of a value that holds no others; not-a-number has none. -/
def key : Json → Option Key
  | .null => some .null
  | .bool b => some (.number (if b then 1 else 0))
  | .int n => some (.number n)
  | .float x => x.key
  | .text s => some (.text s)
  | .torn codes => some (.torn codes)
  | .list _ | .object _ => none

@[simp]
theorem key_int (n : ℤ) : (Json.int n).key = some (.number n) := rfl

@[simp]
theorem isScalarValue_int (n : ℤ) : (Json.int n).isScalarValue = true := rfl

theorem sameNumber_iff_key (x y : ℤ ⊕ Binary64) :
    sameNumber x y = true ↔
      ∃ k, x.elim (fun n => some (.number n)) Binary64.key = some k ∧
        y.elim (fun n => some (.number n)) Binary64.key = some k := by
  rcases x with m | x <;> rcases y with n | y
  · simp [sameNumber, eq_comm (a := m)]
  · simp [sameNumber, Binary64.sameInt_iff_key]
  · simp [sameNumber, Binary64.sameInt_iff_key]
  · simp [sameNumber, Binary64.same_iff_key]

theorem sameScalar_iff_key (a b : Json) :
    sameScalar a b = true ↔ ∃ k, a.key = some k ∧ b.key = some k := by
  have hnull (x : Binary64) : x.key ≠ some .null := fun h => by simpa using x.key_cases h
  have htext (x : Binary64) (s : String) : x.key ≠ some (.text s) := fun h => by
    simpa using x.key_cases h
  have htorn (x : Binary64) (s : List ℕ) : x.key ≠ some (.torn s) := fun h => by
    simpa using x.key_cases h
  cases a <;> cases b <;> simp [sameScalar, number?, sameNumber_iff_key, key, hnull, htext, htorn]
  case text.text => exact eq_comm
  case torn.torn => exact eq_comm

theorem isScalarValue_of_key {a : Json} {k : Key} (h : a.key = some k) :
    a.isScalarValue = true := by
  cases a <;> first | rfl | simp [key] at h

/-- **Equality by keys**: if one of two values holds no others, they are equal exactly if they have
the same key. -/
theorem same_iff_key {a b : Json} (h : a.isScalarValue = true ∨ b.isScalarValue = true) :
    a.same b = true ↔ ∃ k, a.key = some k ∧ b.key = some k := by
  have hsame : a.same b = sameScalar a b := by
    cases a <;> cases b <;> simp_all [same, isScalarValue]
  rw [hsame, sameScalar_iff_key]

/-! ### A partial equivalence -/

theorem same_comm {a b : Json} (h : a.isScalarValue = true ∨ b.isScalarValue = true) :
    a.same b = b.same a := by
  rw [Bool.eq_iff_iff, same_iff_key h, same_iff_key h.symm]
  simp only [and_comm]

theorem same_trans {a b c : Json} (hb : b.isScalarValue = true) (hab : a.same b = true)
    (hbc : b.same c = true) : a.same c = true := by
  obtain ⟨k, hak, hbk⟩ := (same_iff_key (Or.inr hb)).mp hab
  obtain ⟨l, hbl, hcl⟩ := (same_iff_key (Or.inl hb)).mp hbc
  obtain rfl : k = l := Option.some.inj (hbk.symm.trans hbl)
  exact (same_iff_key (Or.inl (isScalarValue_of_key hak))).mpr ⟨k, hak, hcl⟩

/-- What is equal to a value that holds no others holds none either. -/
theorem isScalarValue_of_same {a b : Json} (hb : b.isScalarValue = true) (h : a.same b = true) :
    a.isScalarValue = true := by
  obtain ⟨k, hak, -⟩ := (same_iff_key (Or.inr hb)).mp h
  exact isScalarValue_of_key hak

/-- Equal values are equal to the same others. -/
theorem same_congr_left {a b : Json} (c : Json) (hb : b.isScalarValue = true)
    (h : a.same b = true) : a.same c = b.same c := by
  have ha := isScalarValue_of_same hb h
  rw [Bool.eq_iff_iff]
  constructor
  · intro hac
    exact same_trans ha ((same_comm (Or.inl hb)).trans h) hac
  · intro hbc
    exact same_trans hb h hbc

/-- Whether a value is not-a-number. -/
def isNan : Json → Bool
  | .float .nan => true
  | _ => false

/-- A value that holds no others is equal to itself, unless it is not-a-number. -/
theorem same_self_of_not_nan {a : Json} (hscalar : a.isScalarValue = true)
    (hnan : a.isNan = false) : a.same a = true := by
  have hkey : ∃ k, a.key = some k := by
    cases a with
    | float x =>
      cases x with
      | nan => cases hnan
      | _ => exact ⟨_, rfl⟩
    | list items => cases hscalar
    | object members => cases hscalar
    | _ => exact ⟨_, rfl⟩
  obtain ⟨k, hk⟩ := hkey
  exact (same_iff_key (Or.inl hscalar)).mpr ⟨k, hk, hk⟩

theorem isNan_of_isFinite {a : Json} (h : a.isFinite = true) : a.isNan = false := by
  unfold isNan
  split
  · cases h
  · rfl

theorem same_self {a : Json} (hscalar : a.isScalarValue = true) (hfinite : a.isFinite = true) :
    a.same a = true :=
  same_self_of_not_nan hscalar (isNan_of_isFinite hfinite)

theorem same_int_int (m n : ℤ) : (Json.int m).same (.int n) = decide (m = n) := by
  rw [Bool.eq_iff_iff, same_iff_key (Or.inl rfl)]
  simp [eq_comm]

end Json

end WorkspaceHome
