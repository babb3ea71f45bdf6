import Mathlib.Data.List.Basic
import WorkspaceHome.Text.Percent

/-!
# Percent encoding keeps texts apart

The written form of a form value is read back in two steps: a plus is a space, and then the bytes
behind percent signs are taken (`readForm_encodeForm`). So the written form determines the value
(`encodeForm_injective`). In it stand unreserved characters, pluses and percent signs only
(`mem_encodeForm`).
-/

namespace WorkspaceHome.Text

/-! ### UTF-8 -/

/-- The bytes of a character tell which character it is, whatever follows. -/
theorem eq_of_bytes_append {c d : Char} {bs bs' : List UInt8}
    (h : String.utf8EncodeChar c ++ bs = String.utf8EncodeChar d ++ bs') : c = d := by
  have hread (e : Char) (rest : List UInt8) :
      (String.utf8EncodeChar e ++ rest).toByteArray.utf8DecodeChar? 0 = some e := by
    rw [List.toByteArray_append]
    exact ByteArray.utf8DecodeChar?_utf8EncodeChar_append
  have hc := hread c bs
  rw [h] at hc
  exact Option.some.inj (hc.symm.trans (hread d bs'))

theorem encodeUtf8_injective : Function.Injective encodeUtf8 := by
  have hne (c : Char) (cs : List Char) : encodeUtf8 (c :: cs) ≠ [] := by
    intro h
    have hlength := String.length_utf8EncodeChar c
    rw [(List.append_eq_nil_iff.mp h).1] at hlength
    exact absurd hlength.symm (Nat.ne_of_gt c.utf8Size_pos)
  intro cs
  induction cs with
  | nil =>
    intro ds h
    cases ds with
    | nil => rfl
    | cons d ds => exact absurd h.symm (hne d ds)
  | cons c cs ih =>
    intro ds h
    cases ds with
    | nil => exact absurd h (hne c cs)
    | cons d ds =>
      have h : String.utf8EncodeChar c ++ encodeUtf8 cs =
        String.utf8EncodeChar d ++ encodeUtf8 ds := h
      obtain rfl := eq_of_bytes_append h
      rw [ih (List.append_cancel_left h)]

namespace Percent

/-! ### Classes of characters -/

theorem toNat_lt_of_isUnreserved {c : Char} (h : isUnreserved c = true) : c.toNat < 128 := by
  have hbelow {last : UInt32} (hlast : last.toNat < 128) (hc : c.val ≤ last) : c.toNat < 128 :=
    Nat.lt_of_le_of_lt hc hlast
  have halphanum (hc : c.isAlphanum = true) : c.toNat < 128 := by
    rcases Bool.or_eq_true_iff.mp hc with hletter | hdigit
    · rcases Bool.or_eq_true_iff.mp hletter with hupper | hlower
      · exact hbelow (by decide) (of_decide_eq_true hupper).2
      · exact hbelow (by decide) (of_decide_eq_true (Bool.and_eq_true_iff.mp hlower).2)
    · exact hbelow (by decide) (of_decide_eq_true (Bool.and_eq_true_iff.mp hdigit).2)
  unfold isUnreserved at h
  simp only [Bool.or_eq_true, beq_iff_eq] at h
  rcases h with (((h | rfl) | rfl) | rfl) | rfl
  · exact halphanum h
  all_goals decide

/-- What holds of the unreserved ASCII characters holds of all unreserved ones. -/
theorem of_isUnreserved {p : Char → Bool}
    (hall : ∀ n : Fin 128, isUnreserved (Char.ofNat n) = true → p (Char.ofNat n) = true) {c : Char}
    (h : isUnreserved c = true) : p c = true := by
  have hp := hall ⟨c.toNat, toNat_lt_of_isUnreserved h⟩
  rw [Char.ofNat_toNat] at hp
  exact hp h

/-! ### Bytes -/

theorem hexDigit?_upperDigit {n : ℕ} (h : n < 16) : hexDigit? (upperDigit n) = some n := by
  have hall : ∀ k : Fin 16, hexDigit? (upperDigit k) = some k.val := by decide
  exact hall ⟨n, h⟩

theorem isUnreserved_upperDigit {n : ℕ} (h : n < 16) : isUnreserved (upperDigit n) = true := by
  have hall : ∀ k : Fin 16, isUnreserved (upperDigit k) = true := by decide
  exact hall ⟨n, h⟩

/-- Bytes are written by percent signs and digits. -/
theorem mem_escapes {bs : List UInt8} {x : Char} (h : x ∈ bs.flatMap escapeByte) :
    x = '%' ∨ isUnreserved x = true := by
  obtain ⟨b, -, hx⟩ := List.mem_flatMap.mp h
  have hb : b.toNat < 256 := b.toNat_lt
  simp only [escapeByte, List.mem_cons, List.not_mem_nil, or_false] at hx
  rcases hx with rfl | rfl | rfl
  · exact Or.inl rfl
  · exact Or.inr (isUnreserved_upperDigit (by omega))
  · exact Or.inr (isUnreserved_upperDigit (by omega))

/-- Bytes that are written are read back. -/
theorem decode_escapes (bs : List UInt8) (rest : List Char) :
    decode (bs.flatMap escapeByte ++ rest) = bs ++ decode rest := by
  induction bs with
  | nil => rfl
  | cons b bs ih =>
    have hb : b.toNat < 256 := b.toNat_lt
    rw [List.flatMap_cons, List.append_assoc, escapeByte, List.cons_append, List.cons_append,
      List.cons_append, List.nil_append, decode, hexDigit?_upperDigit (by omega),
      hexDigit?_upperDigit (by omega)]
    dsimp only
    rw [show b.toNat / 16 * 16 + b.toNat % 16 = b.toNat by omega, UInt8.ofNat_toNat, ih,
      List.cons_append]

/-- A character other than the percent sign stands for its own bytes. -/
theorem decode_cons {c : Char} (h : c ≠ '%') (rest : List Char) :
    decode (c :: rest) = String.utf8EncodeChar c ++ decode rest := by
  rw [decode]
  · simp [encodeUtf8]
  · exact fun _ _ _ hc => absurd hc h

/-! ### Form values -/

/-- A character of a form value as it is written. -/
def written (c : Char) : List Char := if c == ' ' then ['+'] else encode isUnreserved [c]

/-- The three ways of writing a character. -/
theorem written_cases (c : Char) :
    (c = ' ' ∧ written c = ['+']) ∨ (isUnreserved c = true ∧ written c = [c]) ∨
      written c = (String.utf8EncodeChar c).flatMap escapeByte := by
  unfold written
  by_cases hspace : c = ' '
  · exact Or.inl ⟨hspace, by rw [if_pos (beq_iff_eq.mpr hspace)]⟩
  · rw [if_neg fun h => hspace (beq_iff_eq.mp h)]
    by_cases hsafe : isUnreserved c = true
    · exact Or.inr (Or.inl ⟨hsafe, by simp [encode, hsafe]⟩)
    · exact Or.inr (Or.inr (by simp [encode, hsafe, encodeUtf8]))

/-- The characters of a written form. -/
theorem mem_encodeForm {cs : List Char} {x : Char} (h : x ∈ encodeForm cs) :
    isUnreserved x = true ∨ x = '+' ∨ x = '%' := by
  obtain ⟨c, -, hx⟩ := List.mem_flatMap.mp h
  have hx : x ∈ written c := hx
  rcases written_cases c with ⟨-, hc⟩ | ⟨hsafe, hc⟩ | hc <;> rw [hc] at hx
  · exact Or.inr (Or.inl (List.mem_singleton.mp hx))
  · rw [List.mem_singleton.mp hx]
    exact Or.inl hsafe
  · exact (mem_escapes hx).elim (fun h => Or.inr (Or.inr h)) Or.inl

/-- The bytes of a form value in its written form. -/
def readForm (cs : List Char) : List UInt8 := decode (cs.map fun c => if c = '+' then ' ' else c)

theorem readForm_written (c : Char) (rest : List Char) :
    readForm (written c ++ rest) = String.utf8EncodeChar c ++ readForm rest := by
  unfold readForm
  rw [List.map_append]
  rcases written_cases c with ⟨rfl, hc⟩ | ⟨hsafe, hc⟩ | hc <;> rw [hc]
  · exact decode_cons (by decide) _
  · have hplus : c ≠ '+' := by
      rintro rfl
      exact absurd hsafe (by decide)
    have hpercent : c ≠ '%' := by
      rintro rfl
      exact absurd hsafe (by decide)
    rw [List.map_singleton, if_neg hplus]
    exact decode_cons hpercent _
  -- no plus stands among the digits of bytes
  · have hsame : ((String.utf8EncodeChar c).flatMap escapeByte).map
        (fun c => if c = '+' then ' ' else c) = (String.utf8EncodeChar c).flatMap escapeByte := by
      refine List.map_congr_left (g := id) (fun x hx => if_neg ?_) |>.trans (List.map_id _)
      rintro rfl
      exact absurd (mem_escapes hx) (by decide)
    rw [hsame, decode_escapes]

/-- **A form value is read back** from its written form. -/
theorem readForm_encodeForm (cs : List Char) : readForm (encodeForm cs) = encodeUtf8 cs := by
  induction cs with
  | nil =>
    show decode [] = []
    rw [decode]
  | cons c cs ih =>
    show readForm (written c ++ encodeForm cs) = String.utf8EncodeChar c ++ encodeUtf8 cs
    rw [readForm_written, ih]

/-- **The written form of a value determines it.** -/
theorem encodeForm_injective : Function.Injective encodeForm := by
  intro cs ds h
  have hread := congrArg readForm h
  rw [readForm_encodeForm, readForm_encodeForm] at hread
  exact encodeUtf8_injective hread

end Percent

end WorkspaceHome.Text
