import WorkspaceHome.Json.Bytes
import WorkspaceHome.Proofs.Json.Everywhere

/-!
# Torn texts in what is read

A torn text is proper if one of its code points stands for no character. The reader makes texts of
code points by `ofCodes` alone, so all torn texts in a value that is read are proper
(`isProper_of_readBytes`), and in particular none is empty. The proof is by induction on the steps
of the reader, with one lemma for each of the three things that it reads.

A key is a string even if it is torn, and its code points can be had back from it
(`codesOfKey_keyOfCodes`).
-/

namespace WorkspaceHome.Json

open Text (CodePoint)

/-- Whether a value is no torn text, or one with a code point that stands for no character. -/
def isProper : Json → Bool
  | .torn codes => !codes.all isScalar
  | _ => true

theorem everywhere_ofCodes (codes : List Nat) :
    (ofCodes codes).everywhere isProper = true := by
  unfold ofCodes
  split_ifs with h
  · rfl
  · simp [everywhere, isProper, h]

/-! ### Keys -/

theorem keyCodes_cons {c : Char} (h : c ≠ keyMark) (rest : List Char) :
    keyCodes (c :: rest) = c.toNat :: keyCodes rest := by
  cases rest with
  | nil => rfl
  | cons d rest => rw [keyCodes, if_neg h]

theorem keyCodes_mark (d : Char) (rest : List Char) :
    keyCodes (keyMark :: d :: rest) =
      (if d = keyMark then d.toNat else d.toNat - 0x100000) :: keyCodes rest := by
  rw [keyCodes, if_pos rfl]

theorem toNat_ofNat_of_isScalar {code : ℕ} (h : isScalar code = true) :
    (Char.ofNat code).toNat = code := by
  have hvalid : code.isValidChar := by
    simp only [isScalar, Bool.or_eq_true, Bool.and_eq_true, decide_eq_true_eq] at h
    unfold Nat.isValidChar
    omega
  rw [Char.ofNat, dif_pos hvalid]
  rfl

/-- What is written for a code point is read as this code point. -/
theorem keyCodes_keyChars {code : ℕ} (h : code < 0x110000) (rest : List Char) :
    keyCodes (keyChars code ++ rest) = code :: keyCodes rest := by
  unfold keyChars
  split_ifs with hmark hscalar
  · exact (keyCodes_mark keyMark rest).trans (by rw [if_pos rfl, hmark])
  · have hchar := toNat_ofNat_of_isScalar hscalar
    rw [List.singleton_append, keyCodes_cons, hchar]
    intro hc
    rw [hc] at hchar
    exact hmark hchar.symm
  · -- a surrogate is moved to the last plane, and not as far as the mark
    have hsurrogate : 0xD800 ≤ code ∧ code ≤ 0xDFFF := by
      simp only [isScalar, Bool.or_eq_true, Bool.and_eq_true, decide_eq_true_eq] at hscalar
      omega
    have hmoved : (Char.ofNat (0x100000 + code)).toNat = 0x100000 + code := by
      refine toNat_ofNat_of_isScalar ?_
      simp only [isScalar, Bool.or_eq_true, Bool.and_eq_true, decide_eq_true_eq]
      omega
    rw [List.cons_append, List.cons_append, List.nil_append, keyCodes_mark, hmoved, if_neg]
    · rw [Nat.add_sub_cancel_left]
    · intro hc
      rw [hc, show keyMark.toNat = 0x10FFFF from rfl] at hmoved
      omega

/-- **A key has the code points of which it is made.** -/
theorem codesOfKey_keyOfCodes {codes : List ℕ} (h : ∀ code ∈ codes, code < 0x110000) :
    codesOfKey (keyOfCodes codes) = codes := by
  unfold codesOfKey keyOfCodes
  rw [String.toList_ofList]
  induction codes with
  | nil => rfl
  | cons code rest ih =>
    obtain ⟨hcode, hrest⟩ := List.forall_mem_cons.mp h
    rw [List.flatMap_cons, keyCodes_keyChars hcode, ih hrest]

/-! ### Members of an object -/

theorem everywhereMembers_assign {key : String} {value : Json} {members : List (String × Json)}
    {p : Json → Bool} (hvalue : value.everywhere p = true)
    (h : everywhereMembers p members = true) :
    everywhereMembers p (assign key value members) = true := by
  induction members with
  | nil => simp [assign, everywhereMembers, hvalue]
  | cons m rest ih =>
    obtain ⟨k, v⟩ := m
    rw [everywhereMembers, Bool.and_eq_true] at h
    unfold assign
    split_ifs
    · rw [everywhereMembers, hvalue, h.2]
      rfl
    · rw [everywhereMembers, h.1, ih h.2]
      rfl

theorem everywhere_ofMembers {members : List (String × Json)}
    (h : everywhereMembers isProper members = true) :
    (ofMembers members).everywhere isProper = true := by
  -- the members that are assigned so far are generalised
  suffices hdone : ∀ done, everywhereMembers isProper done = true →
      everywhereMembers isProper (members.foldl (fun done m => assign m.1 m.2 done) done) = true
    from hdone [] rfl
  induction members with
  | nil => exact fun done hdone => hdone
  | cons m rest ih =>
    obtain ⟨k, v⟩ := m
    rw [everywhereMembers, Bool.and_eq_true] at h
    intro done hdone
    exact ih h.2 _ (everywhereMembers_assign h.1 hdone)

/-! ### What is read -/

theorem everywhere_of_readNumber {ps rest : List CodePoint} {v : Json}
    (h : readNumber ps = .ok (v, rest)) : v.everywhere isProper = true := by
  unfold readNumber at h
  split at h
  split at h
  · cases h
  · dsimp only at h
    split at h
    · cases h
      rfl
    · split at h
      · cases h
      · cases h
        rfl

theorem everywhere_of_splitWord? {ps rest : List CodePoint} {word : String} {v : Json}
    (h : splitWord? ps = some (word, v, rest)) : v.everywhere isProper = true := by
  obtain ⟨⟨w, value⟩, hmem, hword⟩ := List.exists_of_findSome?_eq_some h
  dsimp only at hword
  split_ifs at hword
  cases hword
  have hwords : ∀ entry ∈ words, entry.2.everywhere isProper = true := by decide
  exact hwords _ hmem

/-- All that is read in a number of steps is proper. -/
structure ReadsProper (takesNonFinite : Bool) (fuel : ℕ) : Prop where
  value : ∀ depth ps v rest, readValue takesNonFinite depth fuel ps = .ok (v, rest) →
    v.everywhere isProper = true
  items : ∀ depth ps items rest, readItems takesNonFinite depth fuel ps = .ok (items, rest) →
    everywhereItems isProper items = true
  members : ∀ depth ps members rest,
    readMembers takesNonFinite depth fuel ps = .ok (members, rest) →
      everywhereMembers isProper members = true

namespace ReadsProper

variable {takesNonFinite : Bool} {fuel : ℕ}

theorem zero : ReadsProper takesNonFinite 0 where
  value _ _ _ _ h := by cases h
  items _ _ _ _ h := by cases h
  members _ _ _ _ h := by cases h

theorem value_succ (ih : ReadsProper takesNonFinite fuel) {depth : ℕ} {ps rest : List CodePoint}
    {v : Json} (h : readValue takesNonFinite depth (fuel + 1) ps = .ok (v, rest)) :
    v.everywhere isProper = true := by
  -- a value is read by its first character; only lists and objects go deeper
  unfold readValue at h
  split at h
  · obtain ⟨⟨codes, after⟩, -, h⟩ := bind_eq_ok_iff.mp h
    cases h
    exact everywhere_ofCodes codes
  · cases h
  · cases h
  · split at h
    · cases h
      rfl
    · obtain ⟨⟨items, after⟩, hitems, h⟩ := bind_eq_ok_iff.mp h
      cases h
      rw [everywhere, ih.items _ _ _ _ hitems]
      rfl
  · split at h
    · cases h
      rfl
    · obtain ⟨⟨members, after⟩, hmembers, h⟩ := bind_eq_ok_iff.mp h
      cases h
      exact everywhere_ofMembers (ih.members _ _ _ _ hmembers)
  · split at h
    · rename_i hword
      split_ifs at h
      · cases h
        exact everywhere_of_splitWord? hword
      · cases h
    · exact everywhere_of_readNumber h

theorem items_succ (ih : ReadsProper takesNonFinite fuel) {depth : ℕ} {ps rest : List CodePoint}
    {items : List Json} (h : readItems takesNonFinite depth (fuel + 1) ps = .ok (items, rest)) :
    everywhereItems isProper items = true := by
  unfold readItems at h
  obtain ⟨⟨item, after⟩, hitem, h⟩ := bind_eq_ok_iff.mp h
  have hfirst := ih.value _ _ _ _ hitem
  dsimp only at h
  split at h
  · cases h
    rw [everywhereItems, hfirst]
    rfl
  · obtain ⟨⟨others, after⟩, hothers, h⟩ := bind_eq_ok_iff.mp h
    cases h
    rw [everywhereItems, hfirst, ih.items _ _ _ _ hothers]
    rfl
  · cases h

theorem members_succ (ih : ReadsProper takesNonFinite fuel) {depth : ℕ} {ps rest : List CodePoint}
    {members : List (String × Json)}
    (h : readMembers takesNonFinite depth (fuel + 1) ps = .ok (members, rest)) :
    everywhereMembers isProper members = true := by
  unfold readMembers at h
  split at h
  · obtain ⟨⟨key, after⟩, -, h⟩ := bind_eq_ok_iff.mp h
    dsimp only at h
    split at h
    · obtain ⟨⟨value, after⟩, hvalue, h⟩ := bind_eq_ok_iff.mp h
      have hfirst := ih.value _ _ _ _ hvalue
      dsimp only at h
      split at h
      · cases h
        rw [everywhereMembers, hfirst]
        rfl
      · obtain ⟨⟨others, after⟩, hothers, h⟩ := bind_eq_ok_iff.mp h
        cases h
        rw [everywhereMembers, hfirst, ih.members _ _ _ _ hothers]
        rfl
      · cases h
    · cases h
  · cases h

/-- All that is read is proper, whatever the number of steps. -/
theorem of_fuel (takesNonFinite : Bool) (fuel : ℕ) : ReadsProper takesNonFinite fuel := by
  induction fuel with
  | zero => exact zero
  | succ fuel ih =>
    exact ⟨fun _ _ _ _ => ih.value_succ, fun _ _ _ _ => ih.items_succ,
      fun _ _ _ _ => ih.members_succ⟩

end ReadsProper

/-- **All torn texts in what is read are proper.** -/
theorem isProper_of_readBytes {bytes : List UInt8} {v : Json}
    (h : readBytes bytes = .ok v) : v.everywhere isProper = true := by
  obtain ⟨ps, -, h⟩ := bind_eq_ok_iff.mp h
  unfold read at h
  cases hpoints : readPoints ⟨true, false⟩ ps with
  | error e =>
    rw [hpoints] at h
    cases h
  | ok w =>
    rw [hpoints] at h
    obtain rfl : w = v := Except.ok.inj h
    unfold readPoints at hpoints
    dsimp only at hpoints
    obtain ⟨⟨value, rest⟩, hvalue, hpoints⟩ := bind_eq_ok_iff.mp hpoints
    dsimp only at hpoints
    split at hpoints
    · cases hpoints
      exact (ReadsProper.of_fuel _ _).value _ _ _ _ hvalue
    · cases hpoints

end WorkspaceHome.Json
