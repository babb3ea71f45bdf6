import Mathlib.Algebra.Group.Action.Defs
import Mathlib.Algebra.Order.BigOperators.Group.List
import Mathlib.Algebra.Order.Group.Nat
import WorkspaceHome.Text.Slug

/-!
# What a slug is made of

Whatever a name is like, its slug consists of letters, digits, hyphens and underscores
(`isSlugChar_of_mem_slug`), and it is not longer than all that is kept of the characters of the name
together (`length_slug_le_breadth`). Of most characters nothing or one character is kept, so that a
name without any others has a slug that is not longer than itself. Ligatures, Roman numerals, signs
of units and the like are wide (`IsWide`): of one of them up to five characters are kept
(`length_keptPart_le`).
-/

namespace WorkspaceHome.Text

variable {c : Char} {cs : List Char} {inRun : Bool} {name : String}

/-- Whether a character can stand in a slug. -/
def IsSlugChar (c : Char) : Prop := c.isAlphanum = true ∨ c = '-' ∨ c = '_'

/-- What a slug can keep of a character: the letters, digits and underscores of its ASCII part, and
the hyphens and blanks that become hyphens. -/
def keptPart (c : Char) : List Char :=
  ((asciiPart c).map Char.toLower).filter fun d => isWordChar d || isBreak d

/-- The number of characters that a slug can keep of a name. -/
def breadth (name : String) : ℕ := (name.toList.flatMap keptPart).length

/-- More than one character is kept of a character. -/
def IsWide (c : Char) : Prop := 1 < (keptPart c).length

/-- A slug is made from what is kept of the characters one by one. -/
theorem slugChars_eq (cs : List Char) :
    slugChars cs = trimJoiners (joinWords false (cs.flatMap keptPart)) := by
  unfold slugChars toAscii keptPart
  simp only [List.map_flatMap, List.filter_flatMap]

/-! ### Characters -/

/-- Joining words leaves the characters of the words, and writes hyphens. -/
theorem mem_joinWords (h : c ∈ joinWords inRun cs) : c = '-' ∨ c ∈ cs ∧ isBreak c = false := by
  induction cs generalizing inRun with
  | nil => exact absurd h List.not_mem_nil
  | cons d rest ih =>
    have hrest {inRun : Bool} (h : c ∈ joinWords inRun rest) :
        c = '-' ∨ c ∈ d :: rest ∧ isBreak c = false :=
      (ih h).imp_right fun ⟨hmem, hword⟩ => ⟨List.mem_cons_of_mem _ hmem, hword⟩
    unfold joinWords at h
    split_ifs at h with hbreak hrun
    · exact hrest h
    · rcases List.mem_cons.mp h with rfl | h
      · exact Or.inl rfl
      · exact hrest h
    · rcases List.mem_cons.mp h with rfl | h
      · exact Or.inr ⟨List.mem_cons_self, by simpa using hbreak⟩
      · exact hrest h

theorem trimJoiners_sublist (cs : List Char) : (trimJoiners cs).Sublist cs := by
  have hback := List.dropWhile_sublist (fun c => c == '-' || c == '_')
    (l := (cs.dropWhile fun c => c == '-' || c == '_').reverse)
  have hfront := List.dropWhile_sublist (fun c => c == '-' || c == '_') (l := cs)
  unfold trimJoiners
  exact (List.reverse_sublist.mp (by simpa using hback)).trans hfront

/-- **A slug consists of letters, digits, hyphens and underscores.** -/
theorem isSlugChar_of_mem_slug (h : c ∈ (slug name).toList) : IsSlugChar c := by
  unfold slug at h
  rw [String.toList_ofList, slugChars_eq] at h
  rcases mem_joinWords ((trimJoiners_sublist _).subset h) with rfl | ⟨hkept, hword⟩
  · exact Or.inr (Or.inl rfl)
  · obtain ⟨d, -, hd⟩ := List.mem_flatMap.mp hkept
    have hchar : isWordChar c = true := by
      simpa [hword] using (List.mem_filter.mp hd).2
    unfold isWordChar at hchar
    rcases Bool.or_eq_true_iff.mp hchar with halphanum | hunderscore
    · exact Or.inl halphanum
    · exact Or.inr (Or.inr (beq_iff_eq.mp hunderscore))

/-! ### Length -/

theorem length_joinWords_le (inRun : Bool) (cs : List Char) :
    (joinWords inRun cs).length ≤ cs.length := by
  induction cs generalizing inRun with
  | nil => exact Nat.le_refl _
  | cons c rest ih =>
    have htrue := ih true
    have hfalse := ih false
    unfold joinWords
    split_ifs <;> simp only [List.length_cons] <;> omega

/-- **A slug is not longer than what is kept of the name.** -/
theorem length_slug_le_breadth (name : String) : (slug name).length ≤ breadth name := by
  have htrim := (trimJoiners_sublist (joinWords false (name.toList.flatMap keptPart))).length_le
  have hjoin := length_joinWords_le false (name.toList.flatMap keptPart)
  unfold slug breadth
  rw [String.length_ofList, slugChars_eq]
  omega

theorem breadth_le {n : ℕ} (h : ∀ c ∈ name.toList, (keptPart c).length ≤ n) :
    breadth name ≤ n * name.length := by
  have hsum := List.sum_le_card_nsmul (name.toList.map fun c => (keptPart c).length) n (by simpa)
  rw [List.length_map, String.length_toList, smul_eq_mul] at hsum
  unfold breadth
  rwa [List.length_flatMap, Nat.mul_comm]

/-- The pieces of a run of the table stand for the code points of the run. -/
theorem exists_of_cluster? {n : ℕ} {piece : String} (h : cluster? n = some piece) :
    ∃ run ∈ clusters, piece ∈ run.2 := by
  obtain ⟨run, hrun, hpiece⟩ := List.exists_of_findSome?_eq_some h
  dsimp only at hpiece
  split_ifs at hpiece
  exact ⟨run, hrun, List.mem_of_getElem? hpiece⟩

/-- **At most five characters are kept of a character.** -/
theorem length_keptPart_le (c : Char) : (keptPart c).length ≤ 5 := by
  have hpieces : ∀ run ∈ clusters, ∀ piece ∈ run.2,
      ((piece.toList.map Char.toLower).filter fun d => isWordChar d || isBreak d).length ≤ 5 := by
    decide +kernel
  have hone (d : Char) :
      (([d].map Char.toLower).filter fun d => isWordChar d || isBreak d).length ≤ 5 :=
    (List.length_filter_le _ _).trans (by simp)
  unfold keptPart asciiPart
  split_ifs
  · exact hone c
  · split
    · exact hone _
    · cases hcluster : cluster? c.toNat with
      | none => simp
      | some piece =>
        obtain ⟨run, hrun, hpiece⟩ := exists_of_cluster? hcluster
        exact hpieces run hrun piece hpiece

/-- An ASCII character is not wide, since it stands for itself. -/
theorem not_isWide_of_ascii (h : c.toNat < 0x80) : ¬ IsWide c := by
  unfold IsWide keptPart asciiPart
  rw [if_pos h]
  exact Nat.not_lt.mpr (List.length_filter_le _ _)

/-- A name without wide characters has a slug that is not longer than itself. -/
theorem length_slug_le_of_not_isWide (h : ∀ c ∈ name.toList, ¬ IsWide c) :
    (slug name).length ≤ name.length := by
  have hbreadth := breadth_le fun c hc => Nat.not_lt.mp (h c hc)
  have hslug := length_slug_le_breadth name
  omega

/-- The sign of a unit is as wide as a character can be. -/
example : keptPart '㎯' = ['r', 'a', 'd', 's', '2'] := by decide +kernel

end WorkspaceHome.Text
