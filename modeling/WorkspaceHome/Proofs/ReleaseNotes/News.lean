import WorkspaceHome.Proofs.Number.Numeral
import WorkspaceHome.ReleaseNotes.Node

/-!
# Counting new releases

The releases that are newer than a version are those before the first one with its tag
(`newsSince_eq_exactly_iff`), or all and perhaps more if none has it (`newsSince_eq_atLeast_iff`). A
count can be read from its text: different counts are written differently (`News.text_injective`),
so the text tells which case it is (`isCountOf_text`).

Releases that are published come to stand in front and are added to the count; what follows the
first release with the tag makes no difference (`text_newsSince_of_tagged`).

The badge of a homepage is the written number of newer releases, except that nothing stands for `0`
(`News.badge_eq`).
-/

namespace WorkspaceHome.ReleaseNotes

@[simp]
theorem newsSince_null (nodes : List Node) : newsSince .null nodes = .exactly 0 := by
  cases nodes <;> rfl

@[simp]
theorem newsSince_nil (version : Json) : newsSince version [] = .exactly 0 := by
  cases version <;> rfl

/-! ### The count in writing -/

namespace News

theorem text_exactly_ne_text_atLeast (m n : ℕ) : (exactly m).text ≠ (atLeast n).text := by
  intro h
  -- the one ends with a sign that is no digit
  have hsign : '+' ∈ (toString m).toList := by
    rw [show toString m = toString n ++ "+" from h, String.toList_append]
    simp
  exact absurd (Text.isDigit_of_mem_toString hsign) (by decide)

/-- **Different counts are written differently.** -/
theorem text_injective : Function.Injective text := by
  intro a b h
  cases a with
  | exactly m =>
    cases b with
    | exactly n => rw [Numeral.toString_injective h]
    | atLeast n => exact absurd h (text_exactly_ne_text_atLeast m n)
  | atLeast m =>
    cases b with
    | exactly n => exact absurd h.symm (text_exactly_ne_text_atLeast n m)
    | atLeast n =>
      have hdigits := congrArg String.toList h
      rw [text, text, String.toList_append, String.toList_append] at hdigits
      have hsame : toString m = toString n :=
        String.toList_inj.mp (List.append_cancel_right hdigits)
      rw [Numeral.toString_injective hsame]

theorem text_ne_empty (news : News) : news.text ≠ "" := by
  intro h
  cases news with
  | exactly n => exact Text.toString_toList_ne_nil n (congrArg String.toList h)
  | atLeast n =>
    have hlist := congrArg String.toList h
    rw [text, String.toList_append] at hlist
    simp at hlist

/-- **The badge is the number in writing**, but nothing for zero. -/
theorem badge_eq (news : News) : news.badge = if news.text = "0" then "" else news.text := by
  have hzero : news.text = "0" ↔ news = .exactly 0 := text_injective.eq_iff (b := .exactly 0)
  unfold badge
  split
  · rfl
  · rename_i hne
    rw [if_neg (mt hzero.mp hne)]

theorem badge_eq_empty_iff (news : News) : news.badge = "" ↔ news.text = "0" := by
  rw [badge_eq]
  split
  · simp_all
  · simp_all [text_ne_empty]

end News

/-! ### The first release with a tag -/

/-- A release has a version for its tag. -/
def Node.HasTag (n : Node) (version : Json) : Prop := n.tagName.same version = true

instance (n : Node) (version : Json) : Decidable (n.HasTag version) :=
  inferInstanceAs (Decidable (n.tagName.same version = true))

/-- The first release with a tag stands at a place. -/
def FirstTagged (version : Json) (nodes : List Node) (k : ℕ) : Prop :=
  (∃ n, nodes[k]? = some n ∧ n.HasTag version) ∧
    ∀ m n, m < k → nodes[m]? = some n → ¬ n.HasTag version

section tagged

variable {version : Json} {nodes newer older : List Node} {k : ℕ}

theorem findIdx?_eq_some_iff : (nodes.findIdx? fun n => n.tagName.same version) = some k ↔
    FirstTagged version nodes k := by
  rw [List.findIdx?_eq_some_iff_getElem]
  constructor
  · rintro ⟨hk, htag, hfirst⟩
    refine ⟨⟨nodes[k], List.getElem?_eq_getElem hk, htag⟩, ?_⟩
    intro m n hm hn
    obtain ⟨hlt, rfl⟩ := List.getElem?_eq_some_iff.mp hn
    exact hfirst m hm
  · rintro ⟨⟨n, hn, htag⟩, hfirst⟩
    obtain ⟨hk, rfl⟩ := List.getElem?_eq_some_iff.mp hn
    refine ⟨hk, htag, ?_⟩
    intro m hm
    exact hfirst m nodes[m] hm (List.getElem?_eq_getElem _)

theorem findIdx?_eq_none_iff : (nodes.findIdx? fun n => n.tagName.same version) = none ↔
    ∀ n ∈ nodes, ¬ n.HasTag version := by
  rw [List.findIdx?_eq_none_iff]
  simp [Node.HasTag]

theorem exists_firstTagged (h : ∃ n ∈ nodes, n.HasTag version) :
    ∃ k, FirstTagged version nodes k := by
  cases hplace : nodes.findIdx? fun n => n.tagName.same version with
  | some k => exact ⟨k, findIdx?_eq_some_iff.mp hplace⟩
  | none =>
    obtain ⟨n, hn, htag⟩ := h
    exact absurd htag (findIdx?_eq_none_iff.mp hplace n hn)

/-- Releases in front that lack the tag move its first place by their number. -/
theorem FirstTagged.append_left (h : FirstTagged version nodes k)
    (hnewer : ∀ n ∈ newer, ¬ n.HasTag version) :
    FirstTagged version (newer ++ nodes) (newer.length + k) := by
  rw [← findIdx?_eq_some_iff] at h ⊢
  rw [List.findIdx?_append, findIdx?_eq_none_iff.mpr hnewer, h, Nat.add_comm]
  rfl

/-- Releases that follow make no difference to the first place of a tag. -/
theorem FirstTagged.append_right (h : FirstTagged version nodes k) :
    FirstTagged version (nodes ++ older) k := by
  rw [← findIdx?_eq_some_iff] at h ⊢
  rw [List.findIdx?_append, h]
  rfl

end tagged

/-! ### The count -/

section count

variable {version : Json} {nodes newer older : List Node} {k : ℕ}

theorem newsSince_eq (hversion : version ≠ .null) (hnodes : nodes ≠ []) :
    newsSince version nodes =
      match nodes.findIdx? fun n => n.tagName.same version with
      | some n => .exactly n
      | none => .atLeast nodes.length := by
  unfold newsSince
  split
  · exact absurd rfl hversion
  · exact absurd rfl hnodes
  · rfl

/-- The first release with the tag tells the count. -/
theorem newsSince_of_firstTagged (hversion : version ≠ .null) (h : FirstTagged version nodes k) :
    newsSince version nodes = .exactly k := by
  have hnodes : nodes ≠ [] := by
    rintro rfl
    obtain ⟨⟨n, hn, -⟩, -⟩ := h
    simp at hn
  rw [newsSince_eq hversion hnodes, findIdx?_eq_some_iff.mpr h]

theorem newsSince_of_forall (hversion : version ≠ .null) (hnodes : nodes ≠ [])
    (h : ∀ n ∈ nodes, ¬ n.HasTag version) : newsSince version nodes = .atLeast nodes.length := by
  rw [newsSince_eq hversion hnodes, findIdx?_eq_none_iff.mpr h]

/-- What a count is: there is nothing to count from or nothing to count, or a release has the tag,
or none has. -/
theorem newsSince_cases (version : Json) (nodes : List Node) :
    (version = .null ∨ nodes = []) ∧ newsSince version nodes = .exactly 0 ∨
      (version ≠ .null ∧ ∃ k, FirstTagged version nodes k ∧ newsSince version nodes = .exactly k) ∨
      version ≠ .null ∧ nodes ≠ [] ∧ (∀ n ∈ nodes, ¬ n.HasTag version) ∧
        newsSince version nodes = .atLeast nodes.length := by
  by_cases hversion : version = .null
  · subst hversion
    exact Or.inl ⟨Or.inl rfl, newsSince_null nodes⟩
  by_cases hnodes : nodes = []
  · subst hnodes
    exact Or.inl ⟨Or.inr rfl, newsSince_nil version⟩
  by_cases htag : ∃ n ∈ nodes, n.HasTag version
  · obtain ⟨k, hk⟩ := exists_firstTagged htag
    exact Or.inr (Or.inl ⟨hversion, k, hk, newsSince_of_firstTagged hversion hk⟩)
  · push Not at htag
    exact Or.inr (Or.inr ⟨hversion, hnodes, htag, newsSince_of_forall hversion hnodes htag⟩)

theorem newsSince_eq_exactly_iff :
    newsSince version nodes = .exactly k ↔
      (version = .null ∨ nodes = []) ∧ k = 0 ∨ version ≠ .null ∧ FirstTagged version nodes k := by
  constructor
  · intro h
    rcases newsSince_cases version nodes with
      ⟨hnone, hzero⟩ | ⟨hversion, l, hl, hcount⟩ | ⟨-, -, -, hall⟩
    · exact Or.inl ⟨hnone, (News.exactly.inj (hzero.symm.trans h)).symm⟩
    · obtain rfl : l = k := News.exactly.inj (hcount.symm.trans h)
      exact Or.inr ⟨hversion, hl⟩
    · cases hall.symm.trans h
  · rintro (⟨rfl | rfl, rfl⟩ | ⟨hversion, hk⟩)
    · exact newsSince_null nodes
    · exact newsSince_nil version
    · exact newsSince_of_firstTagged hversion hk

theorem newsSince_eq_atLeast_iff :
    newsSince version nodes = .atLeast k ↔
      version ≠ .null ∧ nodes ≠ [] ∧ (∀ n ∈ nodes, ¬ n.HasTag version) ∧ nodes.length = k := by
  constructor
  · intro h
    rcases newsSince_cases version nodes with
      ⟨-, hzero⟩ | ⟨-, l, -, hcount⟩ | ⟨hversion, hnodes, hnone, hall⟩
    · cases hzero.symm.trans h
    · cases hcount.symm.trans h
    · exact ⟨hversion, hnodes, hnone, News.atLeast.inj (hall.symm.trans h)⟩
  · rintro ⟨hversion, hnodes, hnone, rfl⟩
    exact newsSince_of_forall hversion hnodes hnone

/-! ### What the text of a count tells -/

/-- Nothing is new: no version is known, there is no release, or the first one has the version for
its tag. -/
def IsCurrent (version : Json) (nodes : List Node) : Prop :=
  version = .null ∨ nodes = [] ∨ ∃ n, nodes.head? = some n ∧ n.HasTag version

theorem firstTagged_zero_iff :
    FirstTagged version nodes 0 ↔ ∃ n, nodes.head? = some n ∧ n.HasTag version := by
  rw [List.head?_eq_getElem?]
  refine and_iff_left ?_
  intro m n hm
  exact absurd hm (Nat.not_lt_zero m)

theorem newsSince_eq_zero_iff : newsSince version nodes = .exactly 0 ↔ IsCurrent version nodes := by
  rw [newsSince_eq_exactly_iff, firstTagged_zero_iff]
  unfold IsCurrent
  by_cases hversion : version = .null <;> simp [hversion]

/-- A text is a count of the releases that are newer than a version: it is `0` if nothing is new, a
greater number if this is the place of the first release with the tag, and the number of releases
with a sign for more if none has the tag. -/
structure IsCountOf (version : Json) (nodes : List Node) (text : String) : Prop where
  zero_iff : text = "0" ↔ IsCurrent version nodes
  count_iff : ∀ k : ℕ, 0 < k →
    (text = toString k ↔ version ≠ .null ∧ FirstTagged version nodes k)
  more_iff : ∀ k : ℕ, text = toString k ++ "+" ↔
    version ≠ .null ∧ nodes ≠ [] ∧ (∀ n ∈ nodes, ¬ n.HasTag version) ∧ nodes.length = k

/-- **The text of a count** tells which case it is. -/
theorem isCountOf_text (version : Json) (nodes : List Node) :
    IsCountOf version nodes (newsSince version nodes).text where
  zero_iff := by
    rw [← newsSince_eq_zero_iff]
    exact News.text_injective.eq_iff (b := .exactly 0)
  count_iff := by
    intro k hk
    have hcase : (newsSince version nodes).text = toString k ↔
        newsSince version nodes = .exactly k := News.text_injective.eq_iff (b := .exactly k)
    rw [hcase, newsSince_eq_exactly_iff]
    simp [hk.ne']
  more_iff := by
    intro k
    rw [← newsSince_eq_atLeast_iff]
    exact News.text_injective.eq_iff (b := .atLeast k)

/-- **Releases that are published** come to stand in front and are added to the count, and what
follows the first release with the tag makes no difference. -/
theorem text_newsSince_of_tagged (hversion : version ≠ .null)
    (hnewer : ∀ n ∈ newer, ¬ n.HasTag version) (htag : ∃ n ∈ nodes, n.HasTag version) :
    ∃ count : ℕ, (newsSince version nodes).text = toString count ∧
      (newsSince version (newer ++ nodes)).text = toString (newer.length + count) ∧
      ∀ older,
        newsSince version (newer ++ nodes ++ older) = newsSince version (newer ++ nodes) := by
  obtain ⟨count, hcount⟩ := exists_firstTagged htag
  have hlonger := hcount.append_left hnewer
  refine ⟨count, ?_, ?_, fun older => ?_⟩
  · rw [newsSince_of_firstTagged hversion hcount]
    rfl
  · rw [newsSince_of_firstTagged hversion hlonger]
    rfl
  · rw [newsSince_of_firstTagged hversion hlonger.append_right,
      newsSince_of_firstTagged hversion hlonger]

/-- As long as no release has the tag, all that are listed are counted. -/
theorem text_newsSince_of_untagged (hversion : version ≠ .null) (hnodes : nodes ≠ [])
    (hnewer : ∀ n ∈ newer, ¬ n.HasTag version) (hnone : ∀ n ∈ nodes, ¬ n.HasTag version) :
    (newsSince version (newer ++ nodes)).text = toString (newer.length + nodes.length) ++ "+" := by
  have hall : ∀ n ∈ newer ++ nodes, ¬ n.HasTag version := by
    intro n hn
    rcases List.mem_append.mp hn with hn | hn
    · exact hnewer n hn
    · exact hnone n hn
  rw [newsSince_of_forall hversion (List.append_ne_nil_of_right_ne_nil newer hnodes) hall,
    List.length_append]
  rfl

end count

end WorkspaceHome.ReleaseNotes
