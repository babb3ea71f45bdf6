import WorkspaceHome.Proofs.Fallible
import WorkspaceHome.Proofs.Text.Percent
import WorkspaceHome.ReleaseNotes.Client

/-!
# The query and the key of the release notes

The feed is asked with a query that tells the version and the installation
(`query_of_addressOf`, `feedQuery_eq_iff`). The key under which its nodes are kept tells both only
up to the colon between them: two pairs have the same key if they are the same put together, and
are then the same if and only if their versions hold equally many colons (`pair_eq_iff`).
-/

namespace WorkspaceHome.ReleaseNotes

open Text.Percent

variable {s t : Settings} {url : String} {address : Url}

/-! ### The query -/

/-- The form of the query, as characters. -/
theorem toList_feedQuery (s : Settings) :
    (feedQuery s).toList = "instanceId=".toList ++ (encodeForm s.instanceId.toList ++
      '&' :: ("version=".toList ++ encodeForm s.appVersion.toList)) := by
  have hversion : "&version=".toList = '&' :: "version=".toList := by decide
  unfold feedQuery
  simp only [String.toList_append, String.toList_ofList, hversion, List.append_assoc,
    List.cons_append]

theorem and_not_mem_encodeForm (cs : List Char) : '&' ∉ encodeForm cs := fun h =>
  absurd (mem_encodeForm h) (by decide)

/-- **The query tells the version and the installation.** -/
theorem feedQuery_eq_iff :
    feedQuery s = feedQuery t ↔ s.appVersion = t.appVersion ∧ s.instanceId = t.instanceId := by
  constructor
  · intro h
    have h := congrArg String.toList h
    rw [toList_feedQuery, toList_feedQuery] at h
    have hafter : '&' ∉ "version=".toList ++ encodeForm s.appVersion.toList := fun hmem =>
      (List.mem_append.mp hmem).elim (by decide) (and_not_mem_encodeForm _)
    obtain ⟨hinstance, -, hversion⟩ := (List.append_cons_inj_of_notMem
      (and_not_mem_encodeForm s.instanceId.toList) hafter).mp (List.append_cancel_left h)
    exact ⟨String.toList_injective (encodeForm_injective (List.append_cancel_left hversion)),
      String.toList_injective (encodeForm_injective hinstance)⟩
  · rintro ⟨hversion, hinstance⟩
    unfold feedQuery
    rw [hversion, hinstance]

/-- Every character of the query may stand in one. -/
theorem isQueryChar_of_mem_feedQuery {c : Char} (h : c ∈ (feedQuery s).toList) :
    Url.isQueryChar c = true := by
  have hvalue : ∀ x : Char, isUnreserved x = true ∨ x = '+' ∨ x = '%' →
      Url.isQueryChar x = true := by
    rintro x (hx | rfl | rfl)
    · exact of_isUnreserved (by decide +kernel) hx
    · decide
    · decide
  have hnames : ∀ x ∈ "instanceId=".toList ++ '&' :: "version=".toList,
      Url.isQueryChar x = true := List.all_eq_true.mp (by decide)
  rw [toList_feedQuery] at h
  simp only [List.mem_append, List.mem_cons] at h hnames
  rcases h with h | h | rfl | h | h
  · exact hnames c (Or.inl h)
  · exact hvalue c (mem_encodeForm h)
  · exact hnames _ (Or.inr (Or.inl rfl))
  · exact hnames c (Or.inr (Or.inr h))
  · exact hvalue c (mem_encodeForm h)

/-- **The feed is asked with the query** of the settings. -/
theorem query_of_addressOf (h : addressOf url s = .ok address) :
    address.query = some (feedQuery s) := by
  unfold addressOf at h
  cases hread : (s.library.read url >>= fun given => s.library.withQuery given (feedQuery s)) with
  | error defect =>
    rw [hread] at h
    cases h
  | ok asked =>
    rw [hread] at h
    obtain rfl : asked = address := Except.ok.inj h
    obtain ⟨given, -, hquery⟩ := bind_eq_ok_iff.mp hread
    exact s.library.query_withQuery (fun c hc => isQueryChar_of_mem_feedQuery hc) hquery

/-! ### The key -/

/-- The number of colons of a text. -/
def colons (text : String) : ℕ := text.toList.count ':'

theorem toList_cacheKey (s : Settings) :
    (cacheKey s).toList = "release_notes:nodes:".toList ++
      (s.appVersion.toList ++ ':' :: s.instanceId.toList) := by
  have hcolon : ":".toList = [':'] := by decide
  unfold cacheKey
  simp only [String.toList_append, hcolon, List.append_assoc, List.cons_append, List.nil_append]

/-- Two lists that are parted by a mark are parted at the same place if equally many marks stand in
front of it. -/
theorem append_cons_inj_of_count {mark : Char} {xs ys xs' ys' : List Char}
    (h : xs ++ mark :: ys = xs' ++ mark :: ys') (hcount : xs.count mark = xs'.count mark) :
    xs = xs' ∧ ys = ys' := by
  -- what one of them has in front of the place and the other one behind it holds the mark
  rcases List.append_eq_append_iff.mp h with ⟨between, rfl, hrest⟩ | ⟨between, rfl, hrest⟩
  · cases between with
    | nil => exact ⟨(List.append_nil _).symm, (List.cons.inj hrest).2⟩
    | cons c between =>
      obtain ⟨rfl, -⟩ := List.cons.inj hrest
      simp at hcount
  · cases between with
    | nil => exact ⟨List.append_nil _, (List.cons.inj hrest).2.symm⟩
    | cons c between =>
      obtain ⟨rfl, -⟩ := List.cons.inj hrest
      simp at hcount

/-- **What the key tells**: under one key, the version and the installation are the same if and only
if the versions hold equally many colons. -/
theorem pair_eq_iff (h : cacheKey s = cacheKey t) :
    s.appVersion = t.appVersion ∧ s.instanceId = t.instanceId ↔
      colons s.appVersion = colons t.appVersion := by
  constructor
  · rintro ⟨hversion, -⟩
    rw [hversion]
  · intro hcount
    have h := congrArg String.toList h
    rw [toList_cacheKey, toList_cacheKey] at h
    obtain ⟨hversion, hinstance⟩ := append_cons_inj_of_count (List.append_cancel_left h) hcount
    exact ⟨String.toList_injective hversion, String.toList_injective hinstance⟩

end WorkspaceHome.ReleaseNotes
