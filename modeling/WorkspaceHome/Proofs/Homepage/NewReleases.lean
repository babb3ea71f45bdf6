import WorkspaceHome.Proofs.Http.Delivery
import WorkspaceHome.Proofs.Operation.Badge
import WorkspaceHome.Proofs.ReleaseNotes.News

/-!
# New releases on a homepage

A homepage counts the releases since the version that was viewed before (`news_of_build`), so its
badge is empty exactly if nothing is new since then. The count itself follows what is published, and
can be read from its text (`newsSince_follows`).
-/

namespace WorkspaceHome

open ReleaseNotes Service

/-- The version from which releases are counted for a user; `null` if none has been viewed. -/
def Store.countedFrom (s : Store) (user : ℕ) : Json :=
  ((s.viewedBy user).map Json.text).getD .null

/-- The count of a homepage is that of the releases it lists, since the version viewed before. -/
theorem Homepage.news_of_build {u : User} {url : Option String} {s : Site} {homepage : Homepage}
    (h : ((build (.user u) url).exec s).1 = .ok homepage) :
    homepage.news = newsSince (s.store.countedFrom u.id) homepage.releases := by
  rw [(outcome_build u url s).1] at h
  obtain ⟨groups, -, h⟩ := bind_eq_ok_iff.mp h
  obtain ⟨viewed, -, rfl⟩ := map_eq_ok_iff.mp h
  rfl

/-- **The count of new releases follows what is published.** Releases that come to stand in front of
others are added to their count, exactly if one of them has the tag of the version and as a lower
bound if none has; older releases after that one make no difference. The text of the count tells
which case it is, and the badge of a homepage is empty exactly if nothing is new. -/
theorem newsSince_follows :
    (∀ (version : Json) (newer nodes : List Node), version ≠ .null → nodes ≠ [] →
      (∀ n ∈ newer, ¬ n.HasTag version) →
        ((∃ n ∈ nodes, n.HasTag version) → ∃ count : ℕ,
          (newsSince version nodes).text = toString count ∧
            (newsSince version (newer ++ nodes)).text = toString (newer.length + count) ∧
            ∀ older, (newsSince version (newer ++ nodes ++ older)).text =
              (newsSince version (newer ++ nodes)).text) ∧
        ((∀ n ∈ nodes, ¬ n.HasTag version) → (newsSince version (newer ++ nodes)).text =
          toString (newer.length + nodes.length) ++ "+")) ∧
      (∀ version nodes, IsCountOf version nodes (newsSince version nodes).text) ∧
      ∀ (u : User) (url : Option String) (s : Site) (homepage : Homepage),
        ((Homepage.build (.user u) url).exec s).1 = .ok homepage →
          (homepage.news.badge = "" ↔
            IsCurrent (s.store.countedFrom u.id) homepage.releases) := by
  refine ⟨?_, isCountOf_text, ?_⟩
  · intro version newer nodes hversion hnodes hnewer
    constructor
    · intro htag
      -- older releases come after the one with the tag, where nobody counts
      obtain ⟨count, hcount, hlonger, holder⟩ := text_newsSince_of_tagged hversion hnewer htag
      exact ⟨count, hcount, hlonger, fun older => congrArg News.text (holder older)⟩
    · exact text_newsSince_of_untagged hversion hnodes hnewer
  · intro u url s homepage h
    rw [News.badge_eq_empty_iff, Homepage.news_of_build h]
    exact (isCountOf_text _ _).zero_iff

/-- Releases with texts for their tags, and the site of one release after its user has viewed the
version of the service. -/
def sampleReleases (tags : List String) : List Node := tags.map fun tag => { tagName := .text tag }
def sampleViewed : Site :=
  ((Remembrance.ensureViewed (.user Http.sampleUser)).exec (Http.siteWithTag "\"v1\"")).2

theorem newsSince_follows_sample :
    (∃ count : ℕ, (newsSince (.text "v1") (sampleReleases ["v2", "v1"])).text = toString count ∧
        (newsSince (.text "v1") (sampleReleases ["v3"] ++ sampleReleases ["v2", "v1"])).text =
          toString (1 + count) ∧ count = 1) ∧
      (newsSince (.text "v1") (sampleReleases ["v3"] ++ sampleReleases ["v2"])).text = "2+" ∧
      ∃ homepage, ((Homepage.build (.user Http.sampleUser) none).exec sampleViewed).1 =
          .ok homepage ∧ homepage.news.badge = "1+" ∧
        ¬ IsCurrent (sampleViewed.store.countedFrom 1) homepage.releases := by
  obtain ⟨hfollows, -, hbadge⟩ := newsSince_follows
  have hnewer : ∀ n ∈ sampleReleases ["v3"], ¬ n.HasTag (.text "v1") := by decide
  refine ⟨?_, ?_, ?_⟩
  · obtain ⟨count, hcount, hlonger, -⟩ := (hfollows (.text "v1") (sampleReleases ["v3"])
      (sampleReleases ["v2", "v1"]) (by simp) (by simp [sampleReleases]) hnewer).1 (by decide)
    refine ⟨count, hcount, hlonger, ?_⟩
    exact Numeral.toString_injective (hcount.symm.trans (by decide +kernel))
  · exact (hfollows (.text "v1") (sampleReleases ["v3"]) (sampleReleases ["v2"]) (by simp)
      (by simp [sampleReleases]) hnewer).2 (by decide)
  · have hbuilt : ((Homepage.build (.user Http.sampleUser) none).exec sampleViewed).1.toOption.map
        (·.news.badge) = some "1+" := by decide +kernel
    -- the one release is newer than the version that was viewed, which is not listed
    cases hhomepage : ((Homepage.build (.user Http.sampleUser) none).exec sampleViewed).1 with
    | error e =>
      rw [hhomepage] at hbuilt
      cases hbuilt
    | ok homepage =>
      rw [hhomepage] at hbuilt
      have hone : homepage.news.badge = "1+" := Option.some.inj hbuilt
      refine ⟨homepage, rfl, hone, fun hcurrent => ?_⟩
      have hempty := (hbadge Http.sampleUser none sampleViewed homepage hhomepage).mpr hcurrent
      rw [hone] at hempty
      exact absurd hempty (by decide)

end WorkspaceHome
