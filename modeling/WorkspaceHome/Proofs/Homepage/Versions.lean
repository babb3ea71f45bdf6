import WorkspaceHome.Proofs.Homepage.PageSlug

/-!
# Pages without a slug

A homepage may note that the page of a default reference has no slug in an edition. All such notes
are borne out by the store: the page is one of the row, it is named by the reference, and it has no
slug as a published page (`build_isBorneOut`). The unpublished edition of a page always has a slug.
-/

namespace WorkspaceHome

open Service

/-- A note that a page has no slug is true of a page that a reference names. -/
def Event.IsBorneOut (s : Store) (e : Event) : Prop :=
  ∀ row id field, e = .pageVersionMissing row id field → field = Edition.published.field ∧
    ∃ p ∈ s.pages.rows, p.application = row ∧ toString p.id = id.display ∧ p.publishedSlug = none

namespace Event

variable {s : Store} {e : Event}

theorem isBorneOut_of_not_fault (h : e.isFault = false) : e.IsBorneOut s := by
  rintro row id field rfl
  cases h

end Event

/-- What is noted of a reference is borne out. -/
theorem PageRef.ComesTo.isBorneOut {s : Store} {row : ℕ} {edition : Edition} {id : Json}
    {slug : String} {events : List Event} (h : ComesTo s row edition id slug events) :
    ∀ e ∈ events, e.IsBorneOut s := by
  cases h with
  | found => exact List.forall_mem_nil _
  | noPages => exact List.forall_mem_singleton.mpr nofun
  | notFound => exact List.forall_mem_singleton.mpr nofun
  | versionMissing hp hrow hid hslug =>
    refine List.forall_mem_singleton.mpr ?_
    rintro _ _ _ ⟨⟩
    cases edition with
    | unpublished => cases hslug
    | published => exact ⟨rfl, _, hp, hrow, hid, hslug⟩

theorem ListedApplication.isBorneOut_of_mem_faults {s : Store} {l : ListedApplication}
    {edition : Edition} {e : Event} (he : e ∈ l.faults s edition) : e.IsBorneOut s := by
  obtain ⟨ref, -, hresolve⟩ := PageRef.exists_of_mem_resolveFirst he
  have hcomes := PageRef.comesTo_resolve s l.row edition ref
  rw [hresolve] at hcomes
  exact hcomes.isBorneOut e List.mem_cons_self

namespace Service

/-- What is noted is borne out by a store. -/
def bearingOut (s : Store) : Frame where
  rel t t' := ∃ entries, t'.log = t.log ++ entries ∧ ∀ entry ∈ entries, entry.event.IsBorneOut s
  refl := fun t => ⟨[], (List.append_nil _).symm, List.forall_mem_nil _⟩
  trans := by
    rintro t u v ⟨entries, hlog, hentries⟩ ⟨more, hmore, hall⟩
    exact ⟨entries ++ more, by rw [hmore, hlog, List.append_assoc],
      List.forall_mem_append.mpr ⟨hentries, hall⟩⟩

theorem bearingOut_noting {s : Store} (t : Site) {events : List Event}
    (h : ∀ e ∈ events, e.IsBorneOut s) : (bearingOut s).rel t (t.noting events) := by
  refine ⟨_, rfl, fun entry hentry => ?_⟩
  obtain ⟨e, he, rfl⟩ := List.mem_map.mp hentry
  exact h e he

theorem bearingOut_of_faultless {s : Store} {t t' : Site} (h : faultless.rel t t') :
    (bearingOut s).rel t t' := by
  obtain ⟨entries, hlog, hentries⟩ := h
  exact ⟨entries, hlog, fun entry hentry =>
    Event.isBorneOut_of_not_fault (hentries entry hentry)⟩

end Service

namespace Homepage

/-- What is noted of the groups that a user is shown is borne out. -/
theorem isBorneOut_of_mem_shownTo {s : Store} {user : ℕ} {e : Event}
    (he : e ∈ (shownTo s user).2) : e.IsBorneOut s := by
  have hslugs (plain : List WorkspaceGroup) (he : e ∈ plain.flatMap (·.slugEvents s)) :
      e.IsBorneOut s := by
    obtain ⟨g, -, he⟩ := List.mem_flatMap.mp he
    obtain ⟨l, -, he⟩ := List.mem_flatMap.mp he
    rw [l.events_withSlugs] at he
    rcases List.mem_append.mp he with he | he
    · exact l.isBorneOut_of_mem_faults he
    · exact l.isBorneOut_of_mem_faults he
  unfold shownTo at he
  split_ifs at he
  · exact hslugs [] he
  · have hgroups (he : e ∈ (groupsIn s (s.workspaceIdsOf user)
        (s.recentOf user (·.recentWorkspaces)) (s.recentOf user (·.recentApplications))).2) :
        e.IsBorneOut s := Event.isBorneOut_of_not_fault (isFault_of_mem_groupsIn he)
    revert he hgroups
    rcases groupsIn s (s.workspaceIdsOf user) (s.recentOf user (·.recentWorkspaces))
      (s.recentOf user (·.recentApplications)) with ⟨failure | plain, noted⟩
    · exact fun he hgroups => hgroups he
    · intro he hgroups
      rcases List.mem_append.mp he with he | he
      · exact hgroups he
      · exact hslugs plain he

/-- **Whatever a homepage notes of pages without a slug is borne out** by the store for which it is
built, whether or not it succeeds. -/
theorem build_isBorneOut (viewer : Viewer) (url : Option String) (site : Site) :
    (bearingOut site.store).KeepsAt (build viewer url) site := by
  cases viewer with
  | nobody => exact (bearingOut _).refl site
  | anonymous => exact (bearingOut _).refl site
  | user u =>
    unfold Frame.KeepsAt
    rw [exec_build]
    have hnoted : ∀ e ∈ (shownTo site.store u.id).2, e.IsBorneOut site.store :=
      fun e => isBorneOut_of_mem_shownTo
    rcases hshown : shownTo site.store u.id with ⟨failure | groups, noted⟩ <;>
      rw [hshown] at hnoted
    · exact bearingOut_noting site hnoted
    · have hfinish := keeps_faultless_finish u url (site.store.dataOf? u.id) groups
        (site.noting noted)
      exact (bearingOut _).trans (bearingOut_noting site hnoted) (bearingOut_of_faultless hfinish)

end Homepage

end WorkspaceHome
