import WorkspaceHome.Proofs.Homepage.Exact
import WorkspaceHome.Proofs.Number.Numeral

/-!
# Slugs of default pages on a homepage

The references of an application to its pages are those that are stored, one for one. Only the first
default one may have a slug: that of the page of the listed row that is written like the reference,
if there is one in the edition (`PageRef.ComesTo`, `PageRef.AreFor`). Everywhere else a fault is
noted. A homepage for a store of the right shape notes these faults, one for each edition of an
application that has one, in the order of the homepage, and no error besides them but that the
release notes have failed (`build_pageSlugs`).
-/

namespace WorkspaceHome

open Service

/-! ### One reference -/

namespace PageRef

/-- A reference is read from a stored value. -/
def IsFor (entry : Json) (ref : PageRef) : Prop :=
  entry.member "id" = .ok ref.id ∧
    ∃ v, entry.member "isDefault" = .ok v ∧ ref.isDefault = v.truthy

/-- What a default reference of a row comes to in an edition: the slug of the page that it names, or
none and the event that tells of the fault. -/
inductive ComesTo (s : Store) (row : ℕ) (edition : Edition) (id : Json) :
    String → List Event → Prop where
  | found {p : Page} {slug : String} (hp : p ∈ s.pages.rows) (hrow : p.application = row)
    (hid : toString p.id = id.display) (hslug : edition.slug p = some slug) :
    ComesTo s row edition id slug []
  | noPages (h : ∀ p ∈ s.pages.rows, p.application ≠ row) :
    ComesTo s row edition id "" [.noPagesForApplication row]
  | notFound {p : Page} (hp : p ∈ s.pages.rows) (hrow : p.application = row)
    (h : ∀ q ∈ s.pages.rows, q.application = row → toString q.id ≠ id.display) :
    ComesTo s row edition id "" [.defaultPageNotFound row id]
  | versionMissing {p : Page} (hp : p ∈ s.pages.rows) (hrow : p.application = row)
    (hid : toString p.id = id.display) (hslug : edition.slug p = none) :
    ComesTo s row edition id "" [.pageVersionMissing row id edition.field]

variable {s : Store} {row : ℕ} {edition : Edition} {id : Json} {slug slug' : String}
variable {events events' : List Event} {refs : List PageRef} {entries : List Json}

/-- A page is named by the text of its id alone. -/
theorem eq_of_toString_eq {p q : Page} (hp : p ∈ s.pages.rows) (hq : q ∈ s.pages.rows)
    (h : toString p.id = toString q.id) : p = q :=
  Table.eq_of_id_eq hp hq (Numeral.toString_injective h)

/-- A reference comes to one slug and to one list of events. -/
theorem ComesTo.unique (h : ComesTo s row edition id slug events)
    (h' : ComesTo s row edition id slug' events') : slug = slug' ∧ events = events' := by
  -- each case says something of the pages of the row that contradicts all other cases
  cases h with
  | found hp hrow hid hslug =>
    cases h' with
    | found hp' hrow' hid' hslug' =>
      rw [eq_of_toString_eq hp hp' (hid.trans hid'.symm), hslug'] at hslug
      exact ⟨(Option.some.inj hslug).symm, rfl⟩
    | noPages h => exact absurd hrow (h _ hp)
    | notFound _ _ h => exact absurd hid (h _ hp hrow)
    | versionMissing hp' hrow' hid' hslug' =>
      rw [eq_of_toString_eq hp hp' (hid.trans hid'.symm), hslug'] at hslug
      cases hslug
  | noPages h =>
    cases h' with
    | noPages _ => exact ⟨rfl, rfl⟩
    | found hp hrow => exact absurd hrow (h _ hp)
    | notFound hp hrow => exact absurd hrow (h _ hp)
    | versionMissing hp hrow => exact absurd hrow (h _ hp)
  | notFound hp hrow h =>
    cases h' with
    | found hp' hrow' hid' => exact absurd hid' (h _ hp' hrow')
    | noPages h' => exact absurd hrow (h' _ hp)
    | notFound _ _ _ => exact ⟨rfl, rfl⟩
    | versionMissing hp' hrow' hid' => exact absurd hid' (h _ hp' hrow')
  | versionMissing hp hrow hid hslug =>
    cases h' with
    | found hp' hrow' hid' hslug' =>
      rw [eq_of_toString_eq hp hp' (hid.trans hid'.symm), hslug'] at hslug
      cases hslug
    | noPages h => exact absurd hrow (h _ hp)
    | notFound _ _ h => exact absurd hid (h _ hp hrow)
    | versionMissing _ _ _ _ => exact ⟨rfl, rfl⟩

theorem mem_pagesOf {p : Page} : p ∈ s.pagesOf row ↔ p ∈ s.pages.rows ∧ p.application = row := by
  unfold Store.pagesOf
  rw [List.mem_filter, beq_iff_eq]

/-- **Resolving a reference** among the pages of its row. -/
theorem comesTo_resolve (s : Store) (row : ℕ) (edition : Edition) (ref : PageRef) :
    match ref.resolve row (s.pagesOf row) edition with
    | .ok slug => ComesTo s row edition ref.id slug []
    | .error event => ComesTo s row edition ref.id "" [event] := by
  unfold resolve
  by_cases hnone : (s.pagesOf row).isEmpty = true
  · rw [if_pos hnone]
    refine .noPages fun p hp hrow => ?_
    have hmem := mem_pagesOf.mpr ⟨hp, hrow⟩
    rw [List.isEmpty_iff.mp hnone] at hmem
    cases hmem
  · rw [if_neg hnone]
    cases hfound : ref.pageAmong? (s.pagesOf row) with
    | none =>
      -- the row has pages, but none of the wanted id
      obtain ⟨p, hp⟩ := List.exists_mem_of_ne_nil _ (mt List.isEmpty_iff.mpr hnone)
      obtain ⟨hp, hrow⟩ := mem_pagesOf.mp hp
      refine .notFound hp hrow fun q hq hqrow hid => ?_
      exact List.find?_eq_none.mp hfound q (mem_pagesOf.mpr ⟨hq, hqrow⟩) (beq_iff_eq.mpr hid)
    | some p =>
      obtain ⟨hp, hrow⟩ := mem_pagesOf.mp (List.mem_of_find?_eq_some hfound)
      have hid : toString p.id = ref.id.display :=
        beq_iff_eq.mp
          (List.find?_some (p := fun p : Page => toString p.id == ref.id.display) hfound)
      dsimp only
      cases hslug : edition.slug p with
      | none => exact .versionMissing hp hrow hid hslug
      | some slug => exact .found hp hrow hid hslug

/-! ### The references of an edition -/

/-- References are those of stored entries, of which only the first default one may have a slug, and
this is the one that it comes to. -/
structure AreFor (s : Store) (row : ℕ) (edition : Edition) (entries : List Json)
    (refs : List PageRef) (events : List Event) : Prop where
  correspond : List.Forall₂ IsFor entries refs
  single : ∀ before ref after, refs = before ++ ref :: after → ref.slug ≠ "" →
    ref.isDefault = true ∧ ∀ r ∈ before, r.isDefault = false
  default : ∀ ref, refs.find? (·.isDefault) = some ref →
    ComesTo s row edition ref.id ref.slug events
  silent : refs.find? (·.isDefault) = none → events = []

section resolveFirst

variable {pages : List Page} {ref : PageRef} {rest : List PageRef}

theorem resolveFirst_of_not_default (h : ref.isDefault = false) :
    resolveFirst row pages edition (ref :: rest) =
      (ref :: (resolveFirst row pages edition rest).1,
        (resolveFirst row pages edition rest).2) := by
  rw [resolveFirst, if_neg (by rw [h]; exact Bool.false_ne_true)]

theorem resolveFirst_of_ok (h : ref.isDefault = true)
    (hslug : ref.resolve row pages edition = .ok slug) :
    resolveFirst row pages edition (ref :: rest) = ({ ref with slug } :: rest, []) := by
  rw [resolveFirst, if_pos h, hslug]

theorem resolveFirst_of_error (h : ref.isDefault = true) {event : Event}
    (hevent : ref.resolve row pages edition = .error event) :
    resolveFirst row pages edition (ref :: rest) = (ref :: rest, [event]) := by
  rw [resolveFirst, if_pos h, hevent]

/-- Putting in a slug leaves what the references are read from. -/
theorem isFor_resolveFirst (h : List.Forall₂ IsFor entries refs) :
    List.Forall₂ IsFor entries (resolveFirst row pages edition refs).1 := by
  induction h with
  | nil => exact .nil
  | @cons entry ref entries rest hfirst hrest ih =>
    cases hdefault : ref.isDefault with
    | false =>
      rw [resolveFirst_of_not_default hdefault]
      exact .cons hfirst ih
    | true =>
      cases hresolve : ref.resolve row pages edition with
      | ok slug =>
        rw [resolveFirst_of_ok hdefault hresolve]
        exact .cons hfirst hrest
      | error event =>
        rw [resolveFirst_of_error hdefault hresolve]
        exact .cons hfirst hrest

/-- What is noted is the same once the slugs are put in. -/
theorem resolveFirst_resolved (refs : List PageRef) :
    (resolveFirst row pages edition (resolveFirst row pages edition refs).1).2 =
      (resolveFirst row pages edition refs).2 := by
  induction refs with
  | nil => rfl
  | cons ref rest ih =>
    cases hdefault : ref.isDefault with
    | false =>
      rw [resolveFirst_of_not_default hdefault]
      dsimp only
      rw [resolveFirst_of_not_default hdefault]
      exact ih
    | true =>
      cases hresolve : ref.resolve row pages edition with
      | ok slug =>
        -- resolving does not look at the slug that is there
        rw [resolveFirst_of_ok hdefault hresolve]
        have hagain : ({ ref with slug } : PageRef).isDefault = true := hdefault
        exact congrArg Prod.snd (resolveFirst_of_ok hagain hresolve)
      | error event =>
        rw [resolveFirst_of_error hdefault hresolve]
        exact congrArg Prod.snd (resolveFirst_of_error hdefault hresolve)

end resolveFirst

/-- **Either no reference is a default one, or the first one that is gets what it comes to**, and
all others stay as they are. -/
theorem resolveFirst_cases (s : Store) (row : ℕ) (edition : Edition)
    (hplain : ∀ ref ∈ refs, ref.slug = "") :
    ((∀ ref ∈ refs, ref.isDefault = false) ∧
        resolveFirst row (s.pagesOf row) edition refs = (refs, [])) ∨
      ∃ before ref after slug events, refs = before ++ ref :: after ∧ ref.isDefault = true ∧
        (∀ r ∈ before, r.isDefault = false) ∧ ComesTo s row edition ref.id slug events ∧
          resolveFirst row (s.pagesOf row) edition refs =
            (before ++ { ref with slug } :: after, events) := by
  -- by induction on the references: what is not a default one is passed over
  induction refs with
  | nil => exact Or.inl ⟨List.forall_mem_nil _, rfl⟩
  | cons ref rest ih =>
    obtain ⟨hslug, hrest⟩ := List.forall_mem_cons.mp hplain
    cases hdefault : ref.isDefault with
    | false =>
      rw [resolveFirst_of_not_default hdefault]
      rcases ih hrest with ⟨hnone, heq⟩ | ⟨before, r, after, slug, events, rfl, hr, hbefore,
        hcomes, heq⟩ <;> rw [heq]
      · exact Or.inl ⟨List.forall_mem_cons.mpr ⟨hdefault, hnone⟩, rfl⟩
      · exact Or.inr ⟨ref :: before, r, after, slug, events, rfl, hr,
          List.forall_mem_cons.mpr ⟨hdefault, hbefore⟩, hcomes, rfl⟩
    | true =>
      -- the first default reference ends the search, whatever it comes to
      have hcomes := comesTo_resolve s row edition ref
      cases hresolve : ref.resolve row (s.pagesOf row) edition with
      | ok slug =>
        rw [hresolve] at hcomes
        exact Or.inr ⟨[], ref, rest, slug, [], rfl, hdefault, List.forall_mem_nil _, hcomes,
          resolveFirst_of_ok hdefault hresolve⟩
      | error event =>
        rw [hresolve] at hcomes
        refine Or.inr ⟨[], ref, rest, "", [event], rfl, hdefault, List.forall_mem_nil _, hcomes, ?_⟩
        -- the reference has had no slug before
        rw [resolveFirst_of_error hdefault hresolve, ← hslug]
        rfl

/-- **The references of an edition with the slug put in.** -/
theorem areFor_resolveFirst (hfor : List.Forall₂ IsFor entries refs)
    (hplain : ∀ ref ∈ refs, ref.slug = "") :
    AreFor s row edition entries (resolveFirst row (s.pagesOf row) edition refs).1
      (resolveFirst row (s.pagesOf row) edition refs).2 := by
  have hcorrespond :
      List.Forall₂ IsFor entries (resolveFirst row (s.pagesOf row) edition refs).1 :=
    isFor_resolveFirst hfor
  rcases resolveFirst_cases s row edition hplain with ⟨hnone, heq⟩ |
    ⟨before, ref, after, slug, events, rfl, hdefault, hbefore, hcomes, heq⟩ <;>
    rw [heq] at hcorrespond ⊢
  -- without a default reference no slug is put in, and there is nothing to note
  · refine ⟨hcorrespond, ?_, ?_, fun _ => rfl⟩
    · rintro before ref after rfl hslug
      exact absurd (hplain ref (List.mem_append_right _ List.mem_cons_self)) hslug
    · intro ref hfirst
      have hdefault := List.find?_some hfirst
      rw [hnone ref (List.mem_of_find?_eq_some hfirst)] at hdefault
      cases hdefault
  -- putting in the slug leaves the reference the first default one
  · have hfirst : (before ++ { ref with slug } :: after).find? (·.isDefault) =
        some { ref with slug } := by
      have hbefore : before.find? (·.isDefault) = none :=
        List.find?_eq_none.mpr (by simpa using hbefore)
      rw [List.find?_append, hbefore, Option.none_or]
      exact List.find?_cons_of_pos hdefault
    refine ⟨hcorrespond, ?_, ?_, ?_⟩
    · intro front r back heq hslug
      -- all others are without a slug, so this is the place where it has been put in
      have hfront : r ∉ before := fun hr => hslug (hplain r (List.mem_append_left _ hr))
      have hback : r ∉ after := fun hr =>
        hslug (hplain r (List.mem_append_right _ (List.mem_cons_of_mem _ hr)))
      obtain ⟨rfl, rfl, -⟩ := (List.append_cons_inj_of_notMem hfront hback).mp heq
      exact ⟨hdefault, hbefore⟩
    · intro r hr
      obtain rfl := Option.some.inj (hfirst.symm.trans hr)
      exact hcomes
    · intro hnone
      rw [hfirst] at hnone
      cases hnone

/-! ### Stored references -/

theorem ofStored_spec {entry : Json} {ref : PageRef} (h : ofStored entry = .ok ref) :
    IsFor entry ref ∧ ref.slug = "" := by
  obtain ⟨id, hid, h⟩ := bind_eq_ok_iff.mp h
  obtain ⟨v, hv, h⟩ := bind_eq_ok_iff.mp h
  obtain rfl := Except.ok.inj h
  exact ⟨⟨hid, v, hv, rfl⟩, rfl⟩

/-- The references of a stored list, before a slug is put in. -/
theorem listOfStored_spec (h : listOfStored (.list entries) = .ok refs) :
    List.Forall₂ IsFor entries refs ∧ ∀ ref ∈ refs, ref.slug = "" := by
  cases entries with
  | nil =>
    obtain rfl : refs = [] := (Except.ok.inj h).symm
    exact ⟨.nil, List.forall_mem_nil _⟩
  | cons entry rest =>
    have hread : (entry :: rest).mapM ofStored = .ok refs := h
    refine ⟨(forall₂_of_mapM_ok hread).imp fun _ _ h => (ofStored_spec h).1, fun ref href => ?_⟩
    obtain ⟨stored, -, hstored⟩ := exists_of_mapM_ok hread href
    exact (ofStored_spec hstored).2

end PageRef

/-! ### One application -/

/-- What is stored of the references of an edition. -/
def Application.stored (a : Application) : Edition → Json
  | .unpublished => a.pages
  | .published => a.publishedPages

namespace ListedApplication

variable {s : Store} {a : Application} {l plain : ListedApplication} {edition : Edition}

/-- What is noted of an edition of a listed application. -/
def faults (s : Store) (l : ListedApplication) (edition : Edition) : List Event :=
  (PageRef.resolveFirst l.row (s.pagesOf l.row) edition (l.refs edition)).2

theorem listOfStored_of_ofApplication (h : ofApplication a = .ok plain) (edition : Edition) :
    PageRef.listOfStored (a.stored edition) = .ok (plain.refs edition) := by
  obtain ⟨id, -, h⟩ := bind_eq_ok_iff.mp h
  obtain ⟨pages, hpages, h⟩ := bind_eq_ok_iff.mp h
  obtain ⟨published, hpublished, h⟩ := bind_eq_ok_iff.mp h
  obtain rfl := Except.ok.inj h
  cases edition with
  | unpublished => exact hpages
  | published => exact hpublished

theorem refs_withSlugs (s : Store) (l : ListedApplication) (edition : Edition) :
    (l.withSlugs s).1.refs edition =
      (PageRef.resolveFirst l.row (s.pagesOf l.row) edition (l.refs edition)).1 := by
  cases edition <;> rfl

/-- What is noted of an application is the same once its slugs are put in. -/
theorem faults_withSlugs (s : Store) (l : ListedApplication) (edition : Edition) :
    (l.withSlugs s).1.faults s edition = l.faults s edition := by
  unfold faults
  rw [refs_withSlugs]
  exact PageRef.resolveFirst_resolved _

theorem events_withSlugs (s : Store) (l : ListedApplication) :
    (l.withSlugs s).2 = l.faults s .unpublished ++ l.faults s .published := rfl

/-- **The references of a listed application** are those of its row. -/
theorem Shows.areFor (h : l.Shows s a) {entries : List Json}
    (hentries : a.stored edition = .list entries) :
    PageRef.AreFor s l.row edition entries (l.refs edition) (l.faults s edition) := by
  obtain ⟨plain, hplain, rfl⟩ := h
  have hlist := listOfStored_of_ofApplication hplain edition
  rw [hentries] at hlist
  obtain ⟨hfor, hslugs⟩ := PageRef.listOfStored_spec hlist
  rw [faults_withSlugs, refs_withSlugs]
  exact PageRef.areFor_resolveFirst hfor hslugs

end ListedApplication

/-! ### The log -/

/-- Whether an event is an error other than that the release notes have failed. -/
def Event.isFault (e : Event) : Bool := e.level == .error && !(e matches .releaseNotesFailed)

theorem PageRef.ComesTo.isFault {s : Store} {row : ℕ} {edition : Edition} {id : Json}
    {slug : String} {events : List Event} (h : ComesTo s row edition id slug events) :
    ∀ e ∈ events, e.isFault = true := by
  cases h with
  | found => exact List.forall_mem_nil _
  | _ => exact List.forall_mem_singleton.mpr rfl

theorem ListedApplication.isFault_of_mem_faults {s : Store} {l : ListedApplication}
    {edition : Edition} {e : Event} (he : e ∈ l.faults s edition) : e.isFault = true := by
  obtain ⟨ref, -, hresolve⟩ := PageRef.exists_of_mem_resolveFirst he
  have hcomes := PageRef.comesTo_resolve s l.row edition ref
  rw [hresolve] at hcomes
  exact hcomes.isFault e List.mem_cons_self

namespace Service

/-- What is noted is no fault. -/
def faultless : Frame where
  rel s t := ∃ entries, t.log = s.log ++ entries ∧ ∀ entry ∈ entries, entry.event.isFault = false
  refl := fun s => ⟨[], (List.append_nil _).symm, List.forall_mem_nil _⟩
  trans := by
    rintro s t u ⟨entries, hlog, hentries⟩ ⟨more, hmore, hall⟩
    refine ⟨entries ++ more, by rw [hmore, hlog, List.append_assoc], fun entry hentry => ?_⟩
    rcases List.mem_append.mp hentry with hentry | hentry
    · exact hentries entry hentry
    · exact hall entry hentry

theorem faultless_of_log_eq {s t : Site} (h : t.log = s.log) : faultless.rel s t :=
  ⟨[], by rw [h, List.append_nil], List.forall_mem_nil _⟩

theorem faultless_noting (s : Site) {events : List Event} (h : ∀ e ∈ events, e.isFault = false) :
    faultless.rel s (s.noting events) := by
  refine ⟨_, rfl, fun entry hentry => ?_⟩
  obtain ⟨e, he, rfl⟩ := List.mem_map.mp hentry
  exact h e he

theorem faultless_distant : faultless.Distant where
  news := by
    intro s e he
    refine faultless_noting s (List.forall_mem_singleton.mpr ?_)
    cases e <;> first | rfl | cases he
  cache := fun s cache => faultless_of_log_eq rfl
  requests := fun s requests => faultless_of_log_eq rfl

end Service

namespace Homepage

variable {s : Store} {user : ℕ} {groups : List WorkspaceGroup} {noted : List Event}

/-- Getting the release notes notes no fault. -/
theorem faultless_releasesAt (url : String) : faultless.Keeps (releasesAt url) := by
  intro s
  have hnodes := (ReleaseNotes.detached_nodesAt url).keeps faultless_distant s
  unfold Frame.KeepsAt at hnodes ⊢
  rw [exec_releasesAt]
  rcases hrun : (ReleaseNotes.nodesAt url).exec s with ⟨e | nodes, t⟩ <;> rw [hrun] at hnodes
  · refine faultless.trans hnodes (faultless_noting t (List.forall_mem_singleton.mpr ?_))
    unfold skipped
    split <;> rfl
  · exact hnodes

theorem isFault_of_mem_groupsIn {ids : List ℕ} {recentWorkspaces recentApplications : Json}
    {e : Event} (he : e ∈ (groupsIn s ids recentWorkspaces recentApplications).2) :
    e.isFault = false := by
  unfold groupsIn listedIn at he
  split at he
  · cases he
  · dsimp only at he
    split at he
    · cases he
    · rw [List.mem_singleton.mp he]
      rfl

theorem slugEvents_eq (s : Store) (g : WorkspaceGroup) :
    g.slugEvents s = (g.withSlugs s).applications.flatMap fun l =>
      l.faults s .unpublished ++ l.faults s .published := by
  unfold WorkspaceGroup.withSlugs WorkspaceGroup.slugEvents
  rw [List.flatMap_map]
  exact List.flatMap_congr fun l _ => by
    rw [l.faults_withSlugs, l.faults_withSlugs, l.events_withSlugs]

/-- What is noted when the slugs are put in are the faults, in the order of the groups. -/
theorem faults_slugEvents (s : Store) (plain : List WorkspaceGroup) :
    (plain.flatMap (·.slugEvents s)).filter Event.isFault =
      ((plain.map (·.withSlugs s)).flatMap (·.applications)).flatMap fun l =>
        l.faults s .unpublished ++ l.faults s .published := by
  have hevents : (plain.flatMap (·.slugEvents s)) =
      ((plain.map (·.withSlugs s)).flatMap (·.applications)).flatMap fun l =>
        l.faults s .unpublished ++ l.faults s .published := by
    rw [List.flatMap_assoc, List.flatMap_map]
    exact List.flatMap_congr fun g _ => slugEvents_eq s g
  rw [hevents, List.filter_eq_self]
  intro e he
  obtain ⟨l, -, he⟩ := List.mem_flatMap.mp he
  rcases List.mem_append.mp he with he | he
  · exact l.isFault_of_mem_faults he
  · exact l.isFault_of_mem_faults he

/-- **What is noted of the groups** are the faults of their applications, in order, and how many
applications there are. -/
theorem faults_shownTo (h : shownTo s user = (.ok groups, noted)) :
    noted.filter Event.isFault = (groups.flatMap (·.applications)).flatMap fun l =>
      l.faults s .unpublished ++ l.faults s .published := by
  unfold shownTo at h
  split_ifs at h
  · cases h
    rfl
  · cases hgroups : groupsIn s (s.workspaceIdsOf user) (s.recentOf user (·.recentWorkspaces))
        (s.recentOf user (·.recentApplications)) with
    | mk plain before =>
    rw [hgroups] at h
    cases plain with
    | error e => cases h
    | ok plain =>
      obtain ⟨hshown, rfl⟩ := Prod.mk.inj h
      obtain rfl := Except.ok.inj hshown
      have hbefore : before.filter Event.isFault = [] := by
        rw [List.filter_eq_nil_iff]
        intro e he
        rw [isFault_of_mem_groupsIn (by rw [hgroups]; exact he)]
        exact Bool.false_ne_true
      rw [List.filter_append, hbefore, List.nil_append, faults_slugEvents]

theorem isFault_of_mem_initialisation {d : UserData} {version : String} {e : Event}
    (he : e ∈ Remembrance.initialisation d version) : e.isFault = false := by
  unfold Remembrance.initialisation at he
  split_ifs at he
  · cases he
  · rw [List.mem_singleton.mp he]
    rfl

/-- Fixing the viewed version notes no fault. -/
theorem faultless_ensureViewed (u : User) :
    faultless.Keeps (Remembrance.ensureViewed (.user u)) := by
  intro s
  unfold Frame.KeepsAt
  have hcreation : ∀ e ∈ Remembrance.creation s.store u.id, e.isFault = false := by
    intro e he
    rw [Remembrance.creation_spec he]
    rfl
  by_cases h : Remembrance.Viewable (s.store.remembered u.id s.clock)
  · obtain ⟨store, hviewed, -, -⟩ := Remembrance.exec_ensureViewed_ok h
    rw [hviewed]
    refine faultless.trans (faultless_of_log_eq rfl) (faultless_noting { s with store } ?_)
    exact List.forall_mem_append.mpr ⟨hcreation, fun e => isFault_of_mem_initialisation⟩
  · rw [Remembrance.exec_ensureViewed_error h]
    exact faultless_noting s hcreation

/-- **Completing a homepage notes no fault.** -/
theorem keeps_faultless_finish (u : User) (url : Option String) (data : Option UserData)
    (groups : List WorkspaceGroup) : faultless.Keeps (finish u url data groups) := by
  unfold finish
  refine Frame.keeps_get.bind fun s => (faultless_releasesAt _).bind fun releases =>
    (faultless_ensureViewed u).bind fun _ => Frame.Keeps.bind ?_ fun _ => Frame.keeps_pure _
  exact fun s => faultless_noting s (List.forall_mem_singleton.mpr rfl)

/-- A homepage is completed if the viewed version can be fixed. -/
theorem faultless_finish {u : User} (site : Site) (url : Option String) (data : Option UserData)
    (groups : List WorkspaceGroup)
    (h : ∀ now, Remembrance.Viewable (site.store.remembered u.id now)) :
    ∃ homepage site', (finish u url data groups).exec site = (.ok homepage, site') ∧
      homepage.groups = groups ∧ faultless.rel site site' := by
  obtain ⟨releases, t, hreleases, hstore⟩ :=
    exists_exec_releasesAt (url.getD site.settings.releaseNotesUrl) site
  obtain ⟨store, hfinish, -, -⟩ := exec_finish_ok url data groups hreleases rfl
    (hstore ▸ h t.clock)
  have hkept := keeps_faultless_finish u url data groups site
  rw [Frame.KeepsAt, hfinish] at hkept
  exact ⟨_, _, hfinish, rfl, hkept⟩

/-- **Every default page gets its slug, or the fault is noted.** For a store of the right shape the
homepage is built. For each application that it lists, and for each edition, the references are
those of the row, and only the first default one has a slug if it names a page of the row. The
errors in the log, but for that the release notes have failed, are the faults of the listed
applications, at most one for each edition, in the order of the homepage. -/
theorem build_pageSlugs (site : Site) (u : User) {recentWorkspaces recentApplications : List Json}
    (h : site.store.WellShaped u.id recentWorkspaces recentApplications) (url : Option String) :
    ∃ homepage site' entries, ∃ told : ListedApplication → Edition → List Event,
      (build (.user u) url).exec site = (.ok homepage, site') ∧
        (∀ g ∈ homepage.groups, ∀ l ∈ g.applications, ∃ a ∈ site.store.applications.rows,
          a.id = l.row ∧ a.workspace = g.workspace.id ∧
            ∀ edition, ∃ stored, a.stored edition = .list stored ∧
              PageRef.AreFor site.store a.id edition stored (l.refs edition) (told l edition)) ∧
          site'.log = site.log ++ entries ∧
            (entries.map (·.event)).filter Event.isFault =
              homepage.applications.flatMap fun l => told l .unpublished ++ told l .published := by
  -- the groups are arranged first; finishing the homepage notes no fault
  have hshown := shownTo_ok h
  rcases hrun : shownTo site.store u.id with ⟨outcome, noted⟩
  rw [hrun] at hshown
  obtain rfl : outcome = .ok _ := hshown
  obtain ⟨homepage, site', hfinish, hgroups, entries, hlog, hentries⟩ :=
    faultless_finish (site.noting noted) url (site.store.dataOf? u.id)
      (arranged site.store u.id recentWorkspaces recentApplications) fun now => h.viewable now
  refine ⟨homepage, site', (noted.map fun e => ⟨e, site.context⟩) ++ entries,
    fun l edition => l.faults site.store edition, ?_, ?_, ?_, ?_⟩
  · rw [exec_build, hrun]
    exact hfinish
  · intro g hg l hl
    rw [hgroups] at hg
    obtain ⟨hworkspace, hmember⟩ := (arranged_isExact h).sound g hg
    obtain ⟨a, ⟨ha, haw, -⟩, hshows⟩ := ((arranged_isExact h).groups g hg).sound l hl
    -- an entry lists the row that it was made from, also if clients know it by another id
    have hrow : l.row = a.id := by
      obtain ⟨plain, hplain, rfl⟩ := hshows
      exact (ListedApplication.ofApplication_spec hplain).2.1
    refine ⟨a, ha, hrow.symm, haw, fun edition => ?_⟩
    rw [← haw] at hmember
    -- both editions of a row in a workspace of the user have the right shape
    have hstored : (a.stored edition).IsRefList := by
      cases edition with
      | unpublished => exact h.pages a ha hmember
      | published => exact h.publishedPages a ha hmember
    obtain ⟨stored, hstored, -⟩ := hstored
    exact ⟨stored, hstored, hrow ▸ hshows.areFor hstored⟩
  · rw [hlog, ← List.append_assoc]
    rfl
  -- the faults are those that were noted while the groups were arranged
  · have hquiet : (entries.map (·.event)).filter Event.isFault = [] := by
      rw [List.filter_eq_nil_iff]
      intro e he
      obtain ⟨entry, hentry, rfl⟩ := List.mem_map.mp he
      rw [hentries entry hentry]
      exact Bool.false_ne_true
    have hnoted : (noted.map fun e => (⟨e, site.context⟩ : LogEntry)).map (·.event) = noted := by
      rw [List.map_map]
      exact noted.map_id
    rw [List.map_append, List.filter_append, hquiet, List.append_nil, hnoted, faults_shownTo hrun,
      ← hgroups]
    rfl

/-- A store with one application, whose default page has not been published. -/
def sampleUnpublished : Store where
  users := Table.empty.insert { id := 1, username := "ivy" } rfl
  workspaces := Table.empty.insert ⟨1, "Docs", "docs", ⟨0⟩, ⟨0⟩⟩ rfl
  memberships := Table.empty.insert ⟨1, 1, 1, "editor"⟩ rfl
  applications := Table.empty.insert
    { id := 1, workspace := 1, name := "A", slug := "a"
      pages := .list [.object [("id", .int 7)],
        .object [("id", .text "1"), ("isDefault", .int 1)]]
      publishedPages := .list [.object [("id", .int 1), ("isDefault", .bool true)]] } rfl
  pages := Table.empty.insert
    { id := 1, application := 1, unpublishedName := "Home", unpublishedSlug := "home" } rfl

theorem sampleUnpublished_wellShaped : sampleUnpublished.WellShaped 1 [] [] where
  workspaceList := rfl
  applicationList := rfl
  workspaceIds := List.forall_mem_nil _
  applicationIds := List.forall_mem_nil _
  metadata := List.forall_mem_singleton.mpr fun _ => Or.inl rfl
  pages := List.forall_mem_singleton.mpr fun _ =>
    ⟨_, rfl, List.forall_mem_cons.mpr ⟨⟨_, rfl⟩, List.forall_mem_singleton.mpr ⟨_, rfl⟩⟩⟩
  publishedPages := List.forall_mem_singleton.mpr fun _ =>
    ⟨_, rfl, List.forall_mem_singleton.mpr ⟨_, rfl⟩⟩

/-- The second reference of the application gets the slug of the page, and the one of the published
edition gets none, which is the one fault. -/
theorem build_pageSlugs_sample :
    sampleUnpublished.WellShaped 1 [] [] ∧
      ∃ homepage site' entries, ∃ told : ListedApplication → Edition → List Event,
        (build (.user { id := 1, username := "ivy" }) none).exec { store := sampleUnpublished } =
            (.ok homepage, site') ∧
          (homepage.applications.map fun l =>
              ((l.refs .unpublished).map (·.slug), (l.refs .published).map (·.slug))) =
            [(["", "home"], [""])] ∧
          site'.log = entries ∧
            (entries.map (·.event)).filter Event.isFault =
              (homepage.applications.flatMap fun l => told l .unpublished ++ told l .published) ∧
            ((entries.map (·.event)).filter Event.isFault).map Event.name =
              ["homepage_page_version_missing"] := by
  obtain ⟨homepage, site', entries, told, hbuild, -, hlog, hfaults⟩ :=
    build_pageSlugs { store := sampleUnpublished } { id := 1, username := "ivy" }
      sampleUnpublished_wellShaped none
  have hslugs : ((build (.user { id := 1, username := "ivy" }) none).exec
      { store := sampleUnpublished }).1.toOption.map (fun h => h.applications.map fun l =>
        ((l.refs .unpublished).map (·.slug), (l.refs .published).map (·.slug))) =
      some [(["", "home"], [""])] := by decide +kernel
  have hnames : ((((build (.user { id := 1, username := "ivy" }) none).exec
      { store := sampleUnpublished }).2.log.map (·.event)).filter Event.isFault).map Event.name =
      ["homepage_page_version_missing"] := by decide +kernel
  rw [hbuild] at hslugs hnames
  rw [hlog] at hnames
  exact ⟨sampleUnpublished_wellShaped, homepage, site', entries, told, hbuild,
    Option.some.inj hslugs, hlog, hfaults, hnames⟩

end Homepage

end WorkspaceHome
