import WorkspaceHome.Proofs.Homepage.Versions
import WorkspaceHome.Proofs.Operation.Advance
import WorkspaceHome.Proofs.Operation.Invariant
import WorkspaceHome.Proofs.Store.Evolution

/-!
# Slugs in the course of a run

Whatever is done to a site evolves the slugs of its store, where only saving a row with a slug that
is given counts as assigning one (`Deed.evolves`), and so does any run (`Deed.evolves_performAll`).
So slugs that are not empty stay until one is assigned (`Deed.slug_eq_of_performAll`), and a run
that begins with an empty store leads to settled slugs (`Deed.slugsSettled_performAll`). Then saving
a row again changes no slug, and no homepage notes that a page that has a name has no slug
(`reachable_slugsInOrder`).
-/

namespace WorkspaceHome

open Deed Service

variable {Assigned : SlugField → ℕ → Prop} {s : Site}

/-! ### What may happen to slugs -/

/-- The slugs of the store evolve. -/
def evolving (Assigned : SlugField → ℕ → Prop) : Frame where
  rel s t := s.store.Evolves Assigned t.store
  refl s := .refl s.store
  trans := .trans

theorem evolving_of_store_eq {t : Site} (h : t.store = s.store) : (evolving Assigned).rel s t :=
  .of_slugs_eq fun _ => by rw [h]

theorem evolving_lenient : (evolving Assigned).Lenient where
  entry _ _ _ := evolving_of_store_eq rfl
  cache _ _ := evolving_of_store_eq rfl
  requests _ _ := evolving_of_store_eq rfl

/-- What evolves the slugs where it succeeds does so anyway, if a failure leaves the store. -/
theorem Service.Leaves.evolves {α : Type} {x : Service α}
    (hx : x.Leaves s fun _ store => s.store.Evolves Assigned store) :
    (evolving Assigned).KeepsAt x s := by
  unfold Frame.KeepsAt
  unfold Leaves at hx
  rcases hrun : x.exec s with ⟨e | a, t⟩ <;> rw [hrun] at hx
  · exact evolving_of_store_eq hx
  · exact hx

/-! ### The service -/

/-- What users do evolves the slugs: it only makes a workspace, which is a new row. -/
theorem evolving_upheld : (evolving Assigned).Upheld where
  toLenient := evolving_lenient
  record viewer s a _ := by
    refine ((Remembrance.leaves_recordRecent viewer a s).imp ?_).evolves
    rintro _ _ ⟨u, id, applications, workspaces, -, -, rfl⟩
    exact Store.evolves_revise _ _ _ _
  viewed viewer s := by
    refine ((Remembrance.leaves_ensureViewed viewer s).imp ?_).evolves
    rintro _ _ ⟨u, -, rfl⟩
    exact Store.evolves_revise _ _ _ _
  create name viewer s := by
    refine ((Workspaces.leaves_create_added name viewer s).imp ?_).evolves
    rintro w store ⟨u, between, m, -, hadd, hmember⟩
    refine (Store.evolves_addWorkspace hadd).trans ?_
    obtain ⟨memberships, rfl⟩ := Store.eq_of_addMember hmember
    exact .of_tables_eq rfl rfl rfl

/-! ### What is done to rows -/

/-- Whether an operation on rows assigns a slug to a row: it saves it and is given the slug. -/
def RowOperation.AssignsSlug (f : SlugField) (id : ℕ) : RowOperation → Prop
  | .saveWorkspace key fields => f = .workspace ∧ key.rowId = .ok id ∧ fields.slug ≠ none
  | .saveApplication key _ fields => f = .application ∧ key.rowId = .ok id ∧ fields.slug ≠ none
  | .savePage key fields => key.rowId = .ok id ∧
    (f = .unpublished ∧ fields.unpublishedSlug ≠ none ∨
      f = .published ∧ fields.publishedSlug ≠ none)
  | _ => False

/-- An administrator's operation evolves the slugs, apart from those that it assigns. -/
theorem evolving_rows (operation : RowOperation) (s : Site) :
    (evolving fun f id => operation.AssignsSlug f id).KeepsAt operation.perform s := by
  refine Frame.keepsAt_rows ?_
  cases operation with
  | addUser username email firstName lastName =>
    refine Frame.keepsAt_write fun u store hop => ?_
    obtain ⟨users, rfl⟩ := Store.eq_of_addUser hop
    exact .of_tables_eq rfl rfl rfl
  | addWorkspace name slug =>
    exact Frame.keepsAt_write fun w store hop => Store.evolves_addWorkspace hop
  -- a slug that is given is assigned; one that is not given is only filled in if it is empty
  | saveWorkspace id fields =>
    exact fun n hn => Frame.keepsAt_save fun store hop =>
      Store.evolves_saveWorkspace hop fun hslug => ⟨rfl, hn, hslug⟩
  | addMember workspace user role =>
    refine fun n u => Frame.keepsAt_write fun m store hop => ?_
    obtain ⟨memberships, rfl⟩ := Store.eq_of_addMember hop
    exact .of_tables_eq rfl rfl rfl
  | removeMember workspace user =>
    refine fun n u => Frame.keepsAt_write fun gone store hop => ?_
    cases hop
    exact .of_tables_eq rfl rfl rfl
  | addApplication workspace fields =>
    exact fun n => Frame.keepsAt_write fun a store hop => Store.evolves_addApplication hop
  | saveApplication id workspace fields =>
    exact fun n w hn => Frame.keepsAt_save fun store hop =>
      Store.evolves_saveApplication hop fun hslug => ⟨rfl, hn, hslug⟩
  | addPage application fields =>
    exact fun n => Frame.keepsAt_write fun p store hop => Store.evolves_addPage hop
  | savePage id fields =>
    exact fun n hn => Frame.keepsAt_save fun store hop => Store.evolves_savePage hop
      (fun hslug => ⟨hn, Or.inl ⟨rfl, hslug⟩⟩) fun hslug => ⟨hn, Or.inr ⟨rfl, hslug⟩⟩
  | saveUserData caller fields =>
    refine fun u _ => ((RowOperation.leaves_saveData u fields).imp fun d store hop => ?_).evolves
    obtain ⟨userData, rfl⟩ := Store.eq_of_saveUserData hop
    exact .of_tables_eq rfl rfl rfl
  | delete table id => exact fun n _ => Store.evolves_erase table s.store n
  | showLine table id => trivial
  | showForm form table id => trivial

/-- An amendment leaves all slugs. -/
theorem evolving_amendment (edit : Amendment) (s : Site) :
    (evolving Assigned).KeepsAt edit.perform s := by
  unfold Amendment.perform
  cases edit with
  -- users and memberships have no slugs
  | saveUser id fields =>
    refine Frame.keepsAt_bind_unchanged (Frame.keeps_storedId _ _) fun n _ =>
      (Frame.keepsAt_save fun store hop => ?_).bind fun _ t _ => Frame.keeps_pure _ t
    obtain ⟨u, -, hop⟩ := bind_eq_ok_iff.mp hop
    obtain ⟨_, -, hop⟩ := bind_eq_ok_iff.mp hop
    cases hop
    exact .of_tables_eq rfl rfl rfl
  | saveMember id workspace user role =>
    refine Frame.keepsAt_bind_unchanged (Frame.keeps_storedId _ _) fun n _ =>
      Frame.keepsAt_bind_unchanged ?_ fun w _ => Frame.keepsAt_bind_unchanged ?_ fun u _ =>
        (Frame.keepsAt_save fun store hop => ?_).bind fun _ t _ => Frame.keeps_shown _ _ t
    · cases workspace with
      | none => exact Frame.keeps_pure none
      | some workspace => exact (Frame.keeps_storedId _ workspace).map
    · cases user with
      | none => exact Frame.keeps_pure none
      | some caller => exact (Amendment.keeps_owner caller).map
    · obtain ⟨m, -, hop⟩ := bind_eq_ok_iff.mp hop
      obtain ⟨role, -, hop⟩ := bind_eq_ok_iff.mp hop
      obtain ⟨_, -, hop⟩ := bind_eq_ok_iff.mp hop
      cases hop
      exact .of_tables_eq rfl rfl rfl
  -- a page that is moved keeps its entries, which do not tell its application
  | movePage id application =>
    exact Frame.keepsAt_bind_unchanged (Frame.keeps_storedId _ _) fun n _ =>
      Frame.keepsAt_bind_unchanged (Frame.keeps_storedId _ _) fun a _ =>
        (Frame.keepsAt_save fun store hop => Store.evolves_movePage hop).bind
          fun _ t _ => Frame.keeps_shown _ _ t
  | handOver id user =>
    refine Frame.keepsAt_bind_unchanged (Frame.keeps_storedId _ _) fun n _ =>
      Frame.keepsAt_bind_unchanged (Amendment.keeps_owner user) fun u _ =>
        (Frame.keepsAt_save fun store hop => ?_).bind fun _ t _ => Frame.keeps_pure _ t
    obtain ⟨d, -, hop⟩ := bind_eq_ok_iff.mp hop
    obtain ⟨_, -, hop⟩ := bind_eq_ok_iff.mp hop
    cases hop
    exact .of_tables_eq rfl rfl rfl

/-! ### Deeds and runs -/

namespace Deed

/-- Whether a deed assigns a slug to a row. -/
def AssignsSlug (f : SlugField) (id : ℕ) : Deed → Prop
  | .operation (.rows row) => row.AssignsSlug f id
  | _ => False

/-- **A deed evolves the slugs**, apart from those that it assigns. -/
theorem evolves (deed : Deed) (site : Site) :
    site.store.Evolves (fun f id => deed.AssignsSlug f id) (deed.perform site).2.store := by
  have hact : (evolving fun f id => deed.AssignsSlug f id).Keeps deed.act := by
    intro s
    cases deed with
    | operation operation =>
      refine evolving_upheld.act (fun _ _ => evolving_of_store_eq rfl)
        (fun around t => evolving_of_store_eq (undisturbed_surroundings around t).2) ?_
      rintro row rfl
      exact evolving_rows row s
    | amendment edit => exact evolving_amendment edit s
  exact hact { site with log := [], requests := [] }

/-- **A run evolves the slugs**, apart from those that one of its deeds assigns. -/
theorem evolves_performAll (deeds : List Deed) (site : Site) :
    site.store.Evolves (fun f id => ∃ deed ∈ deeds, deed.AssignsSlug f id)
      (performAll deeds site).store := by
  induction deeds generalizing site with
  | nil => exact .refl _
  | cons deed rest ih =>
    have hfirst := (deed.evolves site).mono fun f id hassigns =>
      (⟨deed, List.mem_cons_self, hassigns⟩ : ∃ d ∈ deed :: rest, d.AssignsSlug f id)
    refine hfirst.trans ((ih _).mono ?_)
    rintro f id ⟨later, hlater, hassigns⟩
    exact ⟨later, List.mem_cons_of_mem _ hlater, hassigns⟩

/-- The slugs of all stores that can be reached are settled. -/
theorem slugsSettled_performAll (deeds : List Deed) (site : Site) :
    (performAll deeds { site with store := {} }).store.SlugsSettled := by
  refine (evolves_performAll deeds _).settled fun f e he => ?_
  cases f <;> cases he

/-- **A slug that is not empty stays** for as long as its row is there and none is assigned to it,
whatever else is done. -/
theorem slug_eq_of_performAll {site : Site} {f : SlugField} {e e' : SlugEntry}
    (he : e ∈ (site.store.slugs f).entries) (hgiven : e.slug.getD "" ≠ "") {later : List Deed}
    (hlater : ∀ deed ∈ later, ¬ deed.AssignsSlug f e.id)
    (he' : e' ∈ ((performAll later site).store.slugs f).entries) (hid : e'.id = e.id) :
    e'.slug = e.slug := by
  obtain ⟨old, hold, hsame, hstays⟩ := (evolves_performAll later site f).stays e' he'
    (hid.trans_le (Store.le_last_of_mem_slugs he))
  obtain rfl : old = e := Store.eq_of_mem_slugs hold he (hsame.trans hid)
  refine hstays ?_ hgiven
  rintro ⟨deed, hdeed, hassigns⟩
  exact hlater deed hdeed (hid ▸ hassigns)

end Deed

/-! ### Saving again -/

/-- A row is saved and given neither a name nor a slug. -/
def RowOperation.LeavesNaming : RowOperation → Prop
  | .saveWorkspace _ fields => fields.name = none ∧ fields.slug = none
  | .saveApplication _ _ fields => fields.name = none ∧ fields.slug = none
  | .savePage _ fields => fields = {}
  | _ => False

/-- Nothing is done to the slugs of the store. -/
def keepingSlugs : Frame where
  rel s t := ∀ f e, e ∈ (t.store.slugs f).entries ↔ e ∈ (s.store.slugs f).entries
  refl := fun _ _ _ => Iff.rfl
  trans := fun h h' f e => (h' f e).trans (h f e)

/-- **Saving a row again changes no slug**, if all slugs are settled, whether or not it succeeds. -/
theorem RowOperation.LeavesNaming.keepsAt {operation : RowOperation} (h : operation.LeavesNaming)
    (hs : s.store.SlugsSettled) : keepingSlugs.KeepsAt operation.perform s := by
  refine Frame.keepsAt_rows ?_
  cases operation with
  | saveWorkspace key fields =>
    exact fun n _ => Frame.keepsAt_save fun store hop =>
      Store.mem_slugs_saveWorkspace hs h.1 h.2 hop
  | saveApplication key workspace fields =>
    refine fun n w _ => Frame.keepsAt_save fun store hop =>
      Store.mem_slugs_saveApplication hs ?_ ?_ hop
    · exact h.1
    · exact h.2
  | savePage key fields =>
    obtain rfl : fields = {} := h
    exact fun n _ => Frame.keepsAt_save fun store hop => Store.mem_slugs_savePage hs hop
  | _ => exact h.elim

/-! ### Slugs are stable and never missing -/

/-- What holds of the slugs of a site. -/
structure SlugsInOrder (s : Site) : Prop where
  /-- A slug that is not empty stays, whatever else is done, until one is assigned to its row. -/
  stable : ∀ f, ∀ e ∈ (s.store.slugs f).entries, e.slug.getD "" ≠ "" →
    ∀ later : List Deed, (∀ deed ∈ later, ¬ deed.AssignsSlug f e.id) →
      ∀ e' ∈ ((Deed.performAll later s).store.slugs f).entries, e'.id = e.id → e'.slug = e.slug
  /-- A row is saved with the slug that is offered, or with that of its name if there is none. -/
  saved : ∀ f offered t, s.store.SavesSlug f offered t →
    ∃ e ∈ (t.slugs f).entries, e.id = offered.id ∧ e.name = offered.name ∧
      (offered.slug.getD "" ≠ "" → e.slug = offered.slug) ∧
      (offered.slug.getD "" = "" → (f = .published → offered.name.getD "" ≠ "") →
        e.slug = some (Text.slug (offered.name.getD "")))
  /-- A row that is saved again keeps its slugs, and so do all others. -/
  resaved : ∀ operation : RowOperation, operation.LeavesNaming → ∀ f e,
    e ∈ (((Deed.operation (.rows operation)).perform s).2.store.slugs f).entries ↔
      e ∈ (s.store.slugs f).entries
  /-- A page with a name as a published one has a slug as such. -/
  there : ∀ p ∈ s.store.pages.rows, p.publishedName.getD "" ≠ "" → p.publishedSlug ≠ none
  /-- No homepage notes of such a page that it has no slug. -/
  homepage : ∀ viewer url, ∃ entries,
    ((Homepage.build viewer url).exec s).2.log = s.log ++ entries ∧
      ∀ entry ∈ entries, ∀ row id field, entry.event = .pageVersionMissing row id field →
        field = "published_slug" ∧ ∀ p ∈ s.store.pages.rows, p.application = row →
          toString p.id = id.display → p.publishedName.getD "" = ""

namespace Store

/-- A row is saved with the slug that is offered, or with that of its name if there is none. -/
theorem SavesSlug.exists_mem {s t : Store} {f : SlugField} {offered : SlugEntry}
    (h : s.SavesSlug f offered t) : ∃ e ∈ (t.slugs f).entries,
      e.id = offered.id ∧ e.name = offered.name ∧
        (offered.slug.getD "" ≠ "" → e.slug = offered.slug) ∧
        (offered.slug.getD "" = "" → (f = .published → offered.name.getD "" ≠ "") →
          e.slug = some (Text.slug (offered.name.getD ""))) :=
  ⟨_, (h.puts.mem_iff _).mpr (Or.inl rfl), rfl, rfl, SlugField.settle_of_given,
    SlugField.settle_of_missing⟩

/-- Where the slugs are settled, a page with a name as a published one has a slug as such. -/
theorem SlugsSettled.publishedSlug_ne_none {s : Store} (h : s.SlugsSettled) {p : Page}
    (hp : p ∈ s.pages.rows) (hname : p.publishedName.getD "" ≠ "") : p.publishedSlug ≠ none :=
  (h .published _ (List.mem_map_of_mem hp)).there hname

end Store

/-- **Slugs are stable and never missing** on every site that a run comes to which begins with an
empty store. -/
theorem reachable_slugsInOrder (site : Site) (deeds : List Deed) :
    SlugsInOrder (Deed.performAll deeds { site with store := {} }) := by
  have hsettled := Deed.slugsSettled_performAll deeds site
  generalize Deed.performAll deeds { site with store := {} } = s at hsettled
  refine
    { stable := fun f e he hgiven later hlater e' he' =>
        Deed.slug_eq_of_performAll he hgiven hlater he'
      saved := fun f offered t => Store.SavesSlug.exists_mem
      resaved := fun operation h => h.keepsAt (s := { s with log := [], requests := [] }) hsettled
      there := fun p => hsettled.publishedSlug_ne_none
      homepage := fun viewer url => ?_ }
  obtain ⟨entries, hlog, hborne⟩ := Homepage.build_isBorneOut viewer url s
  refine ⟨entries, hlog, fun entry hentry row id field hevent => ?_⟩
  obtain ⟨hfield, q, hq, hrow, hid, hnone⟩ := hborne entry hentry row id field hevent
  refine ⟨hfield, fun p hp _ hpid => ?_⟩
  -- the page that is meant is the one that has no slug, so that it has no name either
  obtain rfl : p = q := PageRef.eq_of_toString_eq hp hq (hpid.trans hid.symm)
  exact by_contra fun hname => hsettled.publishedSlug_ne_none hp hname hnone

/-- A page that is published under another name keeps its slug, and gets a new one once it is
emptied. -/
example :
    let page (fields : PageFields) : Deed := .operation (.rows (.savePage (.int 1) fields))
    let renamed := performAll
      [.operation (.rows (.addWorkspace (some "W") none)),
        .operation (.rows (.addApplication (.int 1) { name := some (some "A") })),
        .operation (.rows (.addPage (.int 1)
          { unpublishedName := some (some "P"), publishedName := some (some "P") })),
        page { publishedName := some (some "Q") }] {}
    let emptied := performAll [page { publishedSlug := some (some "") }] renamed
    ((renamed.store.slugs .published).entries.map (·.slug),
      (emptied.store.slugs .published).entries.map (·.slug)) = ([some "p"], [some "q"]) := by
  decide +kernel

end WorkspaceHome
