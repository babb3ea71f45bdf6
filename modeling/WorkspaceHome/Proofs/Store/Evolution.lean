import WorkspaceHome.Proofs.Store.Slugs

/-!
# How the slugs of a store evolve

Every single write to a store evolves its slugs, whether it saves a row with a slug, saves any other
row, or deletes rows (`Store.Evolves`). A save counts as assigning a slug only if it is given one;
what is remembered of users and who is a member of what has nothing to do with slugs. Where all
slugs are settled, saving a row with the name and the slug that it has changes none
(`Store.SavesSlug.mem_iff_of_settled`).
-/

namespace WorkspaceHome.Store

variable {s t u : Store} {f : SlugField} {e old : SlugEntry} {now : Timestamp}
  {Assigned : SlugField → ℕ → Prop}

/-- The slugs of every field evolve, where those of some rows may be assigned. -/
def Evolves (Assigned : SlugField → ℕ → Prop) (s t : Store) : Prop :=
  ∀ f, (s.slugs f).Evolves (Assigned f) (t.slugs f)

/-- The slugs of a store are settled. -/
def SlugsSettled (s : Store) : Prop := ∀ f, ∀ e ∈ (s.slugs f).entries, e.IsSettled

namespace Evolves

theorem of_slugs_eq (h : ∀ f, t.slugs f = s.slugs f) : s.Evolves Assigned t := by
  intro f
  rw [h f]
  exact .refl _ _

/-- Only the tables whose rows have slugs matter. -/
theorem of_tables_eq (hworkspaces : t.workspaces = s.workspaces)
    (happlications : t.applications = s.applications) (hpages : t.pages = s.pages) :
    s.Evolves Assigned t :=
  of_slugs_eq fun f => by
    unfold slugs
    rw [hworkspaces, happlications, hpages]

theorem refl (s : Store) : s.Evolves Assigned s := of_slugs_eq fun _ => rfl

theorem trans (h : s.Evolves Assigned t) (h' : t.Evolves Assigned u) : s.Evolves Assigned u :=
  fun f => (h f).trans (h' f)

theorem mono {Assigned' : SlugField → ℕ → Prop} (h : s.Evolves Assigned t)
    (himp : ∀ f id, Assigned f id → Assigned' f id) : s.Evolves Assigned' t :=
  fun f => (h f).mono (himp f)

theorem settled (h : s.Evolves Assigned t) (hs : s.SlugsSettled) : t.SlugsSettled :=
  fun f => (h f).settled (hs f)

end Evolves

/-! ### Saving a row with a slug -/

/-- Saving a new row evolves the slugs. -/
theorem SavesSlug.evolves_of_fresh (h : s.SavesSlug f e t) (hfresh : (s.slugs f).last < e.id) :
    (s.slugs f).Evolves (Assigned f) (t.slugs f) :=
  h.puts.evolves (f.isSettled_settle _ _ _) fun hid => absurd hfresh hid.not_gt

/-- Saving a row that is there evolves the slugs, if giving it a slug counts as assigning one. -/
theorem SavesSlug.evolves (h : s.SavesSlug f e t) (hold : old ∈ (s.slugs f).entries)
    (hid : old.id = e.id) {given : Option (Option String)} (hslug : e.slug = given.getD old.slug)
    (hassigned : given ≠ none → Assigned f e.id) :
    (s.slugs f).Evolves (Assigned f) (t.slugs f) := by
  refine h.puts.evolves (f.isSettled_settle _ _ _) fun _ hnot old' hold' hid' hgiven => ?_
  obtain rfl : old' = old := eq_of_mem_slugs hold' hold (hid'.trans hid.symm)
  obtain rfl : given = none := not_not.mp fun hne => hnot (hassigned hne)
  have hsame : e.slug = old'.slug := hslug
  show f.settle e.slug e.name = old'.slug
  rw [← hsame] at hgiven ⊢
  exact SlugField.settle_of_given hgiven

/-! ### Workspaces -/

theorem evolves_addWorkspace {name slug : Option String} {w : Workspace}
    (h : s.addWorkspace name slug now = .ok (w, t)) : s.Evolves Assigned t := by
  have hsaves := SavesSlug.addWorkspace h
  obtain ⟨_, -, h⟩ := bind_eq_ok_iff.mp h
  obtain ⟨_, -, h⟩ := bind_eq_ok_iff.mp h
  cases h
  intro f
  cases f with
  | workspace => exact hsaves.evolves_of_fresh (Nat.lt_succ_self _)
  | _ => exact .refl _ _

theorem evolves_saveWorkspace {id : ℕ} {fields : WorkspaceFields}
    (h : s.saveWorkspace id fields now = .ok t)
    (hslug : fields.slug ≠ none → Assigned .workspace id) : s.Evolves Assigned t := by
  obtain ⟨w, hfound, -⟩ := bind_eq_ok_iff.mp h
  obtain ⟨hw, rfl⟩ := Table.find?_eq_some_iff.mp (existing_eq_ok_iff.mp hfound)
  have hsaves := SavesSlug.saveWorkspace hw h
  obtain ⟨workspaces, rfl⟩ := eq_of_saveWorkspace h
  intro f
  cases f with
  | workspace => exact hsaves.evolves (List.mem_map_of_mem hw) rfl rfl hslug
  | _ => exact .refl _ _

/-! ### Applications -/

theorem evolves_addApplication {workspace : ℕ} {fields : ApplicationFields} {a : Application}
    (h : s.addApplication workspace fields = .ok (a, t)) : s.Evolves Assigned t := by
  have hsaves := SavesSlug.addApplication h
  obtain ⟨_, -, h⟩ := bind_eq_ok_iff.mp h
  cases h
  intro f
  cases f with
  | application => exact hsaves.evolves_of_fresh (Nat.lt_succ_self _)
  | _ => exact .refl _ _

theorem evolves_saveApplication {id : ℕ} {fields : ApplicationFields}
    (h : s.saveApplication id fields = .ok t)
    (hslug : fields.slug ≠ none → Assigned .application id) : s.Evolves Assigned t := by
  obtain ⟨a, hfound, -⟩ := bind_eq_ok_iff.mp h
  obtain ⟨ha, rfl⟩ := Table.find?_eq_some_iff.mp (existing_eq_ok_iff.mp hfound)
  have hsaves := SavesSlug.saveApplication ha h
  obtain ⟨applications, rfl⟩ := eq_of_saveApplication h
  intro f
  cases f with
  | application => exact hsaves.evolves (List.mem_map_of_mem ha) rfl rfl hslug
  | _ => exact .refl _ _

/-! ### Pages -/

theorem evolves_addPage {application : ℕ} {fields : PageFields} {p : Page}
    (h : s.addPage application fields = .ok (p, t)) : s.Evolves Assigned t := by
  have hunpublished := SavesSlug.addUnpublished h
  have hpublished := SavesSlug.addPublished h
  obtain ⟨_, -, h⟩ := bind_eq_ok_iff.mp h
  cases h
  intro f
  cases f with
  | unpublished => exact hunpublished.evolves_of_fresh (Nat.lt_succ_self _)
  | published => exact hpublished.evolves_of_fresh (Nat.lt_succ_self _)
  | _ => exact .refl _ _

theorem evolves_savePage {id : ℕ} {fields : PageFields} (h : s.savePage id fields = .ok t)
    (hunpublished : fields.unpublishedSlug ≠ none → Assigned .unpublished id)
    (hpublished : fields.publishedSlug ≠ none → Assigned .published id) :
    s.Evolves Assigned t := by
  obtain ⟨p, hfound, -⟩ := bind_eq_ok_iff.mp h
  obtain ⟨hp, rfl⟩ := Table.find?_eq_some_iff.mp (existing_eq_ok_iff.mp hfound)
  have hsavesUnpublished := SavesSlug.saveUnpublished hp h
  have hsavesPublished := SavesSlug.savePublished hp h
  obtain ⟨pages, rfl⟩ := eq_of_savePage h
  intro f
  cases f with
  | unpublished => exact hsavesUnpublished.evolves (List.mem_map_of_mem hp) rfl rfl hunpublished
  | published => exact hsavesPublished.evolves (List.mem_map_of_mem hp) rfl rfl hpublished
  | _ => exact .refl _ _

/-- Moving a page leaves its slugs. -/
theorem evolves_movePage {id application : ℕ} (h : s.movePage id application = .ok t) :
    s.Evolves Assigned t := by
  obtain ⟨_, -, h⟩ := bind_eq_ok_iff.mp h
  cases h
  refine .of_slugs_eq fun f => ?_
  cases f with
  | unpublished => refine Table.slugs_modify ?_ ?_ <;> exact fun _ => rfl
  | published => refine Table.slugs_modify ?_ ?_ <;> exact fun _ => rfl
  | _ => rfl

/-! ### Deleting -/

/-- Deleting rows of any table evolves the slugs. -/
theorem evolves_erase (table : TableName) (s : Store) (id : ℕ) :
    s.Evolves Assigned (table.erase s id) := by
  intro f
  cases table with
  | workspace => cases f <;> exact Table.evolves_filter _ _ _ _
  | application =>
    cases f with
    | workspace => exact .refl _ _
    | _ => exact Table.evolves_filter _ _ _ _
  | page =>
    cases f with
    | workspace => exact .refl _ _
    | application => exact .refl _ _
    | _ => exact Table.evolves_filter _ _ _ _
  | membership => cases f <;> exact .refl _ _
  | userData => cases f <;> exact .refl _ _
  | user => cases f <;> exact .refl _ _

/-! ### What is remembered -/

/-- A revision of what is remembered of a user has nothing to do with slugs. -/
theorem evolves_revise (s : Store) (user : ℕ) (now : Timestamp) (r : Revision) :
    s.Evolves Assigned (s.revise user now r) :=
  have hsame := sameBut_revise s user now r
  .of_tables_eq hsame.workspaces hsame.applications hsame.pages

/-! ### Saving again -/

/-- Saving a row with the slug and the name that it has changes no slug, if its slug is settled. -/
theorem SavesSlug.mem_iff_of_settled (h : s.SavesSlug f e t) (he : e ∈ (s.slugs f).entries)
    (hsettled : e.IsSettled) (e' : SlugEntry) :
    e' ∈ (t.slugs f).entries ↔ e' ∈ (s.slugs f).entries := by
  have hputs := h.puts
  rw [SlugField.settle_eq_self hsettled fun hf => slug_ne_none he hf] at hputs
  rw [hputs.mem_iff e']
  constructor
  · rintro (rfl | ⟨he', -⟩)
    · exact he
    · exact he'
  · intro he'
    by_cases hid : e'.id = e.id
    · exact Or.inl (eq_of_mem_slugs he' he hid)
    · exact Or.inr ⟨he', hid⟩

/-- A workspace that is saved with the name and the slug that it has. -/
theorem mem_slugs_saveWorkspace (hs : s.SlugsSettled) {id : ℕ} {fields : WorkspaceFields}
    (hname : fields.name = none) (hslug : fields.slug = none)
    (h : s.saveWorkspace id fields now = .ok t) (f : SlugField) (e : SlugEntry) :
    e ∈ (t.slugs f).entries ↔ e ∈ (s.slugs f).entries := by
  obtain ⟨w, hfound, -⟩ := bind_eq_ok_iff.mp h
  obtain ⟨hw, rfl⟩ := Table.find?_eq_some_iff.mp (existing_eq_ok_iff.mp hfound)
  have hsaves := SavesSlug.saveWorkspace hw h
  rw [hname, hslug] at hsaves
  obtain ⟨workspaces, rfl⟩ := eq_of_saveWorkspace h
  cases f with
  | workspace =>
    have he := List.mem_map_of_mem (f := Workspace.slugEntry) hw
    exact hsaves.mem_iff_of_settled he (hs .workspace _ he) e
  | _ => exact Iff.rfl

/-- An application that is saved with the name and the slug that it has. -/
theorem mem_slugs_saveApplication (hs : s.SlugsSettled) {id : ℕ} {fields : ApplicationFields}
    (hname : fields.name = none) (hslug : fields.slug = none)
    (h : s.saveApplication id fields = .ok t) (f : SlugField) (e : SlugEntry) :
    e ∈ (t.slugs f).entries ↔ e ∈ (s.slugs f).entries := by
  obtain ⟨a, hfound, -⟩ := bind_eq_ok_iff.mp h
  obtain ⟨ha, rfl⟩ := Table.find?_eq_some_iff.mp (existing_eq_ok_iff.mp hfound)
  have hsaves := SavesSlug.saveApplication ha h
  rw [hname, hslug] at hsaves
  obtain ⟨applications, rfl⟩ := eq_of_saveApplication h
  cases f with
  | application =>
    have he := List.mem_map_of_mem (f := Application.slugEntry) ha
    exact hsaves.mem_iff_of_settled he (hs .application _ he) e
  | _ => exact Iff.rfl

/-- A page that is saved with the names and the slugs that it has. -/
theorem mem_slugs_savePage (hs : s.SlugsSettled) {id : ℕ} (h : s.savePage id {} = .ok t)
    (f : SlugField) (e : SlugEntry) : e ∈ (t.slugs f).entries ↔ e ∈ (s.slugs f).entries := by
  obtain ⟨p, hfound, -⟩ := bind_eq_ok_iff.mp h
  obtain ⟨hp, rfl⟩ := Table.find?_eq_some_iff.mp (existing_eq_ok_iff.mp hfound)
  have hunpublished := SavesSlug.saveUnpublished hp h
  have hpublished := SavesSlug.savePublished hp h
  obtain ⟨pages, rfl⟩ := eq_of_savePage h
  cases f with
  | unpublished =>
    have he := List.mem_map_of_mem (f := Page.unpublishedEntry) hp
    exact hunpublished.mem_iff_of_settled he (hs .unpublished _ he) e
  | published =>
    have he := List.mem_map_of_mem (f := Page.publishedEntry) hp
    exact hpublished.mem_iff_of_settled he (hs .published _ he) e
  | _ => exact Iff.rfl

end WorkspaceHome.Store
