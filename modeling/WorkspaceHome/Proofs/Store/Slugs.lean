import WorkspaceHome.Operation.Amendment
import WorkspaceHome.Proofs.Store.Keys
import WorkspaceHome.Proofs.Store.Revision
import WorkspaceHome.Proofs.Store.Write

/-!
# The slugs of a store

Workspaces, applications and the two editions of a page have a slug beside their name (`SlugField`).
Whenever such a row is saved, a slug that is missing is made from the name, and one that is there
stays (`SlugField.settle`, `Store.SavesSlug.puts`). So a saved slug is settled
(`SlugField.isSettled_settle`), and then it is saved as it is (`SlugField.settle_eq_self`). When
rows are saved or dropped, the slugs of a table evolve: those that are not assigned stay as they are
unless they are empty, and they all stay settled (`Slugs.Evolves`).
-/

namespace WorkspaceHome

/-- A field for a slug: that of workspaces, that of applications, or one of the two of pages. -/
inductive SlugField where
  | workspace
  | application
  | unpublished
  | published
  deriving DecidableEq

/-- The slug of a row, and the name that it is made from if it is missing. -/
structure SlugEntry where
  id : ℕ
  slug : Option String
  name : Option String

/-- A slug is empty only if that of its name is, and it is not missing if there is a name. -/
structure SlugEntry.IsSettled (e : SlugEntry) : Prop where
  empty : e.slug = some "" → Text.slug (e.name.getD "") = ""
  there : e.name.getD "" ≠ "" → e.slug ≠ none

namespace SlugField

variable {f : SlugField} {slug name : Option String}

/-- The slug with which a row is saved. -/
def settle (f : SlugField) (slug name : Option String) : Option String :=
  match f with
  | .published => savedPublishedSlug slug name
  | _ => some (savedSlug slug (name.getD ""))

theorem slug_empty : Text.slug "" = "" := by decide

theorem savedSlug_eq (slug : Option String) (name : String) :
    savedSlug slug name = if slug.getD "" = "" then Text.slug name else slug.getD "" := by
  cases slug with
  | none => rfl
  | some s => rfl

/-- **A slug that is there is saved as it is.** -/
theorem settle_of_given (h : slug.getD "" ≠ "") : f.settle slug name = slug := by
  have hsome : some (slug.getD "") = slug := by
    cases slug with
    | none => exact absurd rfl h
    | some s => rfl
  cases f with
  | published => exact if_neg fun hmissing => h hmissing.1
  | _ => exact (congrArg some ((savedSlug_eq _ _).trans (if_neg h))).trans hsome

/-- **A slug that is missing is made from the name**, if there is one in the case of a published
page. -/
theorem settle_of_missing (h : slug.getD "" = "") (hname : f = .published → name.getD "" ≠ "") :
    f.settle slug name = some (Text.slug (name.getD "")) := by
  cases f with
  | published => exact if_pos ⟨h, hname rfl⟩
  | _ => exact congrArg some ((savedSlug_eq _ _).trans (if_pos h))

/-- Without a name nothing is made of the missing slug of a published page. -/
theorem settle_of_unnamed (h : name.getD "" = "") : published.settle slug name = slug :=
  if_neg fun hmissing => hmissing.2 h

/-- **What is saved is settled.** -/
theorem isSettled_settle (f : SlugField) (id : ℕ) (slug name : Option String) :
    (SlugEntry.mk id (f.settle slug name) name).IsSettled := by
  by_cases hgiven : slug.getD "" = ""
  · by_cases hname : f = .published → name.getD "" ≠ ""
    · rw [settle_of_missing hgiven hname]
      exact ⟨fun h => Option.some.inj h, fun _ => nofun⟩
    · obtain ⟨rfl, hunnamed⟩ := Classical.not_imp.mp hname
      have hunnamed : name.getD "" = "" := not_not.mp hunnamed
      rw [settle_of_unnamed hunnamed]
      refine ⟨fun _ => ?_, fun h => absurd hunnamed h⟩
      dsimp only
      rw [hunnamed]
      exact slug_empty
  · rw [settle_of_given hgiven]
    refine ⟨fun h => ?_, fun _ h => ?_⟩
    · have hslug : slug = some "" := h
      rw [hslug] at hgiven
      exact absurd rfl hgiven
    · have hslug : slug = none := h
      rw [hslug] at hgiven
      exact absurd rfl hgiven

/-- What is settled is saved as it is. -/
theorem settle_eq_self {e : SlugEntry} (h : e.IsSettled)
    (hneeded : f ≠ .published → e.slug ≠ none) : f.settle e.slug e.name = e.slug := by
  by_cases hgiven : e.slug.getD "" = ""
  · by_cases hname : f = .published → e.name.getD "" ≠ ""
    · have hthere : e.slug ≠ none := by
        by_cases hf : f = .published
        · exact h.there (hname hf)
        · exact hneeded hf
      obtain ⟨slug, hslug⟩ := Option.ne_none_iff_exists'.mp hthere
      have hempty : slug = "" := by rwa [hslug] at hgiven
      rw [settle_of_missing hgiven hname, hslug, hempty]
      rw [hempty] at hslug
      rw [h.empty hslug]
    · obtain ⟨rfl, hunnamed⟩ := Classical.not_imp.mp hname
      exact settle_of_unnamed (not_not.mp hunnamed)
  · exact settle_of_given hgiven

end SlugField

/-! ### The slugs of a table -/

/-- The slugs of all rows of a table, and the last id that has been given. -/
structure Slugs where
  entries : List SlugEntry
  last : ℕ

namespace Slugs

variable {c d e' : Slugs} {e : SlugEntry} {Assigned : ℕ → Prop}

/-- An entry is put in the place of the one with its id, or else its id has not been given before.
All other entries stay. -/
structure Puts (c : Slugs) (e : SlugEntry) (d : Slugs) : Prop where
  mem_iff : ∀ e', e' ∈ d.entries ↔ e' = e ∨ e' ∈ c.entries ∧ e'.id ≠ e.id
  last : c.last ≤ d.last
  origin : c.last < e.id ∨ ∃ old ∈ c.entries, old.id = e.id

/-- Slugs evolve if no id is given again, slugs that are neither assigned nor empty stay, and all
slugs are settled if they have been so. -/
structure Evolves (Assigned : ℕ → Prop) (c d : Slugs) : Prop where
  last : c.last ≤ d.last
  stays : ∀ e ∈ d.entries, e.id ≤ c.last → ∃ old ∈ c.entries, old.id = e.id ∧
    (¬ Assigned e.id → old.slug.getD "" ≠ "" → e.slug = old.slug)
  settled : (∀ e ∈ c.entries, e.IsSettled) → ∀ e ∈ d.entries, e.IsSettled

namespace Evolves

theorem refl (Assigned : ℕ → Prop) (c : Slugs) : Evolves Assigned c c :=
  ⟨Nat.le_refl _, fun e he _ => ⟨e, he, rfl, fun _ _ => rfl⟩, fun h => h⟩

theorem trans (h : Evolves Assigned c d) (h' : Evolves Assigned d e') : Evolves Assigned c e' := by
  refine ⟨h.last.trans h'.last, fun e he hid => ?_, fun hsettled => h'.settled (h.settled hsettled)⟩
  obtain ⟨between, hbetween, hid', hstays'⟩ := h'.stays e he (hid.trans h.last)
  obtain ⟨old, hold, hsame, hstays⟩ := h.stays between hbetween (hid'.trans_le hid)
  refine ⟨old, hold, hsame.trans hid', fun hnot hgiven => ?_⟩
  have hfirst : between.slug = old.slug := hstays (hid'.symm ▸ hnot) hgiven
  exact (hstays' hnot (hfirst.symm ▸ hgiven)).trans hfirst

theorem mono {Assigned' : ℕ → Prop} (h : Evolves Assigned c d)
    (himp : ∀ id, Assigned id → Assigned' id) : Evolves Assigned' c d := by
  refine ⟨h.last, fun e he hid => ?_, h.settled⟩
  obtain ⟨old, hold, hsame, hstays⟩ := h.stays e he hid
  exact ⟨old, hold, hsame, fun hnot => hstays fun hassigned => hnot (himp _ hassigned)⟩

end Evolves

/-- **Putting a settled entry** evolves the slugs, if it is new, its slug is assigned, or it has the
slug from before. -/
theorem Puts.evolves (h : Puts c e d) (hsettled : e.IsSettled)
    (hstays : e.id ≤ c.last → ¬ Assigned e.id → ∀ old ∈ c.entries, old.id = e.id →
      old.slug.getD "" ≠ "" → e.slug = old.slug) : Evolves Assigned c d := by
  refine ⟨h.last, fun e' he' hid => ?_, fun hall e' he' => ?_⟩
  · rcases (h.mem_iff e').mp he' with rfl | ⟨hold, -⟩
    · obtain ⟨old, hold, hsame⟩ := h.origin.resolve_left hid.not_gt
      exact ⟨old, hold, hsame, fun hnot => hstays hid hnot old hold hsame⟩
    · exact ⟨e', hold, rfl, fun _ _ => rfl⟩
  · rcases (h.mem_iff e').mp he' with rfl | ⟨hold, -⟩
    · exact hsettled
    · exact hall e' hold

end Slugs

namespace Table

variable {α μ : Type} [Row α] {view : α → SlugEntry} {t t' : Table α} {r : α}

/-- The slugs of the rows of a table, as they are viewed. -/
def slugs (view : α → SlugEntry) (t : Table α) : Slugs := ⟨t.rows.map view, t.last⟩

/-- Saving a row puts its entry. -/
theorem Saves.puts {mark : α → μ} (h : Saves mark t r t') (hview : ∀ r, (view r).id = Row.id r) :
    (t.slugs view).Puts (view r) (t'.slugs view) where
  mem_iff e := by
    show e ∈ t'.rows.map view ↔ e = view r ∨ e ∈ t.rows.map view ∧ e.id ≠ (view r).id
    simp only [List.mem_map, h.mem_iff, hview]
    constructor
    · rintro ⟨a, rfl | ⟨ha, hid⟩, rfl⟩
      · exact Or.inl rfl
      · exact Or.inr ⟨⟨a, ha, rfl⟩, by rwa [hview]⟩
    · rintro (rfl | ⟨⟨a, ha, rfl⟩, hid⟩)
      · exact ⟨r, Or.inl rfl, rfl⟩
      · exact ⟨a, Or.inr ⟨ha, by rwa [hview] at hid⟩, rfl⟩
  last := h.last
  origin := by
    rw [hview]
    refine h.origin.imp id ?_
    rintro ⟨old, hold, hid, -⟩
    exact ⟨view old, List.mem_map_of_mem hold, by rwa [hview]⟩

/-- Dropping rows drops their slugs. -/
theorem evolves_filter (Assigned : ℕ → Prop) (view : α → SlugEntry) (t : Table α)
    (keep : α → Bool) : (t.slugs view).Evolves Assigned ((t.filter keep).slugs view) := by
  have hmem : ∀ e ∈ ((t.filter keep).slugs view).entries, e ∈ (t.slugs view).entries := by
    intro e he
    obtain ⟨r, hr, rfl⟩ := List.mem_map.mp he
    exact List.mem_map_of_mem (List.mem_filter.mp hr).1
  exact ⟨Nat.le_refl _, fun e he _ => ⟨e, hmem e he, rfl, fun _ _ => rfl⟩,
    fun hall e he => hall e (hmem e he)⟩

/-- A change that leaves what is viewed leaves the slugs. -/
theorem slugs_modify {id : ℕ} {change : α → α} (keeps : ∀ r, Row.id (change r) = Row.id r)
    (h : ∀ r, view (change r) = view r) : (t.modify id change keeps).slugs view = t.slugs view := by
  unfold slugs
  rw [rows_modify, List.map_map]
  refine congrArg (Slugs.mk · t.last) (List.map_congr_left fun r _ => ?_)
  show view (if Row.id r = id then change r else r) = view r
  split_ifs
  · exact h r
  · rfl

theorem eq_of_mem_slugs (hview : ∀ r, (view r).id = Row.id r) {e e' : SlugEntry}
    (he : e ∈ (t.slugs view).entries) (he' : e' ∈ (t.slugs view).entries) (hid : e.id = e'.id) :
    e = e' := by
  obtain ⟨r, hr, rfl⟩ := List.mem_map.mp he
  obtain ⟨r', hr', rfl⟩ := List.mem_map.mp he'
  rw [hview, hview] at hid
  rw [eq_of_id_eq hr hr' hid]

theorem le_last_of_mem_slugs (hview : ∀ r, (view r).id = Row.id r) {e : SlugEntry}
    (he : e ∈ (t.slugs view).entries) : e.id ≤ (t.slugs view).last := by
  obtain ⟨r, hr, rfl⟩ := List.mem_map.mp he
  rw [hview]
  exact t.bounded r hr

end Table

/-! ### The slugs of a store -/

def Workspace.slugEntry (w : Workspace) : SlugEntry := ⟨w.id, some w.slug, some w.name⟩

def Application.slugEntry (a : Application) : SlugEntry := ⟨a.id, some a.slug, some a.name⟩

def Page.unpublishedEntry (p : Page) : SlugEntry :=
  ⟨p.id, some p.unpublishedSlug, some p.unpublishedName⟩

def Page.publishedEntry (p : Page) : SlugEntry := ⟨p.id, p.publishedSlug, p.publishedName⟩

namespace Store

/-- A row is saved with a slug and a name: with those that are assigned, or else with those that it
has had, which are empty or missing if it is new. -/
inductive SavesSlug (s : Store) : SlugField → SlugEntry → Store → Prop where
  | addWorkspace {t : Store} {now : Timestamp} {name slug : Option String} {w : Workspace}
      (h : s.addWorkspace name slug now = .ok (w, t)) : SavesSlug s .workspace ⟨w.id, slug, name⟩ t
  | saveWorkspace {t : Store} {now : Timestamp} {w : Workspace} {fields : WorkspaceFields}
      (hw : w ∈ s.workspaces.rows)
      (h : s.saveWorkspace w.id fields now = .ok t) : SavesSlug s .workspace
        ⟨w.id, fields.slug.getD (some w.slug), fields.name.getD (some w.name)⟩ t
  | addApplication {t : Store} {workspace : ℕ} {fields : ApplicationFields} {a : Application}
      (h : s.addApplication workspace fields = .ok (a, t)) : SavesSlug s .application
        ⟨a.id, fields.slug.getD (some ""), fields.name.getD (some "")⟩ t
  | saveApplication {t : Store} {a : Application} {fields : ApplicationFields}
      (ha : a ∈ s.applications.rows)
      (h : s.saveApplication a.id fields = .ok t) : SavesSlug s .application
        ⟨a.id, fields.slug.getD (some a.slug), fields.name.getD (some a.name)⟩ t
  | addUnpublished {t : Store} {application : ℕ} {fields : PageFields} {p : Page}
      (h : s.addPage application fields = .ok (p, t)) : SavesSlug s .unpublished
        ⟨p.id, fields.unpublishedSlug.getD (some ""), fields.unpublishedName.getD (some "")⟩ t
  | addPublished {t : Store} {application : ℕ} {fields : PageFields} {p : Page}
      (h : s.addPage application fields = .ok (p, t)) : SavesSlug s .published
        ⟨p.id, fields.publishedSlug.getD none, fields.publishedName.getD none⟩ t
  | saveUnpublished {t : Store} {p : Page} {fields : PageFields} (hp : p ∈ s.pages.rows)
      (h : s.savePage p.id fields = .ok t) : SavesSlug s .unpublished
        ⟨p.id, fields.unpublishedSlug.getD (some p.unpublishedSlug),
          fields.unpublishedName.getD (some p.unpublishedName)⟩ t
  | savePublished {t : Store} {p : Page} {fields : PageFields} (hp : p ∈ s.pages.rows)
      (h : s.savePage p.id fields = .ok t) : SavesSlug s .published
        ⟨p.id, fields.publishedSlug.getD p.publishedSlug,
          fields.publishedName.getD p.publishedName⟩ t

variable {s t : Store} {f : SlugField} {e e' : SlugEntry}

/-- The slugs of a field. -/
def slugs (s : Store) : SlugField → Slugs
  | .workspace => s.workspaces.slugs Workspace.slugEntry
  | .application => s.applications.slugs Application.slugEntry
  | .unpublished => s.pages.slugs Page.unpublishedEntry
  | .published => s.pages.slugs Page.publishedEntry

theorem eq_of_mem_slugs (he : e ∈ (s.slugs f).entries) (he' : e' ∈ (s.slugs f).entries)
    (hid : e.id = e'.id) : e = e' := by
  cases f <;> exact Table.eq_of_mem_slugs (fun _ => rfl) he he' hid

theorem le_last_of_mem_slugs (he : e ∈ (s.slugs f).entries) : e.id ≤ (s.slugs f).last := by
  cases f <;> exact Table.le_last_of_mem_slugs (fun _ => rfl) he

/-- Only the slugs of published pages may be missing. -/
theorem slug_ne_none (he : e ∈ (s.slugs f).entries) (hf : f ≠ .published) : e.slug ≠ none := by
  cases f with
  | published => exact absurd rfl hf
  | _ =>
    obtain ⟨r, -, rfl⟩ := List.mem_map.mp he
    exact nofun

end Store

theorem needed_eq_ok_iff {α : Type} {value : Option α} {a : α} :
    needed value = .ok a ↔ value = some a := by
  cases value <;> simp [needed]

/-- The slug of an application after fields have been assigned. -/
theorem ApplicationFields.slugEntry_of_applyTo {fields : ApplicationFields} {a a' : Application}
    (h : fields.applyTo a = .ok a') (id : ℕ) :
    Application.slugEntry { a' with id } =
      ⟨id, SlugField.application.settle (fields.slug.getD (some a.slug))
        (fields.name.getD (some a.name)), fields.name.getD (some a.name)⟩ := by
  obtain ⟨name, hname, h⟩ := bind_eq_ok_iff.mp h
  obtain ⟨isPublic, -, h⟩ := bind_eq_ok_iff.mp h
  obtain ⟨_, -, h⟩ := bind_eq_ok_iff.mp h
  obtain ⟨_, -, h⟩ := bind_eq_ok_iff.mp h
  cases h
  rw [needed_eq_ok_iff.mp hname]
  rfl

/-- The slugs of a page after fields have been assigned. -/
theorem PageFields.entries_of_applyTo {fields : PageFields} {p p' : Page}
    (h : fields.applyTo p = .ok p') (id : ℕ) :
    Page.unpublishedEntry { p' with id } =
        ⟨id, SlugField.unpublished.settle (fields.unpublishedSlug.getD (some p.unpublishedSlug))
          (fields.unpublishedName.getD (some p.unpublishedName)),
          fields.unpublishedName.getD (some p.unpublishedName)⟩ ∧
      Page.publishedEntry { p' with id } =
        ⟨id, SlugField.published.settle (fields.publishedSlug.getD p.publishedSlug)
          (fields.publishedName.getD p.publishedName),
          fields.publishedName.getD p.publishedName⟩ := by
  obtain ⟨name, hname, h⟩ := bind_eq_ok_iff.mp h
  cases h
  rw [needed_eq_ok_iff.mp hname]
  exact ⟨rfl, rfl⟩

namespace Store

variable {s t : Store} {f : SlugField} {e e' : SlugEntry} {now : Timestamp}

/-- Adding a row puts its entry. -/
theorem puts_insert {α : Type} [Row α] {rows : Table α} {view : α → SlugEntry} {r : α}
    (hr : Row.id r = rows.next) (hview : ∀ r, (view r).id = Row.id r) (he : view r = e) :
    (rows.slugs view).Puts e ((rows.insert r hr).slugs view) :=
  he ▸ (Table.saves_insert (fun _ => ()) hr).puts hview

/-- Changing a row that is there puts the entry of what it is changed to. -/
theorem puts_modify {α : Type} [Row α] {rows : Table α} {view : α → SlugEntry} {old : α}
    (hold : old ∈ rows.rows) {change : α → α} (keeps : ∀ r, Row.id (change r) = Row.id r)
    (hview : ∀ r, (view r).id = Row.id r) (he : view (change old) = e) :
    (rows.slugs view).Puts e ((rows.modify (Row.id old) change keeps).slugs view) := by
  have hsaved : Table.Saves (fun _ => ()) rows (change old)
      (rows.modify (Row.id old) change keeps) :=
    Table.saves_modify hold keeps rfl
  exact he ▸ hsaved.puts hview

/-- **Every save settles the slug** of the row, and leaves those of all others. -/
theorem SavesSlug.puts (h : s.SavesSlug f e t) :
    (s.slugs f).Puts ⟨e.id, f.settle e.slug e.name, e.name⟩ (t.slugs f) := by
  cases h with
  -- a new row comes behind all others, with an entry that no other has
  | addWorkspace h =>
    obtain ⟨name, hname, h⟩ := bind_eq_ok_iff.mp h
    obtain ⟨_, -, h⟩ := bind_eq_ok_iff.mp h
    cases h
    rw [needed_eq_ok_iff.mp hname]
    exact puts_insert rfl (fun _ => rfl) rfl
  -- a saved row is the one of its id, so its entry changes in its place
  | @saveWorkspace _ _ w fields hw h =>
    obtain ⟨w', hfound, h⟩ := bind_eq_ok_iff.mp h
    obtain ⟨hw', hid⟩ := Table.find?_eq_some_iff.mp (existing_eq_ok_iff.mp hfound)
    obtain rfl : w' = w := Table.eq_of_id_eq hw' hw hid
    obtain ⟨name, hname, h⟩ := bind_eq_ok_iff.mp h
    obtain ⟨_, -, h⟩ := bind_eq_ok_iff.mp h
    cases h
    rw [needed_eq_ok_iff.mp hname]
    refine puts_modify hw ?_ (fun _ => rfl) ?_
    · exact fun _ => rfl
    · rfl
  | addApplication h =>
    obtain ⟨a, ha, h⟩ := bind_eq_ok_iff.mp h
    cases h
    exact puts_insert rfl (fun _ => rfl) (ApplicationFields.slugEntry_of_applyTo ha _)
  | @saveApplication _ a fields ha h =>
    obtain ⟨old, hfound, h⟩ := bind_eq_ok_iff.mp h
    obtain ⟨hold, hid⟩ := Table.find?_eq_some_iff.mp (existing_eq_ok_iff.mp hfound)
    obtain rfl : old = a := Table.eq_of_id_eq hold ha hid
    obtain ⟨a', ha', h⟩ := bind_eq_ok_iff.mp h
    cases h
    refine puts_modify ha ?_ (fun _ => rfl) ?_
    · exact fun _ => rfl
    · exact ApplicationFields.slugEntry_of_applyTo ha' old.id
  -- a page has two entries, and one write settles both of them
  | addUnpublished h =>
    obtain ⟨p, hp, h⟩ := bind_eq_ok_iff.mp h
    cases h
    exact puts_insert rfl (fun _ => rfl) (PageFields.entries_of_applyTo hp _).1
  | addPublished h =>
    obtain ⟨p, hp, h⟩ := bind_eq_ok_iff.mp h
    cases h
    exact puts_insert rfl (fun _ => rfl) (PageFields.entries_of_applyTo hp _).2
  -- a saved page is looked at once for each edition
  | @saveUnpublished _ p fields hp h =>
    obtain ⟨old, hfound, h⟩ := bind_eq_ok_iff.mp h
    obtain ⟨hold, hid⟩ := Table.find?_eq_some_iff.mp (existing_eq_ok_iff.mp hfound)
    obtain rfl : old = p := Table.eq_of_id_eq hold hp hid
    obtain ⟨p', hp', h⟩ := bind_eq_ok_iff.mp h
    cases h
    refine puts_modify hp ?_ (fun _ => rfl) ?_
    · exact fun _ => rfl
    · exact (PageFields.entries_of_applyTo hp' old.id).1
  | @savePublished _ p fields hp h =>
    obtain ⟨old, hfound, h⟩ := bind_eq_ok_iff.mp h
    obtain ⟨hold, hid⟩ := Table.find?_eq_some_iff.mp (existing_eq_ok_iff.mp hfound)
    obtain rfl : old = p := Table.eq_of_id_eq hold hp hid
    obtain ⟨p', hp', h⟩ := bind_eq_ok_iff.mp h
    cases h
    refine puts_modify hp ?_ (fun _ => rfl) ?_
    · exact fun _ => rfl
    · exact (PageFields.entries_of_applyTo hp' old.id).2

end Store

end WorkspaceHome
