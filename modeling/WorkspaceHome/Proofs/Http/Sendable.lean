import WorkspaceHome.Http.Payload
import WorkspaceHome.Proofs.Homepage.Exact
import WorkspaceHome.Proofs.Json.Everywhere

/-!
# What can be sent

A value can be sent if no text and no key in it is torn (`Json.IsSendable`). What a homepage shows
of workspaces can be sent if what is stored for them can (`Homepage.isSendable_arranged`), and a
release if none of its four fields is a torn text (`Node.isSendable_payload_iff`); a text or a key
inside a list or an object that stands for a field is sent in quotes, so it does no harm.
-/

namespace WorkspaceHome

/-! ### Values -/

namespace Json

/-- No text and no key in a value is torn. -/
def IsSendable (v : Json) : Prop := v.everywhere isEncodable = true

@[simp]
theorem isSendable_null : null.IsSendable := rfl

@[simp]
theorem isSendable_bool (b : Bool) : (bool b).IsSendable := rfl

@[simp]
theorem isSendable_ofNat (n : ℕ) : (ofNat n).IsSendable := rfl

@[simp]
theorem isSendable_text (s : String) : (text s).IsSendable := rfl

@[simp]
theorem isSendable_list_iff {items : List Json} :
    (list items).IsSendable ↔ ∀ v ∈ items, v.IsSendable := by
  simp only [IsSendable, everywhere, isEncodable, Bool.true_and, everywhereItems_iff]

@[simp]
theorem isSendable_object_iff {members : List (String × Json)} :
    (object members).IsSendable ↔
      (members.all fun m => isWholeKey m.1) = true ∧ ∀ m ∈ members, m.2.IsSendable := by
  simp only [IsSendable, everywhere, isEncodable, Bool.and_eq_true, everywhereMembers_iff]

/-- As a text, a value can be sent unless it is a torn text itself. -/
@[simp]
theorem isSendable_sentAsText_iff {v : Json} : v.sentAsText.IsSendable ↔ v.isWhole = true := by
  cases v <;> exact Iff.rfl

theorem IsSendable.isWhole {v : Json} (h : v.IsSendable) : v.isWhole = true := by
  cases v with
  | torn codes => exact h
  | _ => rfl

/-- A key that is not torn is a text. -/
theorem isSendable_ofKey {key : String} (h : isWholeKey key = true) :
    (ofCodes (codesOfKey key)).IsSendable := by
  unfold ofCodes
  rw [if_pos (show (codesOfKey key).all isScalar = true from h)]
  exact isSendable_text _

/-- Of a value that can be sent, all that it can be taken apart into can be sent. -/
theorem IsSendable.of_iterate? {v : Json} (h : v.IsSendable) {items : List Json}
    (hitems : v.iterate? = some items) : ∀ item ∈ items, item.IsSendable := by
  cases v with
  | list items' =>
    cases hitems
    exact isSendable_list_iff.mp h
  | text s =>
    cases hitems
    intro item hitem
    obtain ⟨c, -, rfl⟩ := List.mem_map.mp hitem
    exact isSendable_text _
  | torn codes => cases h
  | object members =>
    cases hitems
    intro item hitem
    obtain ⟨m, hm, rfl⟩ := List.mem_map.mp hitem
    exact isSendable_ofKey (List.all_eq_true.mp (isSendable_object_iff.mp h).1 m hm)
  | _ => cases hitems

theorem IsSendable.of_member {v w : Json} (h : v.IsSendable) {key : String}
    (hw : v.member key = .ok w) : w.IsSendable :=
  everywhere_of_member rfl h hw

end Json

/-! ### Releases -/

namespace ReleaseNotes.Node

/-- Whether no field of a release is a torn text. -/
def isWhole (n : Node) : Bool :=
  n.tagName.isWhole && n.name.isWhole && n.url.isWhole && n.publishedAt.isWhole

/-- **A release can be sent** if and only if no field of it is a torn text. -/
theorem isSendable_payload_iff {n : Node} : n.payload.IsSendable ↔ n.isWhole = true := by
  simp +decide [payload, isWhole, and_assoc]

end ReleaseNotes.Node

/-! ### Applications -/

open Json

theorem GitMetadata.isSendable_clientId {own metadata id : Json} (hown : own.IsSendable)
    (h : metadata.IsSendable) (hid : clientId own metadata = .ok id) : id.IsSendable :=
  everywhere_clientId rfl hown h hid

theorem PageRef.isWhole_listOfStored {v : Json} (h : v.IsSendable) {refs : List PageRef}
    (hrefs : listOfStored v = .ok refs) : ∀ ref ∈ refs, ref.id.isWhole = true := by
  unfold listOfStored Json.items at hrefs
  split_ifs at hrefs
  · obtain ⟨items, hitems, hrefs⟩ := bind_eq_ok_iff.mp hrefs
    split at hitems
    · rename_i found hfound
      cases hitems
      intro ref href
      obtain ⟨item, hitem, hstored⟩ := exists_of_mapM_ok hrefs href
      obtain ⟨id, hid, hstored⟩ := bind_eq_ok_iff.mp hstored
      obtain ⟨isDefault, -, hstored⟩ := bind_eq_ok_iff.mp hstored
      cases hstored
      exact ((h.of_iterate? hfound item hitem).of_member hid).isWhole
    · cases hitems
  · cases hrefs
    exact fun ref href => absurd href List.not_mem_nil

namespace ListedApplication

/-- **A listed application can be sent** if its metadata can and no id is a torn text. -/
theorem isSendable_payload_iff {l : ListedApplication} :
    l.payload.IsSendable ↔ l.id.isWhole = true ∧ l.gitMetadata.IsSendable ∧
      (∀ ref ∈ l.pages, ref.id.isWhole = true) ∧
        ∀ ref ∈ l.publishedPages, ref.id.isWhole = true := by
  simp +decide [payload, PageRef.payload]

theorem isSendable_ofApplication {a : Application} {l : ListedApplication}
    (hmetadata : a.gitMetadata.IsSendable) (hpages : a.pages.IsSendable)
    (hpublished : a.publishedPages.IsSendable) (h : ofApplication a = .ok l) :
    l.payload.IsSendable := by
  obtain ⟨id, hid, h⟩ := bind_eq_ok_iff.mp h
  obtain ⟨pages, hpages', h⟩ := bind_eq_ok_iff.mp h
  obtain ⟨published, hpublished', h⟩ := bind_eq_ok_iff.mp h
  cases h
  exact isSendable_payload_iff.mpr
    ⟨(GitMetadata.isSendable_clientId (isSendable_ofNat a.id) hmetadata hid).isWhole, hmetadata,
      PageRef.isWhole_listOfStored hpages hpages',
      PageRef.isWhole_listOfStored hpublished hpublished'⟩

/-- Putting in the slug of a default page leaves the ids of the references. -/
theorem ids_resolveFirst (row : ℕ) (pages : List Page) (edition : Edition)
    (refs : List PageRef) :
    (PageRef.resolveFirst row pages edition refs).1.map (·.id) = refs.map (·.id) := by
  induction refs with
  | nil => rfl
  | cons ref rest ih =>
    unfold PageRef.resolveFirst
    split_ifs
    · cases ref.resolve row pages edition <;> rfl
    · exact congrArg (ref.id :: ·) ih

theorem isSendable_withSlugs (s : Store) {l : ListedApplication} (h : l.payload.IsSendable) :
    (l.withSlugs s).1.payload.IsSendable := by
  have hids {refs : List PageRef} (edition : Edition)
      (hrefs : ∀ ref ∈ refs, ref.id.isWhole = true) :
      ∀ ref ∈ (PageRef.resolveFirst l.row (s.pagesOf l.row) edition refs).1,
        ref.id.isWhole = true := by
    intro ref href
    have hid := List.mem_map_of_mem (f := (·.id)) href
    rw [ids_resolveFirst] at hid
    obtain ⟨ref', href', hsame⟩ := List.mem_map.mp hid
    rw [← hsame]
    exact hrefs ref' href'
  obtain ⟨hid, hmetadata, hpages, hpublished⟩ := isSendable_payload_iff.mp h
  exact isSendable_payload_iff.mpr ⟨hid, hmetadata, hids _ hpages, hids _ hpublished⟩

end ListedApplication

/-! ### Homepages -/

/-- No text that is stored for the applications in a user's workspaces is torn. -/
def Store.HasWholeTexts (s : Store) (user : ℕ) : Prop :=
  ∀ a ∈ s.applications.rows, s.isMember a.workspace user = true →
    a.gitMetadata.IsSendable ∧ a.pages.IsSendable ∧ a.publishedPages.IsSendable

namespace Homepage

/-- What is shown of workspaces can be sent if what is stored for them can. -/
theorem isSendable_arranged {s : Store} {user : ℕ} {recentWorkspaces recentApplications : List Json}
    (h : s.WellShaped user recentWorkspaces recentApplications) (htexts : s.HasWholeTexts user) :
    ∀ g ∈ arranged s user recentWorkspaces recentApplications, g.payload.IsSendable := by
  intro g hg
  have hexact := arranged_isExact h
  have happlications : ∀ l ∈ g.applications, l.payload.IsSendable := by
    intro l hl
    obtain ⟨a, ⟨ha, hworkspace, -⟩, plain, hplain, rfl⟩ := (hexact.groups g hg).sound l hl
    have hmember := (hexact.sound g hg).2
    rw [← hworkspace] at hmember
    obtain ⟨hmetadata, hpages, hpublished⟩ := htexts a ha hmember
    exact ListedApplication.isSendable_withSlugs s
      (ListedApplication.isSendable_ofApplication hmetadata hpages hpublished hplain)
  simpa +decide [WorkspaceGroup.payload, Workspace.toJson, Timestamp.toJson, UserRole.listToJson,
    UserRole.toJson] using happlications

/-- **A homepage can be sent** if what it shows of workspaces can, and its releases. -/
theorem isSendable_payload_iff {h : Homepage} (hgroups : ∀ g ∈ h.groups, g.payload.IsSendable) :
    h.payload.IsSendable ↔ ∀ n ∈ h.releases, n.isWhole = true := by
  have hsendable : h.payload.IsSendable ↔
      (∀ g ∈ h.groups, g.payload.IsSendable) ∧ ∀ n ∈ h.releases, n.payload.IsSendable := by
    simp +decide [payload, User.payload]
  simp only [hsendable, and_iff_right hgroups, ReleaseNotes.Node.isSendable_payload_iff]

end Homepage

end WorkspaceHome
