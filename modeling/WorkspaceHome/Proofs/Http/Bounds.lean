import WorkspaceHome.Proofs.Http.Creation
import WorkspaceHome.Proofs.Text.Slug

/-!
# How long names and slugs of new workspaces are

A name that is accepted has at most 255 characters, and this is what a slug may have, too. The slug
of an accepted name consists of the right characters, and has a place for it if no more than 255
characters are kept of the name, so in particular if no character of the name is wide
(`creation_bounded`). Only the length of the name is checked, though: of 52 wide characters 260 are
kept, and the workspace is created nevertheless (`creation_overlong`).
-/

namespace WorkspaceHome

open Service

/-- Every name can be given in the empty store. -/
theorem Store.admits_empty (name : String) (owner : ℕ) : ({} : Store).Admits name owner :=
  ⟨fun ⟨_, hw, _⟩ => absurd hw List.not_mem_nil, fun _ hm => absurd hm List.not_mem_nil⟩

theorem Store.rows_founding (s : Store) (name : String) (owner : ℕ) (now : Timestamp) :
    (s.founding name owner now).workspaces.rows =
      s.workspaces.rows ++ [s.nextWorkspace name now] := rfl

namespace Http

variable {r : Request} {u : User} {s : Site}

/-- The name that a body has is a valid one. -/
theorem isName_of_data {name : String} (h : r.data.bind nameOf = .ok name) : IsName name := by
  obtain ⟨body, -, hname⟩ := bind_eq_ok_iff.mp h
  obtain ⟨-, -, -, -, -, -, -, hname⟩ := nameOf_eq_ok_iff.mp hname
  exact hname

/-- **A response with status 201 has made a workspace** of a valid name, with its slug. -/
theorem created_of_status (h : r.Asks u "POST" "/api/v1/workspaces/") {response : Response}
    (hresponse : ((serve r).exec s).1 = .ok response) (hstatus : response.status = 201) :
    ∃ name, r.data.bind nameOf = .ok name ∧ IsName name ∧
      ((serve r).exec s).2.store = s.store.founding name u.id s.clock := by
  cases hdata : r.data.bind nameOf with
  | error trouble =>
    obtain ⟨⟨other, hother, hge⟩, -⟩ := serve_of_trouble h hdata s
    obtain rfl : response = other := Except.ok.inj (hresponse.symm.trans hother)
    omega
  | ok name =>
    by_cases hadmits : s.store.Admits name u.id
    · exact ⟨name, rfl, isName_of_data hdata, (serve_of_admits h hdata hadmits).2⟩
    · obtain ⟨⟨other, hother, hconflict⟩, -⟩ := serve_of_not_admits h hdata hadmits
      obtain rfl : response = other := Except.ok.inj (hresponse.symm.trans hother)
      omega

/-- **What is created is within bounds** but for slugs of wide names. On any store, and for any body
that is answered by 201, one workspace is added, whose name has 1 to 255 characters. Its slug
consists of letters, digits, hyphens and underscores, and is not longer than what is kept of the
name: at most 255 characters if none of the name is wide, and in no case more than five for each. -/
theorem creation_bounded (h : r.Asks u "POST" "/api/v1/workspaces/") (s : Site)
    {response : Response} (hresponse : ((serve r).exec s).1 = .ok response)
    (hstatus : response.status = 201) :
    ∃ w, ((serve r).exec s).2.store.workspaces.rows = s.store.workspaces.rows ++ [w] ∧
      1 ≤ w.name.length ∧ w.name.length ≤ 255 ∧
      (∀ c ∈ w.slug.toList, Text.IsSlugChar c) ∧
      w.slug.length ≤ Text.breadth w.name ∧
      ((∀ c ∈ w.name.toList, ¬ Text.IsWide c) → w.slug.length ≤ 255) ∧
      w.slug.length ≤ 5 * w.name.length := by
  obtain ⟨name, -, hname, hstore⟩ := created_of_status h hresponse hstatus
  have hslug := Text.length_slug_le_breadth name
  have hbreadth := Text.breadth_le fun c (_ : c ∈ name.toList) => Text.length_keptPart_le c
  refine ⟨s.store.nextWorkspace name s.clock, by rw [hstore, Store.rows_founding], ?_, hname.short,
    fun c hc => Text.isSlugChar_of_mem_slug hc, hslug, fun hnarrow => ?_, hslug.trans hbreadth⟩
  · have hpositive : name.length ≠ 0 := by simpa using hname.nonempty
    exact Nat.one_le_iff_ne_zero.mpr hpositive
  · exact (Text.length_slug_le_of_not_isWide hnarrow).trans hname.short

/-- A request for a workspace named by 52 signs of a unit. -/
def sampleWide : Request :=
  { method := "POST", target := "/api/v1/workspaces/"
    viewer := .user { id := 1, username := "ada" }
    body := "\x7b\"name\": \"".toUTF8.toList ++
      (List.replicate 52 "㎯".toUTF8.toList).flatten ++ "\"\x7d".toUTF8.toList }

/-- The name of this workspace. -/
def wideName : String := String.ofList (List.replicate 52 '㎯')

theorem toList_wideName : wideName.toList = List.replicate 52 '㎯' := String.toList_ofList

theorem sampleWide_asks :
    sampleWide.Asks { id := 1, username := "ada" } "POST" "/api/v1/workspaces/" :=
  ⟨rfl, by decide +kernel, by decide +kernel, Option.isNone_iff_eq_none.mp (by decide +kernel),
    by decide +kernel⟩

/-- The workspace is created in the empty store, with the slug of its name. -/
theorem serve_sampleWide :
    (∃ response, ((serve sampleWide).exec {}).1 = .ok response ∧ response.status = 201) ∧
      ((serve sampleWide).exec {}).2.store =
        ({} : Store).founding wideName 1 ({} : Site).clock := by
  have hread : (sampleWide.data.bind nameOf).toOption.map String.toList =
      some (List.replicate 52 '㎯') := by decide +kernel
  obtain ⟨name, hname, hchars⟩ := Option.map_eq_some_iff.mp hread
  have hwide : name = wideName :=
    String.toList_injective (hchars.trans toList_wideName.symm)
  have hdata : sampleWide.data.bind nameOf = .ok wideName :=
    toOption_eq_some_iff.mp (hname.trans (congrArg some hwide))
  exact serve_of_admits (s := {}) sampleWide_asks hdata (Store.admits_empty _ _)

/-- One workspace is created with a wide name, and one with a name that has no wide character. -/
theorem creation_bounded_sample :
    sampleWide.Asks { id := 1, username := "ada" } "POST" "/api/v1/workspaces/" ∧
      (∃ response, ((serve sampleWide).exec {}).1 = .ok response ∧ response.status = 201) ∧
      (∃ w, ((serve sampleWide).exec {}).2.store.workspaces.rows = [w] ∧
        (∀ c ∈ w.slug.toList, Text.IsSlugChar c) ∧ w.slug.length ≤ Text.breadth w.name) ∧
      sampleCreation.Asks { id := 2, username := "bob" } "POST" "/api/v1/workspaces/" ∧
      (∃ response, ((serve sampleCreation).exec {}).1 = .ok response ∧ response.status = 201) ∧
      ∃ w, ((serve sampleCreation).exec {}).2.store.workspaces.rows = [w] ∧ w.name = "ACME!" ∧
        (∀ c ∈ w.name.toList, ¬ Text.IsWide c) ∧ w.slug.length ≤ 255 := by
  obtain ⟨response, hresponse, hstatus⟩ := serve_sampleWide.1
  obtain ⟨w, hrows, -, -, hchars, hbreadth, -, -⟩ :=
    creation_bounded sampleWide_asks {} hresponse hstatus
  obtain ⟨⟨created, hcreated, hmade⟩, hstore⟩ := serve_of_admits (s := {}) sampleCreation_asks
    nameOf_sampleCreation (Store.admits_empty _ _)
  obtain ⟨acme, hacme, -, -, -, -, hnarrow, -⟩ :=
    creation_bounded sampleCreation_asks {} hcreated hmade
  -- the row that is added is the one of the name
  have hname : acme.name = "ACME!" := by
    rw [hstore, Store.rows_founding] at hacme
    exact congrArg Workspace.name (List.singleton_inj.mp hacme).symm
  have hwide : ∀ c ∈ acme.name.toList, ¬ Text.IsWide c := by
    have hascii : ("ACME!".toList.all fun c => decide (c.toNat < 0x80)) = true := by decide
    intro c hc
    rw [hname] at hc
    exact Text.not_isWide_of_ascii (of_decide_eq_true (List.all_eq_true.mp hascii c hc))
  exact ⟨sampleWide_asks, ⟨response, hresponse, hstatus⟩, ⟨w, hrows, hchars, hbreadth⟩,
    sampleCreation_asks, ⟨created, hcreated, hmade⟩, acme, hacme, hname, hwide, hnarrow hwide⟩

/-- **A slug may be too long.** A workspace with a name of 52 wide characters is created, and the
slug that is stored with it has 260 characters. -/
theorem creation_overlong :
    (∃ response, ((serve sampleWide).exec {}).1 = .ok response ∧ response.status = 201) ∧
      ∃ w ∈ ((serve sampleWide).exec {}).2.store.workspaces.rows,
        w.name.length = 52 ∧ w.slug.length = 260 := by
  have hname : wideName.length = 52 := by
    rw [← String.length_toList, toList_wideName, List.length_replicate]
  have hslug : (Text.slug wideName).length = 260 := by
    rw [Text.slug, toList_wideName, String.length_ofList]
    decide +kernel
  have hserve := serve_sampleWide
  refine ⟨hserve.1, ({} : Store).nextWorkspace wideName ({} : Site).clock, ?_, hname, hslug⟩
  rw [hserve.2, Store.rows_founding]
  exact List.mem_append_right _ (List.mem_singleton_self _)

end Http

end WorkspaceHome
