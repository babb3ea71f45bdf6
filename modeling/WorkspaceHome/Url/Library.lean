import WorkspaceHome.Proofs.Except
import WorkspaceHome.Url.Basic

/-!
# Libraries for addresses

How a text is read as an address, how an address is asked with a query, and where a reply that
refers to another address leads are up to the library by which the feed is asked. A library may
accept whatever it likes (`Url.Library`). It is only known that the query it asks with is the one it
was given, if all characters of that may stand in a query.

`Url.Library.standard` goes by the definitions of this project. The one thing that they do not
settle is which labels beyond ASCII a host name may have: they go by the single characters and their
neighbours, and neither by normal forms, by marks at the start, by joiners and by the direction of
scripts, nor by what a label in Punycode stands for.
-/

namespace WorkspaceHome.Url

/-- A library for addresses. -/
structure Library where
  /-- Reads an address. -/
  read : String → Except Defect Url
  /-- The address that is asked for a resource with a query. -/
  withQuery : Url → String → Except Defect Url
  /-- The address to which another one refers from the address that was asked. -/
  follow : Url → Url → Except Defect Url
  /-- A query is asked with as it was given. -/
  query_withQuery : ∀ {u address : Url} {query : String},
    (∀ c ∈ query.toList, isQueryChar c = true) →
      withQuery u query = .ok address → address.query = some query

/-! ### Queries -/

/-- A text of characters that may stand in a part is its own written form. -/
theorem encode_of_safe {safe : Char → Bool} {cs : List Char} (h : ∀ c ∈ cs, safe c = true) :
    encode safe cs = String.ofList cs := by
  unfold encode Text.Percent.encode
  congr 1
  induction cs with
  | nil => rfl
  | cons c cs ih =>
    obtain ⟨hc, hcs⟩ := List.forall_mem_cons.mp h
    rw [List.flatMap_cons, if_pos hc, ih hcs]
    rfl

theorem query_of_ofParts {p : Parts} {address : Url} (h : ofParts p = .ok address) :
    address.query = p.query.map (encode isQueryChar) := by
  unfold ofParts at h
  generalize splitAuthority p.authority = authority at h
  obtain ⟨userinfo, host, port⟩ := authority
  dsimp only at h
  obtain ⟨host, -, h⟩ := bind_eq_ok_iff.mp h
  obtain ⟨port, -, h⟩ := bind_eq_ok_iff.mp h
  -- every check either fails or goes on to the same address
  repeat' split at h
  all_goals cases h
  all_goals rfl

theorem ofParts_of_ofChecked {p : Parts} {address : Url} (h : ofChecked p = .ok address) :
    ofParts p = .ok address := by
  unfold ofChecked at h
  simp only [bind_eq_ok_iff] at h
  obtain ⟨-, -, -, -, -, -, -, -, -, -, h⟩ := h
  exact h

theorem query_of_withQuery {u address : Url} {query : String}
    (h : u.withQuery query = .ok address) :
    address.query = some (encode isQueryChar query.toList) := by
  have hchecked : ∃ p : Parts, p.query = some query.toList ∧ ofChecked p = .ok address := by
    unfold withQuery at h
    dsimp only at h
    split at h
    · exact ⟨_, rfl, h⟩
    · obtain ⟨base, -, h⟩ := bind_eq_ok_iff.mp h
      exact ⟨_, rfl, h⟩
  obtain ⟨p, hp, hchecked⟩ := hchecked
  rw [query_of_ofParts (ofParts_of_ofChecked hchecked), hp, Option.map_some]

/-- The library of the definitions of this project. -/
def Library.standard : Library where
  read := Url.read
  withQuery := Url.withQuery
  follow := Url.follow
  query_withQuery := by
    intro u address query hquery h
    rw [query_of_withQuery h, encode_of_safe hquery, String.ofList_toList]

end WorkspaceHome.Url
