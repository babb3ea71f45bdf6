import WorkspaceHome.Proofs.Json.Proper
import WorkspaceHome.Proofs.ReleaseNotes.Outcome

/-!
# What the feed may send

A payload is an object that has an object under `data`, and under `nodes` in this a list of entries,
each of them an object with a tag (`IsPayload`). Where there are no entries, an empty object or an
empty text will do for the list.

The nodes of a value that was read can be had if it is a payload, and then each of them stands for
its entry (`nodesOfPayload_eq_ok_iff`); if it is none, a member is missing or a value is of the
wrong kind, and nothing else can go wrong (`isMismatch_of_nodesOfPayload`). So a reply of the feed
gives nodes for all entries, or it leaves the release notes unavailable and the cache as it was
(`nodesAt_delivered`). The nodes are then kept if they can be copied; those that are nested too deep
for that are had, but not kept (`nodesAt_unkept`).
-/

namespace WorkspaceHome

open Service

/-! ### Members of a value -/

/-- Whether a failure is that a member is missing or that a value is of the wrong kind. -/
def Failure.isMismatch (e : Failure) : Bool := e.label == "KeyError" || e.label == "TypeError"

namespace Json

variable {v w : Json} {key : String} {e : Failure}

theorem index_eq_ok_iff :
    v.index key = .ok w ↔ ∃ members, v = .object members ∧ lookup key members = some w := by
  cases v with
  | object members =>
    rw [index]
    cases h : lookup key members <;> simp [h]
  | _ => simp [index]

theorem isMismatch_of_index (h : v.index key = .error e) : e.isMismatch = true := by
  cases v with
  | object members =>
    rw [index] at h
    split at h
    · cases h
    · cases h
      rfl
  | _ =>
    cases h
    rfl

theorem isMismatch_of_items (h : v.items = .error e) : e.isMismatch = true := by
  unfold items at h
  split at h <;> cases h
  rfl

theorem ofCodes_ne_object (codes : List ℕ) (members : List (String × Json)) :
    ofCodes codes ≠ .object members := by
  unfold ofCodes
  split_ifs <;> exact Json.noConfusion

end Json

namespace ReleaseNotes

/-! ### The grammar -/

/-- A value lists entries: it is their list, or an empty object or text if there are none. -/
inductive Lists : Json → List Json → Prop
  | list (entries : List Json) : Lists (.list entries) entries
  | object : Lists (.object []) []
  | text : Lists (.text "") []

/-- A value that the feed sends has entries, under `nodes` under `data`. -/
def HasEntries (payload : Json) (entries : List Json) : Prop :=
  ∃ members data nodes, payload = .object members ∧
    Json.lookup "data" members = some (.object data) ∧ Json.lookup "nodes" data = some nodes ∧
    Lists nodes entries

/-- An entry is an object with a tag. -/
def IsEntry (entry : Json) : Prop :=
  ∃ members tag, entry = .object members ∧ Json.lookup "tagName" members = some tag

/-- A value that the feed may send. -/
def IsPayload (payload : Json) : Prop :=
  ∃ entries, HasEntries payload entries ∧ ∀ entry ∈ entries, IsEntry entry

/-- A node stands for an entry: it has the entry's tag and date as they are, no date being `null`,
and its name and address, which are empty texts if they are missing or count as false. -/
def Node.StandsFor (n : Node) (entry : Json) : Prop :=
  ∃ members, entry = .object members ∧ Json.lookup "tagName" members = some n.tagName ∧
    n.name = ((Json.lookup "name" members).filter Json.truthy).getD (.text "") ∧
    n.url = ((Json.lookup "url" members).filter Json.truthy).getD (.text "") ∧
    n.publishedAt = (Json.lookup "publishedAt" members).getD .null

/-! ### Nodes of entries -/

theorem Node.orEmpty_getD (field : Option Json) :
    orEmpty (field.getD .null) = (field.filter Json.truthy).getD (.text "") := by
  cases field with
  | none => rfl
  | some v =>
    unfold orEmpty
    cases h : v.truthy <;> simp [Option.filter, h]

theorem Node.ofFeed_eq_ok_iff {entry : Json} {n : Node} :
    ofFeed entry = .ok n ↔ n.StandsFor entry := by
  constructor
  · intro h
    obtain ⟨tagName, htag, h⟩ := bind_eq_ok_iff.mp h
    obtain ⟨members, rfl, hlookup⟩ := Json.index_eq_ok_iff.mp htag
    obtain rfl := Except.ok.inj h
    exact ⟨members, rfl, hlookup, orEmpty_getD _, orEmpty_getD _, rfl⟩
  · obtain ⟨tagName, name, url, publishedAt⟩ := n
    rintro ⟨members, rfl, hlookup, rfl, rfl, rfl⟩
    refine bind_eq_ok_iff.mpr ⟨tagName, Json.index_eq_ok_iff.mpr ⟨members, rfl, hlookup⟩, ?_⟩
    rw [← orEmpty_getD, ← orEmpty_getD]
    rfl

theorem isEntry_iff {entry : Json} : IsEntry entry ↔ ∃ n : Node, n.StandsFor entry := by
  constructor
  · rintro ⟨members, tag, rfl, hlookup⟩
    exact ⟨⟨tag, _, _, _⟩, members, rfl, hlookup, rfl, rfl, rfl⟩
  · rintro ⟨n, members, rfl, hlookup, -⟩
    exact ⟨members, n.tagName, rfl, hlookup⟩

theorem isMismatch_of_ofFeed {entry : Json} {e : Failure} (h : Node.ofFeed entry = .error e) :
    e.isMismatch = true := by
  rcases bind_eq_error_iff.mp h with htag | ⟨tagName, htag, h⟩
  · exact Json.isMismatch_of_index htag
  · -- what has a tag is an object, of which any member can be asked for
    obtain ⟨members, rfl, -⟩ := Json.index_eq_ok_iff.mp htag
    cases h

/-- Nodes stand for entries, one for each of them in their order. -/
def StandFor (nodes : List Node) (entries : List Json) : Prop :=
  List.Forall₂ (fun entry n => n.StandsFor entry) entries nodes

theorem mapM_ofFeed_eq_ok_iff {entries : List Json} {nodes : List Node} :
    entries.mapM Node.ofFeed = .ok nodes ↔ StandFor nodes entries := by
  rw [mapM_eq_ok_iff]
  simp only [Node.ofFeed_eq_ok_iff]
  rfl

theorem exists_standFor_iff {entries : List Json} :
    (∃ nodes, StandFor nodes entries) ↔ ∀ entry ∈ entries, IsEntry entry := by
  induction entries with
  | nil => exact iff_of_true ⟨[], .nil⟩ fun entry h => absurd h List.not_mem_nil
  | cons entry rest ih =>
    rw [List.forall_mem_cons, ← ih, isEntry_iff]
    constructor
    · rintro ⟨nodes, h⟩
      obtain ⟨n, others, hn, hothers, rfl⟩ := List.forall₂_cons_left_iff.mp h
      exact ⟨⟨n, hn⟩, others, hothers⟩
    · rintro ⟨⟨n, hn⟩, others, hothers⟩
      exact ⟨n :: others, .cons hn hothers⟩

/-! ### Nodes of a payload -/

/-- Nodes stand for entries that are no objects only if there are none. -/
theorem StandFor.eq_nil {nodes : List Node} {entries : List Json} (h : StandFor nodes entries)
    (hentries : ∀ entry ∈ entries, ∀ members, entry ≠ .object members) : entries = [] := by
  cases h with
  | nil => rfl
  | cons hn _ =>
    obtain ⟨members, hentry, -⟩ := hn
    exact absurd hentry (hentries _ List.mem_cons_self members)

/-- Whatever is taken apart, entries for which there are nodes are listed. A torn text without code
points could be taken apart as well, but none is read. -/
theorem lists_of_items {v : Json} (hproper : v.isProper = true) {entries : List Json}
    (hitems : v.items = .ok entries) {nodes : List Node} (h : StandFor nodes entries) :
    Lists v entries := by
  -- the items of anything but a list are no objects, so nodes stand for them only if there are none
  cases v with
  | list items =>
    obtain rfl := Except.ok.inj hitems
    exact .list items
  | text s =>
    obtain rfl := Except.ok.inj hitems
    have hnil := h.eq_nil (by simp)
    obtain rfl : s = "" := by simpa using hnil
    exact .text
  | torn codes =>
    obtain rfl := Except.ok.inj hitems
    have hnil := h.eq_nil (by simp [Json.ofCodes_ne_object])
    obtain rfl : codes = [] := List.map_eq_nil_iff.mp hnil
    cases hproper
  | object members =>
    obtain rfl := Except.ok.inj hitems
    have hnil := h.eq_nil fun key hkey inner => by
      obtain ⟨member, -, rfl⟩ := List.mem_map.mp hkey
      exact Json.ofCodes_ne_object _ inner
    obtain rfl : members = [] := List.map_eq_nil_iff.mp hnil
    exact .object
  | _ => cases hitems

theorem items_of_lists {v : Json} {entries : List Json} (h : Lists v entries) :
    v.items = .ok entries := by
  cases h <;> rfl

/-- **The nodes of a value that was read** are those that stand for its entries. -/
theorem nodesOfPayload_eq_ok_iff {payload : Json}
    (hproper : payload.everywhere Json.isProper = true) {nodes : List Node} :
    nodesOfPayload payload = .ok nodes ↔
      ∃ entries, HasEntries payload entries ∧ StandFor nodes entries := by
  constructor
  · intro h
    obtain ⟨data, hdata, h⟩ := bind_eq_ok_iff.mp h
    obtain ⟨listed, hlisted, h⟩ := bind_eq_ok_iff.mp h
    obtain ⟨entries, hentries, h⟩ := bind_eq_ok_iff.mp h
    have hnodes := mapM_ofFeed_eq_ok_iff.mp h
    obtain ⟨members, rfl, hmembers⟩ := Json.index_eq_ok_iff.mp hdata
    obtain ⟨inner, rfl, hinner⟩ := Json.index_eq_ok_iff.mp hlisted
    have hlisted := Json.everywhere_of_lookup (Json.everywhere_of_lookup hproper hmembers) hinner
    have hlists := lists_of_items (Json.holds_of_everywhere hlisted) hentries hnodes
    exact ⟨entries, ⟨members, inner, listed, rfl, hmembers, hinner, hlists⟩, hnodes⟩
  · rintro ⟨entries, ⟨members, data, listed, rfl, hdata, hlisted, hlists⟩, h⟩
    exact bind_eq_ok_iff.mpr ⟨_, Json.index_eq_ok_iff.mpr ⟨members, rfl, hdata⟩,
      bind_eq_ok_iff.mpr ⟨_, Json.index_eq_ok_iff.mpr ⟨data, rfl, hlisted⟩,
        bind_eq_ok_iff.mpr ⟨entries, items_of_lists hlists, mapM_ofFeed_eq_ok_iff.mpr h⟩⟩⟩

/-- The nodes of a value that was read can be had if and only if it is a payload. -/
theorem isPayload_iff {payload : Json} (hproper : payload.everywhere Json.isProper = true) :
    IsPayload payload ↔ ∃ nodes, nodesOfPayload payload = .ok nodes := by
  simp only [nodesOfPayload_eq_ok_iff hproper, IsPayload, ← exists_standFor_iff]
  exact ⟨fun ⟨entries, hentries, nodes, h⟩ => ⟨nodes, entries, hentries, h⟩,
    fun ⟨nodes, entries, hentries, h⟩ => ⟨entries, hentries, nodes, h⟩⟩

/-- **What goes wrong with a value** is that a member is missing or that a value is of the wrong
kind. -/
theorem isMismatch_of_nodesOfPayload {payload : Json} {e : Failure}
    (h : nodesOfPayload payload = .error e) : e.isMismatch = true := by
  rcases bind_eq_error_iff.mp h with hdata | ⟨data, -, h⟩
  · exact Json.isMismatch_of_index hdata
  rcases bind_eq_error_iff.mp h with hlisted | ⟨listed, -, h⟩
  · exact Json.isMismatch_of_index hlisted
  rcases bind_eq_error_iff.mp h with hitems | ⟨entries, -, h⟩
  · exact Json.isMismatch_of_items hitems
  · obtain ⟨entry, -, hentry⟩ := exists_of_mapM_error h
    exact isMismatch_of_ofFeed hentry

/-! ### Replies -/

/-- The feed of a site, asked at an address, sends a value in a reply that is a success. -/
structure Delivers (s : Site) (url : String) (payload : Json) : Prop where
  url_ne : url ≠ ""
  reachable : ∃ address, addressOf url s.settings = .ok address ∧ address.isAbsolute = true
  sent : ∃ reply, s.feed = .replies reply ∧ reply.isSuccess = true ∧
    Json.readBytes reply.body = .ok payload

/-- The failure to take apart what the feed has sent. -/
def unexpected : Failure := .refuse .releaseNotesUnavailable "Unexpected release-notes payload."

variable {s : Site} {url : String} {payload : Json}

theorem Delivers.isProper (h : Delivers s url payload) :
    payload.everywhere Json.isProper = true := by
  obtain ⟨reply, -, -, hread⟩ := h.sent
  exact Json.isProper_of_readBytes hread

/-- What is fetched from a feed that sends a value are the nodes of this value. -/
theorem Delivers.outcome_fetch (h : Delivers s url payload) :
    ((fetch url).exec s).1 = (nodesOfPayload payload).mapError fun _ => unexpected := by
  obtain ⟨address, haddress, habsolute⟩ := h.reachable
  obtain ⟨reply, hfeed, hsuccess, hread⟩ := h.sent
  rw [ReleaseNotes.outcome_fetch, hfeed, fetched_of_isSuccess haddress habsolute hsuccess, decoded,
    hread]
  rfl

theorem Delivers.isPayload (h : Delivers s url payload) {nodes : List Node}
    (hfetch : ((fetch url).exec s).1 = .ok nodes) : IsPayload payload := by
  rw [h.outcome_fetch] at hfetch
  cases hnodes : nodesOfPayload payload with
  | ok got => exact (isPayload_iff h.isProper).mpr ⟨got, hnodes⟩
  | error e =>
    rw [hnodes] at hfetch
    cases hfetch

/-- Nodes that a working cache keeps for a positive time can be read at once, if they can be
copied. -/
theorem cached?_of_keeping (hmode : s.cache.mode = .working)
    (hlifetime : ∀ time ∈ s.settings.releaseNotesLifetime, 0 < time) {nodes : List Node}
    (hcopy : canCopy s.settings nodes = true) {t : Site} (hcache : t.cache = keeping s nodes)
    (hclock : t.clock = s.clock) : cached? t (cacheKey s.settings) = some nodes := by
  have hput := put_eq_ok_keeping hmode hcopy
  rw [cached?_eq_some_iff, hcache, hclock, mode_put hput, hmode]
  refine ⟨rfl, _, find?_put hput, ?_, ofCached?_toCached nodes⟩
  unfold Cache.Entry.isLive
  cases hexpires : s.settings.releaseNotesLifetime with
  | none => rfl
  | some time =>
    have hpositive := hlifetime time hexpires
    exact decide_eq_true (Int.lt_add_of_pos_right _ hpositive)

/-- Nodes that were fetched and cannot be copied leave the cache as it was, which is noted. -/
theorem nodesAt_of_not_canCopy (hurl : url ≠ "") (hnone : cached? s (cacheKey s.settings) = none)
    {nodes : List Node} (hfetch : ((fetch url).exec s).1 = .ok nodes)
    (hcopy : canCopy s.settings nodes = false) :
    ((nodesAt url).exec s).2.cache = s.cache ∧
      ⟨.cacheWriteFailed tooDeepToCopy.kind, s.context⟩ ∈ ((nodesAt url).exec s).2.log := by
  obtain ⟨log, hexec⟩ := exec_nodesAt_of_fetched hurl hnone hfetch
  rw [hexec, keeping_of_not_canCopy hcopy, keepingNotes_of_not_canCopy hcopy]
  exact ⟨rfl, List.mem_append_right _ List.mem_cons_self⟩

/-- **The feed is taken as a whole or not at all.** Where the cache has no release notes and the
feed sends a value, getting the release notes succeeds if and only if the value is a payload, and
gives one node for each entry, in their order. If the nodes can be copied, a working cache that
keeps anything has them from then on; if one of them is nested too deep for that, the cache is as it
was, which is noted. If the value is no payload, a member is missing or a value of the wrong kind;
then the release notes are unavailable, and the cache is as it was. -/
theorem nodesAt_delivered (h : Delivers s url payload)
    (hnone : cached? s (cacheKey s.settings) = none) :
    (IsPayload payload ↔ ∃ nodes, ((nodesAt url).exec s).1 = .ok nodes) ∧
      (∀ nodes, ((nodesAt url).exec s).1 = .ok nodes →
        (∃ entries, HasEntries payload entries ∧ StandFor nodes entries) ∧
          (canCopy s.settings nodes = true → s.cache.mode = .working →
            (∀ time ∈ s.settings.releaseNotesLifetime, 0 < time) →
              cached? ((nodesAt url).exec s).2 (cacheKey s.settings) = some nodes) ∧
          (canCopy s.settings nodes = false →
            ((nodesAt url).exec s).2.cache = s.cache ∧
              ⟨.cacheWriteFailed tooDeepToCopy.kind, s.context⟩ ∈
                ((nodesAt url).exec s).2.log)) ∧
      (¬ IsPayload payload →
        (∃ e, nodesOfPayload payload = .error e ∧ e.isMismatch = true) ∧
          ((nodesAt url).exec s).1 = .error unexpected ∧
            ((nodesAt url).exec s).2.cache = s.cache) := by
  -- what is read from the value is what is fetched, and decides all three parts
  have hfetch := h.outcome_fetch
  obtain ⟨log, hexec⟩ := exec_nodesAt_of_none h.url_ne hnone
  rw [isPayload_iff h.isProper]
  cases hnodes : nodesOfPayload payload with
  | ok nodes =>
    rw [hnodes] at hfetch
    have houtcome : ((nodesAt url).exec s).1 = .ok nodes := by rw [hexec, hfetch]; rfl
    refine ⟨iff_of_true ⟨nodes, rfl⟩ ⟨nodes, houtcome⟩, fun got hgot => ?_, fun hnot => ?_⟩
    · obtain rfl : nodes = got := Except.ok.inj (houtcome.symm.trans hgot)
      refine ⟨(nodesOfPayload_eq_ok_iff h.isProper).mp hnodes, fun hcopy hmode hlifetime => ?_,
        nodesAt_of_not_canCopy h.url_ne hnone hfetch⟩
      -- the entry that is written reads back as the nodes, since they could be copied
      rw [hexec, cacheAfter, hfetch]
      exact cached?_of_keeping hmode hlifetime hcopy rfl rfl
    · exact absurd ⟨nodes, rfl⟩ hnot
  | error e =>
    rw [hexec, cacheAfter, hfetch, hnodes]
    refine ⟨iff_of_false ?_ ?_, fun got hgot => ?_, fun _ => ?_⟩
    · rintro ⟨nodes, ⟨⟩⟩
    · rintro ⟨nodes, ⟨⟩⟩
    · cases hgot
    · exact ⟨⟨e, rfl, isMismatch_of_nodesOfPayload hnodes⟩, rfl, rfl⟩

/-- A site whose feed sends bytes. -/
def siteSending (body : List UInt8) : Site where
  feed := .replies { body }

theorem exists_delivers (body : List UInt8) (h : (Json.readBytes body).isOk = true) :
    ∃ payload, Delivers (siteSending body) "http://feed/" payload := by
  obtain ⟨payload, hread⟩ := isOk_iff.mp h
  refine ⟨payload, by decide, ?_, { body }, rfl, rfl, hread⟩
  exact (map_eq_ok_iff (r := addressOf "http://feed/" {})).mp (by decide +kernel)

/-- A list of two releases, the first of which has zero for its name. -/
def wholeBody : List UInt8 :=
  ("\x7b\"data\": \x7b\"nodes\": [\x7b\"tagName\": \"v2\", \"name\": 0\x7d, " ++
    "\x7b\"tagName\": \"v1\"\x7d]\x7d\x7d").toUTF8.toList

/-- A list of two releases, of which the second one has no tag. -/
def brokenBody : List UInt8 :=
  ("\x7b\"data\": \x7b\"nodes\": [\x7b\"tagName\": \"v2\"\x7d, " ++
    "\x7b\"name\": \"v1\"\x7d]\x7d\x7d").toUTF8.toList

/-- A list of one release, for whose tag there are 500 lists in each other. -/
def nestedBody : List UInt8 :=
  "\x7b\"data\": \x7b\"nodes\": [\x7b\"tagName\": ".toUTF8.toList ++
    List.replicate 500 0x5B ++ List.replicate 500 0x5D ++ "\x7d]\x7d\x7d".toUTF8.toList

theorem nodesAt_delivered_sample :
    (∃ payload nodes, Delivers (siteSending wholeBody) "http://feed/" payload ∧
      IsPayload payload ∧ nodes.length = 2 ∧
      ((nodesAt "http://feed/").exec (siteSending wholeBody)).1 = .ok nodes ∧
      cached? ((nodesAt "http://feed/").exec (siteSending wholeBody)).2 (cacheKey {}) =
        some nodes) ∧
      ∃ payload, Delivers (siteSending brokenBody) "http://feed/" payload ∧
        ¬ IsPayload payload ∧
        ((nodesAt "http://feed/").exec (siteSending brokenBody)).1 = .error unexpected ∧
        ((nodesAt "http://feed/").exec (siteSending brokenBody)).2.cache = {} := by
  constructor
  · obtain ⟨payload, hdelivers⟩ := exists_delivers wholeBody (by decide +kernel)
    obtain ⟨hiff, hgot, -⟩ := nodesAt_delivered hdelivers rfl
    -- both releases are flat, so their nodes can be copied
    obtain ⟨nodes, hnodes, hfits⟩ : ∃ nodes,
        ((nodesAt "http://feed/").exec (siteSending wholeBody)).1 = .ok nodes ∧
          (nodes.length, canCopy {} nodes) = (2, true) := map_eq_ok_iff.mp (by decide +kernel)
    obtain ⟨htwo, hcopy⟩ := Prod.mk.inj hfits
    exact ⟨payload, nodes, hdelivers, hiff.mpr ⟨nodes, hnodes⟩, htwo, hnodes,
      (hgot nodes hnodes).2.1 hcopy rfl (by decide)⟩
  · obtain ⟨payload, hdelivers⟩ := exists_delivers brokenBody (by decide +kernel)
    obtain ⟨hiff, -, hfails⟩ := nodesAt_delivered hdelivers rfl
    have hfailed : ((nodesAt "http://feed/").exec (siteSending brokenBody)).1.isOk = false := by
      decide +kernel
    have hnot : ¬ IsPayload payload := by
      rw [hiff, ← isOk_iff, hfailed]
      exact Bool.false_ne_true
    obtain ⟨-, houtcome, hcache⟩ := hfails hnot
    exact ⟨payload, hdelivers, hnot, houtcome, hcache⟩

/-- **Not all that the feed may send is kept**: a working cache that keeps release notes for an hour
does not have those whose tag is nested too deep to be copied, although they can be had. -/
theorem nodesAt_unkept :
    let s := siteSending nestedBody
    ∃ payload nodes, Delivers s "http://feed/" payload ∧ IsPayload payload ∧
      s.cache.mode = .working ∧ s.settings.releaseNotesLifetime = .seconds 3600 ∧
      cached? s (cacheKey s.settings) = none ∧
      ((nodesAt "http://feed/").exec s).1 = .ok nodes ∧
      cached? ((nodesAt "http://feed/").exec s).2 (cacheKey s.settings) ≠ some nodes := by
  intro s
  have hnone : cached? s (cacheKey s.settings) = none := rfl
  obtain ⟨payload, hdelivers⟩ := exists_delivers nestedBody (by decide +kernel)
  obtain ⟨nodes, hfetch, hcopy⟩ : ∃ nodes, ((fetch "http://feed/").exec s).1 = .ok nodes ∧
      canCopy s.settings nodes = false := map_eq_ok_iff.mp (by decide +kernel)
  have hnodes : ((nodesAt "http://feed/").exec s).1 = .ok nodes := by
    rw [outcome_nodesAt hdelivers.url_ne, hnone, hfetch]
  have hcache := (nodesAt_of_not_canCopy hdelivers.url_ne hnone hfetch hcopy).1
  refine ⟨payload, nodes, hdelivers, hdelivers.isPayload hfetch, rfl, rfl, hnone, hnodes, ?_⟩
  rw [Ne, cached?_eq_some_iff, hcache]
  rintro ⟨-, entry, ⟨⟩, -⟩

end ReleaseNotes

end WorkspaceHome
