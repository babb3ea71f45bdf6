import WorkspaceHome.Proofs.Http.Delivery
import WorkspaceHome.Proofs.Operation.Platform
import WorkspaceHome.Proofs.ReleaseNotes.Reading

/-!
# How fresh the release notes are, and how often the feed is asked

A step of a run that asks the feed and gets nodes has fetched them (`Step.fetch?`). While the
settings stay as they are and the cache works, it holds under its key what was fetched last, until
this expires (`Cache.Holds`, `holds_perform`). So, over a whole run, a step that gets the release
notes asks the feed for nothing if and only if the last fetch that has succeeded is less than a
lifetime ago, and then has exactly the nodes of this fetch; otherwise it asks the feed once and has
what this comes to. A fetch that fails leaves the cache as it was, and the feed is asked again
(`releaseNotes_fresh`).
-/

namespace WorkspaceHome

open ReleaseNotes Service

/-! ### Fetches -/

/-- A fetch that has succeeded: when this was, and the nodes. -/
structure ReleaseNotes.Fetch where
  moment : Timestamp
  nodes : List Node

namespace ReleaseNotes.Fetch

/-- Whether a fetch is less than a lifetime ago. -/
def IsRecent (f : Fetch) (lifetime : ℤ) (now : Timestamp) : Prop :=
  now.micros - f.moment.micros < lifetime

/-- The entry of a cache that keeps what was fetched for a lifetime. -/
def entry (f : Fetch) (lifetime : ℤ) : Cache.Entry :=
  ⟨toCached f.nodes, some (f.moment.later lifetime)⟩

theorem isLive_entry_iff {f : Fetch} {lifetime : ℤ} {now : Timestamp} :
    (f.entry lifetime).isLive now = true ↔ f.IsRecent lifetime now := by
  unfold entry Cache.Entry.isLive IsRecent Timestamp.later
  rw [decide_eq_true_iff]
  dsimp only
  omega

/-- What is recent was so before. -/
theorem IsRecent.of_le {f : Fetch} {lifetime : ℤ} {now now' : Timestamp}
    (h : f.IsRecent lifetime now') (hnow : now.micros ≤ now'.micros) :
    f.IsRecent lifetime now := by
  unfold IsRecent at *
  omega

end ReleaseNotes.Fetch

/-- What a step has fetched from an address, if it has asked the feed and got nodes. -/
def Step.fetch? (url : String) (step : Step) : Option Fetch :=
  if step.report.requests = [] then none
  else ((fetch url).exec step.before).1.toOption.map fun nodes => ⟨step.before.clock, nodes⟩

/-- The last fetch of a run that has succeeded. -/
def lastFetch? (url : String) : List Step → Option Fetch
  | [] => none
  | step :: rest => (lastFetch? url rest).or (step.fetch? url)

theorem lastFetch?_append (url : String) (xs ys : List Step) :
    lastFetch? url (xs ++ ys) = (lastFetch? url ys).or (lastFetch? url xs) := by
  induction xs with
  | nil => exact (Option.or_none).symm
  | cons step rest ih => rw [List.cons_append, lastFetch?, lastFetch?, ih, Option.or_assoc]

/-- A step that asks the feed in vain, and steps that fetch nothing, leave the last fetch. -/
theorem lastFetch?_of_failed {url : String} {earlier between : List Step} {step : Step}
    {e : Failure} (hfails : ((fetch url).exec step.before).1 = .error e)
    (hbetween : lastFetch? url between = none) :
    lastFetch? url (earlier ++ step :: between) = lastFetch? url earlier := by
  have hstep : step.fetch? url = none := by
    rw [Step.fetch?, hfails]
    exact ite_self _
  rw [lastFetch?_append, lastFetch?, hbetween, hstep]
  exact Option.none_or

/-! ### What the cache holds -/

/-- The cache holds under a key what was fetched last, and nothing if nothing was. -/
def Cache.Holds (key : String) (lifetime : ℤ) (last : Option Fetch) (c : Cache) : Prop :=
  c.find? key = last.map (·.entry lifetime)

section held

variable {s : Site} {key : String} {lifetime : ℤ} {last : Option Fetch}

/-- What was fetched recently is given by the cache. -/
theorem cached?_of_recent (hheld : s.cache.Holds key lifetime last)
    (hmode : s.cache.mode = .working) {f : Fetch} (hf : f ∈ last)
    (hrecent : f.IsRecent lifetime s.clock) : cached? s key = some f.nodes := by
  obtain rfl : last = some f := hf
  refine cached?_eq_some_iff.mpr ⟨?_, f.entry lifetime, hheld, Fetch.isLive_entry_iff.mpr hrecent,
    ofCached?_toCached f.nodes⟩
  rw [hmode]
  rfl

/-- The cache gives nothing but what was fetched recently. -/
theorem cached?_of_not_recent (hheld : s.cache.Holds key lifetime last)
    (hnone : ∀ f ∈ last, ¬ f.IsRecent lifetime s.clock) : cached? s key = none := by
  refine Option.eq_none_iff_forall_ne_some.mpr fun nodes hcached => ?_
  obtain ⟨-, entry, hentry, hlive, -⟩ := cached?_eq_some_iff.mp hcached
  obtain ⟨f, hf, rfl⟩ := Option.map_eq_some_iff.mp (hheld.symm.trans hentry)
  exact hnone f hf (Fetch.isLive_entry_iff.mp hlive)

end held

/-! ### One step -/

/-- The conditions of a step: the version, the installation and the lifetime of release notes are
those of given settings, the cache works and is not written to from outside, release notes are got
at one address only, and those that are fetched are not nested too deep to be copied. -/
structure Step.IsSteady (url : String) (settings : Settings) (step : Step) : Prop where
  version : step.before.settings.appVersion = settings.appVersion
  installation : step.before.settings.instanceId = settings.instanceId
  lifetime : step.before.settings.releaseNotesLifetime = settings.releaseNotesLifetime
  working : step.before.cache.mode = .working
  unwritten : step.operation.writesCache = false
  address : ∀ used ∈ step.operation.newsAddress? step.before, used = url
  copied : ∀ f ∈ step.fetch? url, canCopy step.before.settings f.nodes = true

instance (url : String) (settings : Settings) (step : Step) :
    Decidable (step.IsSteady url settings) :=
  decidable_of_iff
    (step.before.settings.appVersion = settings.appVersion ∧
      step.before.settings.instanceId = settings.instanceId ∧
      step.before.settings.releaseNotesLifetime = settings.releaseNotesLifetime ∧
      step.before.cache.mode = .working ∧ step.operation.writesCache = false ∧
      (∀ used ∈ step.operation.newsAddress? step.before, used = url) ∧
      ∀ f ∈ step.fetch? url, canCopy step.before.settings f.nodes = true)
    ⟨fun ⟨h₁, h₂, h₃, h₄, h₅, h₆, h₇⟩ => ⟨h₁, h₂, h₃, h₄, h₅, h₆, h₇⟩,
      fun ⟨h₁, h₂, h₃, h₄, h₅, h₆, h₇⟩ => ⟨h₁, h₂, h₃, h₄, h₅, h₆, h₇⟩⟩

/-- How a step gets the release notes if `last` was fetched last: without asking the feed if that is
recent, and otherwise by asking it once. -/
structure Step.IsEconomical (url : String) (address : Url) (lifetime : ℤ) (last : Option Fetch)
    (step : Step) : Prop where
  spared_iff : step.report.requests = [] ↔ ∃ f ∈ last, f.IsRecent lifetime step.before.clock
  spared : ∀ f ∈ last, f.IsRecent lifetime step.before.clock →
    step.operation.Tells step.before (.ok f.nodes) step.report.outcome
  asked : step.report.requests ≠ [] → step.report.requests = [address.write] ∧
    step.operation.Tells step.before ((fetch url).exec step.before).1 step.report.outcome

/-- If a step asks the feed in vain, the cache is as it was, and the next of the later steps that
gets the release notes asks the feed again. -/
def Step.IsRetried (url : String) (address : Url) (step : Step) (later : List Step) : Prop :=
  step.report.requests ≠ [] → ∀ e, ((fetch url).exec step.before).1 = .error e →
    (step.operation.perform step.before).2.cache = step.before.cache ∧
      ∀ between next rest, later = between ++ next :: rest →
        (∀ other ∈ between, other.operation.newsAddress? other.before = none) →
          next.operation.newsAddress? next.before = some url →
            next.report.requests = [address.write]

section step

variable {url : String} {address : Url} {settings : Settings} {lifetime : ℤ} {last : Option Fetch}
variable {operation : Operation} {s : Site} {step : Step}

theorem ReleaseNotes.cacheKey_ne_probeKey (settings : Settings) :
    cacheKey settings ≠ Health.probeKey := by
  intro h
  -- the two begin with different letters
  have hhead : (cacheKey settings).toList.head? = some 'r' := by
    unfold cacheKey
    rw [String.toList_append, String.toList_append, String.toList_append]
    rfl
  rw [h] at hhead
  exact absurd hhead (by decide)

namespace Step.IsSteady

theorem cacheKey_eq (h : step.IsSteady url settings) :
    cacheKey step.before.settings = cacheKey settings := by
  unfold cacheKey
  rw [h.version, h.installation]

theorem addressOf_eq (h : step.IsSteady url settings)
    (hlibrary : step.before.settings.library = settings.library) :
    addressOf url step.before.settings = addressOf url settings := by
  unfold addressOf feedQuery
  rw [h.version, h.installation, hlibrary]

end Step.IsSteady

/-- An operation that gets the release notes starts with nothing noted and nothing asked for; from
there it does what getting them does, and tells what this comes to. -/
theorem perform_of_news (hget : operation.newsAddress? s = some url) :
    (operation.perform s).2.newsroom =
        ((nodesAt url).exec { s with log := [], requests := [] }).2.newsroom ∧
      operation.Tells s ((nodesAt url).exec s).1 (operation.perform s).1.outcome := by
  have hcleared := outcome_nodesAt_congr url
    (show basis { s with log := [], requests := [] } = basis s from rfl)
  rw [perform_eq, ← hcleared]
  exact ⟨Operation.newsroom_act (s := { s with log := [], requests := [] }) hget,
    (Operation.tells_act (s := { s with log := [], requests := [] }) hget).of_cleared⟩

/-- An operation that finds the release notes in the cache asks the feed for nothing. -/
theorem perform_of_cached (hurl : url ≠ "") (hget : operation.newsAddress? s = some url)
    {nodes : List Node} (hcached : cached? s (cacheKey s.settings) = some nodes) :
    (operation.perform s).1.requests = [] ∧ (operation.perform s).2.cache = s.cache ∧
      operation.Tells s (.ok nodes) (operation.perform s).1.outcome := by
  obtain ⟨hnewsroom, htells⟩ := perform_of_news hget
  obtain ⟨log, hnodes⟩ := exec_nodesAt_of_cached (s := { s with log := [], requests := [] }) hurl
    hcached
  rw [hnodes] at hnewsroom
  rw [outcome_nodesAt hurl, hcached] at htells
  obtain ⟨hcache, -, -, -, hrequests⟩ := Site.newsroom_eq_iff.mp hnewsroom
  exact ⟨hrequests, hcache, htells⟩

/-- An operation that does not find the release notes in the cache asks the feed once, if the
address is one. -/
theorem perform_of_not_cached (hurl : url ≠ "") (hget : operation.newsAddress? s = some url)
    (hcached : cached? s (cacheKey s.settings) = none) :
    (operation.perform s).1.requests =
        ((addressOf url s.settings).toOption.map Url.write).toList ∧
      (operation.perform s).2.cache = cacheAfter url s ∧
      operation.Tells s ((fetch url).exec s).1 (operation.perform s).1.outcome := by
  obtain ⟨hnewsroom, htells⟩ := perform_of_news hget
  obtain ⟨log, hnodes⟩ := exec_nodesAt_of_none (s := { s with log := [], requests := [] }) hurl
    hcached
  -- what was noted and asked for before makes no difference to what is kept
  have hafter : cacheAfter url { s with log := [], requests := [] } = cacheAfter url s := by
    have hfetch : ((fetch url).exec { s with log := [], requests := [] }).1 =
        ((fetch url).exec s).1 := outcome_fetch_congr url rfl rfl
    unfold cacheAfter
    rw [hfetch]
    rfl
  rw [hnodes] at hnewsroom
  rw [outcome_nodesAt hurl, hcached] at htells
  obtain ⟨hcache, -, -, -, hrequests⟩ := Site.newsroom_eq_iff.mp hnewsroom
  exact ⟨hrequests, hcache.trans hafter, htells⟩

/-- An operation that does not get the release notes asks the feed for nothing. -/
theorem perform_of_no_news (hnone : operation.newsAddress? s = none)
    (hwrites : operation.writesCache = false) (settings : Settings) :
    (operation.perform s).1.requests = [] ∧
      (operation.perform s).2.cache.find? (cacheKey settings) =
        s.cache.find? (cacheKey settings) := by
  have hshelf := shelf_act (s := { s with log := [], requests := [] })
    (cacheKey_ne_probeKey settings) hnone hwrites
  rw [perform_eq]
  exact ⟨congrArg Prod.snd hshelf, congrArg Prod.fst hshelf⟩

/-- Nodes that a working cache keeps are found in it until they expire. -/
theorem ReleaseNotes.holds_keeping (hmode : s.cache.mode = .working)
    (hlifetime : s.settings.releaseNotesLifetime = some lifetime) {nodes : List Node}
    (hcopy : canCopy s.settings nodes = true) :
    (keeping s nodes).Holds (cacheKey s.settings) lifetime (some ⟨s.clock, nodes⟩) := by
  rw [Cache.Holds, find?_put (put_eq_ok_keeping hmode hcopy), hlifetime]
  rfl

section steady

variable (hurl : url ≠ "") (haddress : addressOf url step.before.settings = .ok address)
variable (hreport : step.report = (step.operation.perform step.before).1)
variable (hsteady : step.IsSteady url settings)
variable (hheld : step.before.cache.Holds (cacheKey settings) lifetime last)

include hurl haddress hreport hsteady hheld

/-- **The two ways in which a steady step gets the release notes**: from the cache, if what was
fetched last is recent, and else from the feed. -/
theorem Step.IsSteady.perform_cases (hget : step.operation.newsAddress? step.before = some url) :
    (∃ f ∈ last, f.IsRecent lifetime step.before.clock ∧ step.report.requests = [] ∧
        (step.operation.perform step.before).2.cache = step.before.cache ∧
        step.operation.Tells step.before (.ok f.nodes) step.report.outcome) ∨
      (∀ f ∈ last, ¬ f.IsRecent lifetime step.before.clock) ∧
        step.report.requests = [address.write] ∧
        (step.operation.perform step.before).2.cache = cacheAfter url step.before ∧
        step.operation.Tells step.before ((fetch url).exec step.before).1 step.report.outcome := by
  rw [hreport]
  by_cases hrecent : ∃ f ∈ last, f.IsRecent lifetime step.before.clock
  · obtain ⟨f, hf, hrecent⟩ := hrecent
    have hcached := cached?_of_recent hheld hsteady.working hf hrecent
    rw [← hsteady.cacheKey_eq] at hcached
    exact Or.inl ⟨f, hf, hrecent, perform_of_cached hurl hget hcached⟩
  · have hnone : ∀ f ∈ last, ¬ f.IsRecent lifetime step.before.clock :=
      fun f hf h => hrecent ⟨f, hf, h⟩
    have hcached := cached?_of_not_recent hheld hnone
    rw [← hsteady.cacheKey_eq] at hcached
    obtain ⟨hrequests, hrest⟩ := perform_of_not_cached hurl hget hcached
    rw [haddress] at hrequests
    exact Or.inr ⟨hnone, hrequests, hrest⟩

/-- **A steady step is economical.** -/
theorem Step.IsSteady.isEconomical (hget : step.operation.newsAddress? step.before = some url) :
    step.IsEconomical url address lifetime last := by
  rcases hsteady.perform_cases hurl haddress hreport hheld hget with
    ⟨f, hf, hrecent, hrequests, -, htells⟩ | ⟨hnone, hrequests, -, htells⟩
  · refine ⟨iff_of_true hrequests ⟨f, hf, hrecent⟩, fun g hg _ => ?_, fun h => absurd hrequests h⟩
    obtain rfl := Option.mem_unique hf hg
    exact htells
  · refine ⟨iff_of_false ?_ fun ⟨f, hf, h⟩ => hnone f hf h, fun f hf h => absurd h (hnone f hf),
      fun _ => ⟨hrequests, htells⟩⟩
    rw [hrequests]
    exact List.cons_ne_nil _ _

/-- A steady step that asks the feed in vain leaves the cache as it was. -/
theorem Step.IsSteady.cache_of_error (hget : step.operation.newsAddress? step.before = some url)
    {e : Failure} (hfails : ((fetch url).exec step.before).1 = .error e) :
    (step.operation.perform step.before).2.cache = step.before.cache := by
  rcases hsteady.perform_cases hurl haddress hreport hheld hget with
    ⟨f, -, -, -, hcache, -⟩ | ⟨-, -, hcache, -⟩
  · exact hcache
  · rw [hcache, cacheAfter, hfails]

/-- **After a steady step** the cache holds what has been fetched last. -/
theorem Step.IsSteady.holds_perform (hlifetime : settings.releaseNotesLifetime = some lifetime) :
    (step.operation.perform step.before).2.cache.Holds (cacheKey settings) lifetime
      ((step.fetch? url).or last) := by
  cases hget : step.operation.newsAddress? step.before with
  -- a step that gets no release notes leaves the entry, and asks for nothing
  | none =>
    obtain ⟨hrequests, hfind⟩ := perform_of_no_news hget hsteady.unwritten settings
    rw [← hreport] at hrequests
    rw [Step.fetch?, if_pos hrequests, Option.none_or]
    exact hfind.trans hheld
  | some used =>
    obtain rfl := hsteady.address used hget
    -- otherwise the entry is recent and is used, or the feed is asked and its nodes are kept
    rcases hsteady.perform_cases hurl haddress hreport hheld hget with
      ⟨f, -, -, hrequests, hcache, -⟩ | ⟨-, hrequests, hcache, -⟩
    · rw [hcache, Step.fetch?, if_pos hrequests, Option.none_or]
      exact hheld
    · have hasked : step.report.requests ≠ [] := by
        rw [hrequests]
        exact List.cons_ne_nil _ _
      rw [hcache, cacheAfter, Step.fetch?, if_neg hasked]
      cases hfetch : ((fetch used).exec step.before).1 with
      | error e => exact hheld
      | ok nodes =>
        have hfetched : step.fetch? used = some ⟨step.before.clock, nodes⟩ := by
          rw [Step.fetch?, if_neg hasked, hfetch]
          rfl
        have hkept := holds_keeping hsteady.working (hsteady.lifetime.trans hlifetime)
          (hsteady.copied _ hfetched)
        rw [hsteady.cacheKey_eq] at hkept
        exact hkept

end steady

end step

/-! ### A whole run -/

section run

variable {url : String} {address : Url} {settings : Settings} {lifetime : ℤ} {last : Option Fetch}
variable {operations : List Operation} {site : Site}

/-- **Over a run of steady steps** the cache holds what was fetched last. -/
theorem holds_of_trace (hurl : url ≠ "")
    (haddress : ∀ step ∈ Operation.trace operations site,
      addressOf url step.before.settings = .ok address)
    (hlifetime : settings.releaseNotesLifetime = some lifetime)
    (hsteady : ∀ step ∈ Operation.trace operations site, step.IsSteady url settings)
    (hheld : site.cache.Holds (cacheKey settings) lifetime last) :
    ∀ earlier step later, Operation.trace operations site = earlier ++ step :: later →
      step.before.cache.Holds (cacheKey settings) lifetime
        ((lastFetch? url earlier).or last) := by
  -- by induction on the operations: what the first one leaves is what the others start from
  induction operations generalizing site last with
  | nil =>
    intro earlier step later h
    exact absurd h.symm (List.append_ne_nil_of_right_ne_nil _ (List.cons_ne_nil _ _))
  | cons operation rest ih =>
    intro earlier step later h
    rw [Operation.trace] at h hsteady haddress
    obtain ⟨hfirst, hrest⟩ := List.forall_mem_cons.mp hsteady
    obtain ⟨haddressFirst, haddress⟩ := List.forall_mem_cons.mp haddress
    cases earlier with
    | nil =>
      obtain ⟨rfl, -⟩ := List.cons.inj h
      exact hheld
    | cons first earlier =>
      obtain ⟨rfl, hlater⟩ := List.cons.inj h
      have hafter := hfirst.holds_perform hurl haddressFirst rfl hheld hlifetime
      have hholds := ih haddress hrest hafter earlier step later hlater
      rwa [← Option.or_assoc, ← lastFetch?] at hholds

/-- Steps that do not get the release notes fetch nothing. -/
theorem lastFetch?_of_no_news {steps : List Step}
    (hsteps : ∀ step ∈ steps, step ∈ Operation.trace operations site)
    (hsteady : ∀ step ∈ Operation.trace operations site, step.IsSteady url settings)
    (hnone : ∀ step ∈ steps, step.operation.newsAddress? step.before = none) :
    lastFetch? url steps = none := by
  induction steps with
  | nil => rfl
  | cons step rest ih =>
    obtain ⟨hstep, hsteps⟩ := List.forall_mem_cons.mp hsteps
    obtain ⟨hfirst, hnone⟩ := List.forall_mem_cons.mp hnone
    obtain ⟨hrequests, -⟩ := perform_of_no_news hfirst (hsteady step hstep).unwritten settings
    rw [← Operation.report_of_mem_trace hstep] at hrequests
    rw [lastFetch?, ih hsteps hnone, Option.none_or, Step.fetch?, if_pos hrequests]

section economical

variable (hurl : url ≠ "")
variable (haddress : ∀ step ∈ Operation.trace operations site,
  addressOf url step.before.settings = .ok address)
variable (hlifetime : settings.releaseNotesLifetime = some lifetime)
variable (hsteady : ∀ step ∈ Operation.trace operations site, step.IsSteady url settings)
variable (hempty : site.cache.find? (cacheKey settings) = none)
variable {earlier later : List Step} {step : Step}
variable (hsplit : Operation.trace operations site = earlier ++ step :: later)
variable (hget : step.operation.newsAddress? step.before = some url)

include hsplit in
theorem mem_of_trace_eq : step ∈ Operation.trace operations site := by
  rw [hsplit]
  exact List.mem_append_right _ List.mem_cons_self

include hurl haddress hlifetime hsteady hempty hsplit

theorem holds_of_trace_eq :
    step.before.cache.Holds (cacheKey settings) lifetime (lastFetch? url earlier) := by
  have hstart : site.cache.Holds (cacheKey settings) lifetime none := hempty
  have hheld := holds_of_trace hurl haddress hlifetime hsteady hstart earlier step later hsplit
  rwa [Option.or_none] at hheld

include hget

/-- **Every step of a run of steady steps is economical.** -/
theorem isEconomical_of_trace :
    step.IsEconomical url address lifetime (lastFetch? url earlier) := by
  have hmem := mem_of_trace_eq hsplit
  exact (hsteady step hmem).isEconomical hurl (haddress step hmem)
    (Operation.report_of_mem_trace hmem)
    (holds_of_trace_eq hurl haddress hlifetime hsteady hempty hsplit) hget

/-- **Where the feed has been asked in vain it is asked again**, if the clock never goes back. -/
theorem isRetried_of_trace
    (hclock : (Operation.trace operations site).Pairwise fun a b =>
      a.before.clock.micros ≤ b.before.clock.micros) :
    step.IsRetried url address later := by
  have hmem := mem_of_trace_eq hsplit
  have hheld := holds_of_trace_eq hurl haddress hlifetime hsteady hempty hsplit
  have heconomical :=
    isEconomical_of_trace hurl haddress hlifetime hsteady hempty hsplit hget
  refine fun hasked e hfails => ⟨(hsteady step hmem).cache_of_error hurl (haddress step hmem)
    (Operation.report_of_mem_trace hmem) hheld hget hfails, ?_⟩
  rintro between next rest rfl hbetween hnext
  have hsplit' : Operation.trace operations site =
      (earlier ++ step :: between) ++ next :: rest := by
    rw [hsplit, List.append_assoc, List.cons_append]
  -- between the two steps nothing was got, so the failed fetch is still the last one
  have hagain := isEconomical_of_trace hurl haddress hlifetime hsteady hempty hsplit' hnext
  have hnone : lastFetch? url between = none := by
    refine lastFetch?_of_no_news (fun other hother => ?_) hsteady hbetween
    rw [hsplit]
    exact List.mem_append_right _ (List.mem_cons_of_mem _ (List.mem_append_left _ hother))
  rw [lastFetch?_of_failed hfails hnone] at hagain
  have hnow : step.before.clock.micros ≤ next.before.clock.micros := by
    rw [hsplit] at hclock
    have htail := (List.pairwise_append.mp hclock).2.1
    exact (List.pairwise_cons.mp htail).1 next (List.mem_append_right _ List.mem_cons_self)
  -- what was fetched last was not recent at the step, and is not at the next one either
  refine (hagain.asked fun hspared => ?_).1
  obtain ⟨f, hf, hrecent⟩ := hagain.spared_iff.mp hspared
  exact hasked (heconomical.spared_iff.mpr ⟨f, hf, hrecent.of_le hnow⟩)

end economical

/-- **Freshness of the release notes**: in a run that starts without release notes in a working
cache, in which the version, the installation, the lifetime and the address stay as they are, nobody
else writes to the cache, nothing that is fetched is nested too deep to be copied and the clock
never goes back, whatever the feed does and whoever asks, a step that gets the release notes asks
the feed for nothing if and only if the last fetch that has succeeded is less than a lifetime ago,
and then has its nodes; otherwise it asks the feed once and has what comes of it. If nothing comes
of it, the cache is as it was, and the next step that gets the release notes asks the feed again. -/
theorem releaseNotes_fresh (operations : List Operation) (site : Site) {url : String}
    (hurl : url ≠ "") {address : Url} (haddress : addressOf url site.settings = .ok address)
    {lifetime : ℤ} (hlifetime : site.settings.releaseNotesLifetime = some lifetime)
    (hempty : site.cache.find? (cacheKey site.settings) = none)
    (hsteady : ∀ step ∈ Operation.trace operations site, step.IsSteady url site.settings)
    (hclock : (Operation.trace operations site).Pairwise fun a b =>
      a.before.clock.micros ≤ b.before.clock.micros) :
    ∀ earlier step later, Operation.trace operations site = earlier ++ step :: later →
      (step.operation.newsAddress? step.before = none → step.report.requests = []) ∧
        (step.operation.newsAddress? step.before = some url →
          step.IsEconomical url address lifetime (lastFetch? url earlier) ∧
            step.IsRetried url address later) := by
  -- the address is the same at every step, since no operation changes the library
  have haddress : ∀ step ∈ Operation.trace operations site,
      addressOf url step.before.settings = .ok address := fun step hmem =>
    ((hsteady step hmem).addressOf_eq (library_of_mem_trace hmem)).trans haddress
  intro earlier step later hsplit
  have hmem := mem_of_trace_eq hsplit
  refine ⟨fun hnone => ?_, fun hget => ⟨?_, ?_⟩⟩
  · rw [Operation.report_of_mem_trace hmem]
    exact (perform_of_no_news hnone (hsteady step hmem).unwritten site.settings).1
  · exact isEconomical_of_trace hurl haddress hlifetime hsteady hempty hsplit hget
  · exact isRetried_of_trace hurl haddress hlifetime hsteady hempty hsplit hget hclock

end run

/-- Release notes are fetched and kept for a minute. A homepage shows them from the cache just
before they expire; then the feed is gone, and is asked in vain by a call and by a request. -/
def sampleMinute : List Operation :=
  [.call (.releaseNotes none), .surroundings (.moveClock none 59999999),
    .call (.homepage (.named "ada") none), .surroundings (.moveClock none 1),
    .surroundings (.changeFeed .unconfigured), .call (.releaseNotes none),
    .request Http.sampleRequest (.named "ada")]

/-- The site of this run. -/
def sampleMinuteSite : Site :=
  { Http.siteWithTag "\"v1\"" with
    settings := { releaseNotesUrl := "http://feed/", releaseNotesLifetime := .seconds 60 } }

theorem releaseNotes_fresh_sample :
    (Operation.trace sampleMinute sampleMinuteSite).map (·.report.requests) =
        [["http://feed/?instanceId=test-instance&version=1.6.0"], [], [], [], [],
          ["http://feed/?instanceId=test-instance&version=1.6.0"],
          ["http://feed/?instanceId=test-instance&version=1.6.0"]] ∧
      ∃ address, addressOf "http://feed/" sampleMinuteSite.settings = .ok address ∧
        ∀ earlier step later,
          Operation.trace sampleMinute sampleMinuteSite = earlier ++ step :: later →
            (step.operation.newsAddress? step.before = none → step.report.requests = []) ∧
              (step.operation.newsAddress? step.before = some "http://feed/" →
                step.IsEconomical "http://feed/" address 60000000
                    (lastFetch? "http://feed/" earlier) ∧
                  step.IsRetried "http://feed/" address later) := by
  obtain ⟨address, haddress⟩ :=
    (isOk_iff (r := addressOf "http://feed/" sampleMinuteSite.settings)).mp (by decide +kernel)
  exact ⟨by decide +kernel, address, haddress,
    releaseNotes_fresh sampleMinute sampleMinuteSite (by decide) haddress rfl rfl
      (by decide +kernel) (by decide +kernel)⟩

end WorkspaceHome
