import Mathlib.Tactic.SplitIfs
import WorkspaceHome.Proofs.Frame.Detached
import WorkspaceHome.Proofs.Frame.Sight
import WorkspaceHome.ReleaseNotes.Client

/-!
# What getting the release notes has to do with

An action gathers news if it looks at no more than the cache, the time, the settings and the feed,
and does no more than note what tells of it, ask the feed and write to the cache (`Gathers`).
Getting the release notes does (`gathers_nodesAt`). So, whether it succeeds or fails, it neither
looks at the store nor changes it (`detached_nodesAt`), and it sees no more of a site than any view
by which that can be followed (`Gathers.seesOnly`).
-/

namespace WorkspaceHome.ReleaseNotes

open Service

/-- Actions that gather news. -/
inductive Gathers : {α : Type} → Service α → Prop
  | pure {α : Type} (a : α) : Gathers (pure a : Service α)
  | throw {α : Type} (e : Failure) : Gathers (throw e : Service α)
  | settle {α : Type} (r : Except Failure α) : Gathers (settle r)
  | log {e : Event} (h : e.isNews = true) : Gathers (log e)
  | ask (address : String) :
    Gathers (modify fun s => { s with requests := s.requests ++ [address] } : Service PUnit)
  | keep (key : String) (nodes : List Node) : Gathers (writeCache key nodes)
  | bind {α β : Type} {x : Service α} {f : α → Service β} (hx : Gathers x)
    (hf : ∀ a, Gathers (f a)) : Gathers (x >>= f)
  | look {α : Type} {f : Site → Service α}
    (hview : ∀ s store log context requests,
      f { s with store, log, context, requests } = f s)
    (hf : ∀ s, Gathers (f s)) : Gathers (get >>= f)

/-! ### Getting the release notes -/

theorem gathers_unavailable {α : Type} {event : Event} (h : event.isNews = true)
    (detail : String) : Gathers (unavailable event detail : Service α) :=
  (Gathers.log h).bind fun _ => .throw _

theorem gathers_checkLocation (library : Url.Library) (url : String) (address : Url)
    (reply : Reply) : Gathers (checkLocation library url address reply) := by
  unfold checkLocation
  rcases reply.location?.map library.read with _ | (defect | target)
  · exact .pure ()
  · exact gathers_unavailable rfl _
  · exact (Gathers.settle _).bind fun _ => .pure ()

theorem gathers_request (url : String) (address : Url) : Gathers (request url address) := by
  unfold request
  refine (Gathers.ask _).bind fun _ => .look (fun _ _ _ _ _ => rfl) fun s => ?_
  cases s.feed with
  | fails fault =>
    dsimp only
    split_ifs
    · exact gathers_unavailable rfl _
    · exact .throw _
  | refuses status => exact gathers_unavailable rfl _
  | replies reply =>
    dsimp only
    split_ifs
    · exact (gathers_checkLocation _ url address reply).bind fun _ => .pure reply
    · exact gathers_unavailable rfl _

/-- The nodes in the body of a reply, as `fetch` reads them. -/
def decode (url : String) (body : List UInt8) : Service (List Node) :=
  match Json.readBytes body with
  | .error .tooDeep => throw .tooDeep
  | .error (.invalid message) => unavailable (.feedFetchFailed message url) message
  | .ok payload =>
    match nodesOfPayload payload with
    | .error e => unavailable (.feedPayloadInvalid e.label) "Unexpected release-notes payload."
    | .ok nodes => pure nodes

theorem gathers_decode (url : String) (body : List UInt8) : Gathers (decode url body) := by
  unfold decode
  rcases Json.readBytes body with (message | _) | payload
  · exact gathers_unavailable rfl _
  · exact .throw _
  · dsimp only
    cases nodesOfPayload payload with
    | error e => exact gathers_unavailable rfl _
    | ok nodes => exact .pure nodes

theorem gathers_fetch (url : String) : Gathers (fetch url) := by
  unfold fetch
  refine .look (fun _ _ _ _ _ => rfl) fun s => (Gathers.settle _).bind fun address =>
    (gathers_request url address).bind fun reply => ?_
  -- a refused status stops before the body, but both branches are written with what follows
  dsimp only
  split_ifs
  · exact (gathers_unavailable rfl _).bind fun _ => gathers_decode url reply.body
  · exact gathers_decode url reply.body

theorem gathers_readCache (key : String) : Gathers (readCache key) := by
  unfold readCache
  refine .look (fun _ _ _ _ _ => rfl) fun s => ?_
  split
  · exact (Gathers.log rfl).bind fun _ => .pure none
  · exact .pure none
  · exact .pure none
  · split
    · exact .pure _
    · exact (Gathers.log rfl).bind fun _ => .pure none

/-- **Getting the release notes** gathers news. -/
theorem gathers_nodesAt (url : String) : Gathers (nodesAt url) := by
  unfold nodesAt
  split_ifs
  · exact .pure []
  · refine .look (fun _ _ _ _ _ => rfl) fun s => (gathers_readCache _).bind fun cached => ?_
    cases cached with
    | some nodes => exact .pure nodes
    | none =>
      exact (gathers_fetch url).bind fun nodes => (Gathers.keep _ nodes).bind fun _ =>
        (Gathers.log rfl).bind fun _ => .pure nodes

/-! ### What it is detached from -/

/-- Nodes are put into the cache, or it is noted why not. -/
theorem exec_writeCache (key : String) (nodes : List Node) (s : Site) :
    (writeCache key nodes).exec s = (.ok (),
      match kept s key nodes with
      | .error fault => s.noting [.cacheWriteFailed fault.kind]
      | .ok cache => { s with cache }) := by
  unfold writeCache
  rw [exec_get_bind]
  cases kept s key nodes <;> rfl

theorem detached_writeCache (key : String) (nodes : List Node) :
    Detached (writeCache key nodes) := by
  -- the site is set as a whole, its store included, which `Detached.get_bind` does not allow for
  constructor
  · intro s store
    have hkept : kept { s with store } key nodes = kept s key nodes := rfl
    rw [exec_writeCache, exec_writeCache, hkept]
    cases kept s key nodes <;> rfl
  · intro F hF s
    unfold Frame.KeepsAt
    rw [exec_writeCache]
    cases kept s key nodes with
    | error fault => exact hF.news s _ rfl
    | ok cache => exact hF.cache s cache

/-- What gathers news has nothing to do with the store and notes nothing else. -/
theorem Gathers.detached {α : Type} {x : Service α} (hx : Gathers x) : Detached x := by
  induction hx with
  | pure a => exact Detached.pure a
  | throw e => exact Detached.throw e
  | settle r => exact Detached.settle r
  | log h => exact Detached.log h
  | ask address => exact ⟨Blind.modify fun _ _ => rfl, fun hF s => hF.requests s _⟩
  | keep key nodes => exact detached_writeCache key nodes
  | bind _ _ hx hf => exact hx.bind hf
  | look hview _ hf =>
    exact Detached.get_bind (fun s store => hview s store s.log s.context s.requests) hf

/-- **Getting the release notes** has nothing to do with the store and notes nothing else. -/
theorem detached_nodesAt (url : String) : Detached (nodesAt url) := (gathers_nodesAt url).detached

/-! ### What it sees -/

/-- A view by which the gathering of news can be followed: it shows all that it depends on, and of
what it leaves no more than depends on that. -/
structure Tracks {γ : Type} (view : Site → γ) : Prop where
  look : ∀ {s t}, view s = view t → ∃ store log context requests,
    t = { s with store, log, context, requests }
  log : ∀ {s t} e, view s = view t → view (s.noting [e]) = view (t.noting [e])
  ask : ∀ {s t} address, view s = view t →
    view { s with requests := s.requests ++ [address] } =
      view { t with requests := t.requests ++ [address] }
  keep : ∀ {s t} cache, view s = view t → view { s with cache } = view { t with cache }

theorem Tracks.writeCache {γ : Type} {view : Site → γ} (hview : Tracks view) (key : String)
    (nodes : List Node) : SeesOnly view (writeCache key nodes) := by
  intro s t h
  obtain ⟨store, log, context, requests, rfl⟩ := hview.look h
  have hkept : kept { s with store, log, context, requests } key nodes = kept s key nodes := rfl
  rw [exec_writeCache, exec_writeCache, hkept]
  cases kept s key nodes with
  | error fault => exact ⟨rfl, hview.log _ h⟩
  | ok cache => exact ⟨rfl, hview.keep cache h⟩

/-- **What gathers news sees no more** than a view by which that can be followed. -/
theorem Gathers.seesOnly {α γ : Type} {view : Site → γ} (hview : Tracks view) {x : Service α}
    (hx : Gathers x) : SeesOnly view x := by
  induction hx with
  | pure a => exact SeesOnly.pure a
  | throw e => exact SeesOnly.throw e
  | settle r => exact SeesOnly.settle r
  | log _ => exact SeesOnly.modify_congr fun _ _ h => hview.log _ h
  | ask address => exact SeesOnly.modify_congr fun _ _ h => hview.ask address h
  | keep key nodes => exact hview.writeCache key nodes
  | bind _ _ hx hf => exact hx.bind hf
  | look hsame _ hf =>
    refine SeesOnly.get_bind (fun s t h => ?_) hf
    obtain ⟨store, log, context, requests, rfl⟩ := hview.look h
    exact (hsame s store log context requests).symm

/-- All that getting the release notes depends on. -/
def basis (s : Site) : Cache × Timestamp × Settings × Feed :=
  (s.cache, s.clock, s.settings, s.feed)

theorem tracks_basis : Tracks basis where
  look {s t} h := by
    simp only [basis, Prod.mk.injEq] at h
    obtain ⟨hcache, hclock, hsettings, hfeed⟩ := h
    refine ⟨t.store, t.log, t.context, t.requests, ?_⟩
    rw [hcache, hclock, hsettings, hfeed]
  log _ h := h
  ask _ h := h
  keep cache h := congrArg (fun b => (cache, b.2)) h

/-- What getting the release notes comes to does not depend on what was noted or asked for. -/
theorem outcome_nodesAt_congr (url : String) {s t : Site} (h : basis s = basis t) :
    ((nodesAt url).exec s).1 = ((nodesAt url).exec t).1 :=
  ((gathers_nodesAt url).seesOnly tracks_basis s t h).1

end WorkspaceHome.ReleaseNotes
