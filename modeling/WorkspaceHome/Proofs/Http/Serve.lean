import WorkspaceHome.Proofs.Frame.Upheld

/-!
# Serving a request by its view

A request reaches the view of an endpoint, or it is turned away before (`Request.reaches`). What is
done around a view leaves no more than entries of the log and their context, so a mild frame is kept
by serving a request if the view keeps it (`Mild.serve_follows`, `Mild.serve`). An upheld frame is
kept by all views (`Upheld.view`) and so by every request (`Upheld.serve`). Where a view succeeds,
its answer is the response (`outcome_serve`).
-/

namespace WorkspaceHome

open Service

namespace Http

/-- The endpoint whose view a request reaches. -/
def Request.reaches (r : Request) : Option Endpoint :=
  match Endpoint.at? (Target.read r.target).path with
  | none => none
  | some .health => some .health
  | some e =>
    if (negotiate r (Target.read r.target)).isNone &&
        (obstacle? r (r.method.map Char.toUpper) e).isNone then
      some e
    else none

/-- A user who is signed in is kept from a view by the method alone. -/
theorem obstacle?_eq_none_iff {r : Request} {method : String} {e : Endpoint} {u : User}
    (h : r.viewer = .user u) : obstacle? r method e = none ↔ e.serves method = true := by
  have hrefusal : r.refusal? = none := by
    unfold Request.refusal?
    rw [h]
  unfold obstacle?
  rw [hrefusal]
  cases e.serves method with
  | true => exact iff_of_true rfl rfl
  | false => exact iff_of_false nofun Bool.false_ne_true

/-- What is bound while a request is served under an id. -/
def boundTo (id : String) : Context := [("request_id", .text id)]

/-- The context in which a view is asked. -/
def Request.context (r : Request) : Context := boundTo r.id

/-- All endpoints but the health of the service are served in one way. -/
theorem serveTarget_eq {r : Request} {t : Target} {e : Endpoint} (he : e ≠ .health)
    (hat : Endpoint.at? t.path = some e) :
    serveTarget r t = serveEndpoint r t (r.method.map Char.toUpper) e := by
  unfold serveTarget
  rw [hat]
  cases e with
  | health => exact absurd rfl he
  | _ => rfl

/-- What a request is served with what its view gives. -/
def answered (r : Request) (e : Endpoint) : ViewResult → Service Served
  | .ok (status, body) =>
    pure
      { response := respond (r.method.map Char.toUpper) status body
        sender := Sender.ofViewer r.viewer }
  | .error trouble => do
    let response ← respondTo e (r.method.map Char.toUpper) trouble
    return { response, sender := Sender.ofViewer r.viewer }

/-- What a request for the health of the service is served with what its view gives. -/
def answeredToAll (r : Request) : ViewResult → Service Served
  | .ok (status, body) => pure { response := respond (r.method.map Char.toUpper) status body }
  | .error _ => pure { response := { status := 500 } }

/-- A request that reaches the view of an endpoint has its path. -/
theorem Request.at?_of_reaches {r : Request} {e : Endpoint} (h : r.reaches = some e) :
    Endpoint.at? (Target.read r.target).path = some e := by
  unfold reaches at h
  split at h
  · cases h
  · rename_i hat
    cases h
    exact hat
  · rename_i hat
    split_ifs at h
    cases h
    exact hat

theorem serveTarget_of_health {r : Request} (h : r.reaches = some .health) :
    serveTarget r (Target.read r.target) = view r .health >>= answeredToAll r := by
  unfold serveTarget
  rw [r.at?_of_reaches h]
  rfl

/-- A request whose caller takes the form of the answer is served what keeps it from the view, or
else what the view gives. -/
theorem serveTarget_of_accepted {r : Request} {e : Endpoint} (he : e ≠ .health)
    (hat : Endpoint.at? (Target.read r.target).path = some e)
    (haccepted : negotiate r (Target.read r.target) = none) :
    serveTarget r (Target.read r.target) =
      (match obstacle? r (r.method.map Char.toUpper) e with
        | some trouble => pure (.error trouble)
        | none => view r e) >>= answered r e := by
  rw [serveTarget_eq he hat]
  unfold serveEndpoint
  rw [haccepted]
  cases obstacle? r (r.method.map Char.toUpper) e <;> rfl

/-- A request that reaches a view is served what the view gives. -/
theorem serveTarget_of_reaches {r : Request} {e : Endpoint} (h : r.reaches = some e)
    (he : e ≠ .health) :
    serveTarget r (Target.read r.target) = view r e >>= answered r e := by
  have hat := r.at?_of_reaches h
  unfold Request.reaches at h
  split at h
  · cases h
  · cases h
    exact absurd rfl he
  · split_ifs at h with hreached
    cases h
    obtain ⟨haccepted, hobstacle⟩ := Bool.and_eq_true_iff.mp hreached
    rw [serveTarget_of_accepted he hat (Option.isNone_iff_eq_none.mp haccepted),
      Option.isNone_iff_eq_none.mp hobstacle]

end Http

namespace Service.Frame

open Http

variable {F : Frame} {α : Type}

/-! ### Views -/

theorem attempt_follows (x : Service α) (s : Site) : F.Follows x (attempt x) s := by
  unfold Follows attempt
  rw [exec_bind, exec_tryCatch, exec_bind]
  rcases x.exec s with ⟨e | a, t⟩ <;> exact F.refl t

theorem homepageView_follows (viewer : Viewer) (s : Site) :
    F.Follows (Homepage.build viewer none) (homepageView viewer) s := by
  have hbuild : F.Follows (Homepage.build viewer none)
      (Homepage.build viewer none >>= fun h => pure (200, some h.payload)) s :=
    (follows_refl _ s).bind fun h => keeps_pure _
  exact F.trans hbuild (attempt_follows _ s)

theorem keeps_recentApplicationView (record : ∀ viewer s, ∀ a ∈ s.store.applications.rows,
    F.KeepsAt (Remembrance.recordRecent viewer a) s) (viewer : Viewer) (key : String) :
    F.Keeps (recentApplicationView viewer key) := by
  intro s
  refine (attempt_follows _ s).keepsAt ?_
  refine (keeps_settle _ s).bind fun user t _ => ?_
  refine (keeps_findApplication _ viewer t).bind fun a r hfound => ?_
  obtain ⟨rfl, ha⟩ := mem_of_findApplication hfound
  exact (record viewer r a ha).bind fun data t _ => keeps_pure _ t

theorem keeps_createWorkspaceView
    (create : ∀ name viewer, F.Keeps (Workspaces.create name viewer)) (r : Request) :
    F.Keeps (createWorkspaceView r) := by
  unfold Http.createWorkspaceView
  cases r.viewer.signedIn with
  | error e => exact keeps_pure _
  | ok user =>
    cases r.data.bind nameOf with
    | error trouble => exact keeps_pure _
    | ok name =>
      exact fun s => (attempt_follows _ s).keepsAt
        (((create _ _).bind fun workspace => keeps_pure _) s)

theorem keeps_workspaceView (viewer : Viewer) (key : String) :
    F.Keeps (workspaceView viewer key) :=
  fun s => (attempt_follows _ s).keepsAt (((keeps_settle _).bind fun _ =>
    (keeps_findWorkspace _ viewer).bind fun _ => (keeps_ask _).bind fun _ => keeps_pure _) s)

theorem Lenient.probe (hF : F.Lenient) : F.Keeps Health.probe := by
  intro s
  unfold Health.probe KeepsAt
  rw [exec_get_bind]
  cases s.cache.put s.clock Health.probeKey Health.probeValue (.seconds 5) with
  | error fault => exact F.refl s
  | ok cache => exact hF.cache s cache

/-- Checking the health of the service keeps a mild frame if probing the cache does. -/
theorem Mild.check (hF : F.Mild) (hprobe : F.Keeps Health.probe) (fault : Option String) :
    F.Keeps (Health.check fault) := by
  have hdatabase : F.Keeps (Health.checkDatabase fault) := by
    unfold Health.checkDatabase
    cases fault with
    | none => exact keeps_pure _
    | some message => exact (hF.log rfl).bind fun _ => keeps_pure _
  have hcache : F.Keeps Health.checkCache := by
    unfold Health.checkCache
    refine hprobe.bind fun result => ?_
    cases result with
    | error fault => exact (hF.log rfl).bind fun _ => keeps_pure _
    | ok read =>
      dsimp only
      split_ifs
      · exact keeps_pure _
      · exact keeps_pure _
  unfold Health.check
  exact hdatabase.bind fun _ => hcache.bind fun _ => keeps_get.bind fun _ => keeps_pure _

/-- All views but the homepage keep a mild frame if recording an application, creating a workspace
and probing the cache do. -/
theorem Mild.view_of_ne (hF : F.Mild) (record : ∀ viewer s, ∀ a ∈ s.store.applications.rows,
      F.KeepsAt (Remembrance.recordRecent viewer a) s)
    (create : ∀ name viewer, F.Keeps (Workspaces.create name viewer))
    (probe : F.Keeps Health.probe) (r : Request) {e : Endpoint} (he : e ≠ .homepage) :
    F.Keeps (view r e) := by
  cases e with
  | health => exact (hF.check probe _).bind fun report => keeps_pure _
  | homepage => exact absurd rfl he
  | recentApplication key => exact keeps_recentApplicationView record _ key
  | workspaces => exact keeps_createWorkspaceView create r
  | workspace key => exact keeps_workspaceView _ key

theorem Upheld.view (hF : F.Upheld) (r : Request) (e : Endpoint) : F.Keeps (view r e) := by
  by_cases he : e = .homepage
  · subst he
    exact fun s => (homepageView_follows _ s).keepsAt (hF.build hF.viewed r.viewer none s)
  · exact hF.toMild.view_of_ne hF.record hF.create hF.probe r he

/-! ### Around the views -/

theorem Mild.answer (hF : F.Mild) (view : Option String) (trouble : Trouble) :
    F.Keeps (trouble.answer view) := by
  unfold Trouble.answer
  split
  · exact (hF.log rfl).bind fun _ => keeps_pure _
  · exact (hF.log rfl).bind fun _ => keeps_pure _
  · exact (hF.log rfl).bind fun _ => keeps_pure _

theorem Mild.respondTo (hF : F.Mild) (e : Endpoint) (method : String) (trouble : Trouble) :
    F.Keeps (respondTo e method trouble) := by
  unfold Http.respondTo
  refine (hF.answer _ trouble).bind fun answer => ?_
  cases answer with
  | some answer =>
    dsimp only
    split_ifs
    · exact keeps_pure _
    · exact keeps_pure _
  | none => cases trouble <;> exact keeps_pure _

/-- A request that reaches no view leaves nothing but what is noted. -/
theorem Mild.serveTarget_of_none (hF : F.Mild) {r : Request} (h : r.reaches = none) :
    F.Keeps (serveTarget r (Target.read r.target)) := by
  have hturned (e : Endpoint) (trouble : Trouble) (sender : Sender) :
      F.Keeps (do
        let response ← Http.respondTo e (r.method.map Char.toUpper) trouble
        return { response, sender } : Service Served) :=
    (hF.respondTo e _ trouble).bind fun response => keeps_pure _
  -- a request is turned away by its path, by the form of the answer, or by an obstacle
  unfold Request.reaches at h
  split at h
  · rename_i hat
    unfold Http.serveTarget
    rw [hat]
    exact keeps_pure _
  · cases h
  · rename_i e hhealth hat
    rw [serveTarget_eq hhealth hat]
    unfold Http.serveEndpoint
    cases hnegotiate : negotiate r (Target.read r.target) with
    | some p => exact hturned e _ .unknown
    | none =>
      dsimp only
      cases hobstacle : obstacle? r (r.method.map Char.toUpper) e with
      | some trouble => exact hturned e trouble _
      | none =>
        rw [hnegotiate, hobstacle] at h
        cases h

/-- A request that reaches a view leaves what the view leaves, but for what is noted. -/
theorem Mild.serveTarget_follows (hF : F.Mild) {r : Request} {e : Endpoint}
    (h : r.reaches = some e) (s : Site) :
    F.Follows (view r e) (serveTarget r (Target.read r.target)) s := by
  by_cases he : e = .health
  · subst he
    rw [serveTarget_of_health h]
    refine (follows_refl _ s).bind fun result => ?_
    cases result <;> exact keeps_pure _
  · rw [serveTarget_of_reaches h he]
    refine (follows_refl _ s).bind fun result => ?_
    cases result with
    | ok answer => exact keeps_pure _
    | error trouble => exact (hF.respondTo e _ trouble).bind fun response => keeps_pure _

/-- Around a view its context is bound, and it is noted how the request was served. -/
theorem Mild.observed_follows (hF : F.Mild) (hcontext : F.IgnoresContext) (r : Request)
    (path : String) (view : Service Served) (s : Site) :
    F.rel (view.exec { s with context := r.context }).2 ((observed r path view).exec s).2 := by
  have hcontext (context : Context) :
      F.Keeps (modify fun s => { s with context } : Service PUnit) := fun s => hcontext s context
  unfold Http.observed Http.observedUnder
  rw [exec_modify_bind]
  show F.Follows view (tryCatch _ _ >>= _) { s with context := r.context }
  refine Follows.bind (Follows.tryCatch ?_ fun e => ?_) fun result => ?_
  · exact (follows_refl view _).bind fun served => (hF.log (by rfl)).bind fun _ =>
      (keeps_settle _).bind fun id => (hcontext []).bind fun _ => keeps_pure _
  · exact (hcontext []).bind fun _ => (keeps_throw e).bind fun result => keeps_pure _
  · cases result <;> exact keeps_pure _

/-- **Serving a request leaves what a part of it leaves**, but for what is noted. -/
theorem Mild.serve_follows (hF : F.Mild) (hcontext : F.IgnoresContext) (r : Request) (s : Site) :
    F.rel ((serveTarget r (Target.read r.target)).exec { s with context := r.context }).2
      ((serve r).exec s).2 := by
  refine F.trans (hF.observed_follows hcontext r ((Target.read r.target).write false) _ s) ?_
  unfold Http.serve
  show F.Follows (observed r _ _) (tryCatch _ _ >>= _) s
  refine Follows.bind (Follows.tryCatch ?_ fun e => keeps_pure _) fun result => ?_
  · exact (follows_refl _ s).bind fun response => keeps_pure _
  · cases result with
    | error response => exact keeps_pure _
    | ok response =>
      show F.Keeps (if _ then _ else _)
      split_ifs
      · exact keeps_pure _
      · exact keeps_pure _

theorem Mild.serve_of_none (hF : F.Mild) (hcontext : F.IgnoresContext) {r : Request}
    (h : r.reaches = none) : F.Keeps (serve r) := by
  intro s
  have htarget := hF.serveTarget_of_none h { s with context := r.context }
  exact F.trans (hcontext s r.context) (F.trans htarget (hF.serve_follows hcontext r s))

/-- A request that reaches a view is served as the view is, but for what is noted. -/
theorem Mild.serve_of_some (hF : F.Mild) (hcontext : F.IgnoresContext) {r : Request} {e : Endpoint}
    (h : r.reaches = some e) (s : Site) :
    F.rel ((view r e).exec { s with context := r.context }).2 ((serve r).exec s).2 :=
  F.trans (hF.serveTarget_follows h _) (hF.serve_follows hcontext r s)

theorem Upheld.serveTarget (hF : F.Upheld) (r : Request) :
    F.Keeps (serveTarget r (Target.read r.target)) := by
  intro s
  cases h : r.reaches with
  | none => exact hF.serveTarget_of_none h s
  | some e => exact (hF.serveTarget_follows h s).keepsAt (hF.view r e s)

/-- **Serving a request keeps an upheld frame**, whatever the request is. -/
theorem Upheld.serve (hF : F.Upheld) (hcontext : F.IgnoresContext) (r : Request) :
    F.Keeps (serve r) := fun s =>
  F.trans (hcontext s r.context) (F.trans (hF.serveTarget r _) (hF.serve_follows hcontext r s))

end Service.Frame

/-! ### Responses -/

namespace Http

variable {r : Request} {e : Endpoint} {s t : Site} {status : ℕ} {body : Option Json}

theorem exec_serveTarget (h : r.reaches = some e)
    (hview : (view r e).exec s = (.ok (.ok (status, body)), t)) :
    ∃ sender, (serveTarget r (Target.read r.target)).exec s =
      (.ok { response := respond (r.method.map Char.toUpper) status body, sender }, t) := by
  by_cases he : e = .health
  · subst he
    rw [serveTarget_of_health h, exec_bind_ok hview]
    exact ⟨.unknown, rfl⟩
  · rw [serveTarget_of_reaches h he, exec_bind_ok hview]
    exact ⟨_, rfl⟩

theorem lacksSlash_of_at? {path : String} (h : Endpoint.at? path = some e) :
    Endpoint.lacksSlash path = false := by
  have hknown : Endpoint.isKnown path = true := by
    unfold Endpoint.isKnown
    rw [h]
    rfl
  unfold Endpoint.lacksSlash
  rw [hknown]
  simp

/-- What is noted of a request that has been served. -/
def Request.entry (r : Request) (path : String) (served : Served) : Event :=
  .requestServed (r.method.map Char.toUpper) path served.response.status served.sender.id?

/-- **Around a view**: it is entered with the id bound and nothing else, and in the end nothing is
bound. What it gives is noted and is the response, with the id; its failure is passed on. -/
theorem exec_observedUnder (id : String) (r : Request) (path : String) (view : Service Served)
    (s : Site) :
    (observedUnder id r path view).exec s =
      match view.exec { s with context := boundTo id } with
      | (.ok served, t) =>
        ((HeaderValue.sent id).map fun sent => { served.response with requestId := some sent },
          { t.noting [r.entry path served] with context := [] })
      | (.error e, t) => (.error e, { t with context := [] }) := by
  unfold observedUnder boundTo
  rw [exec_modify_bind, exec_bind, exec_tryCatch, exec_bind]
  rcases view.exec { s with context := [("request_id", .text id)] } with ⟨e | served, t⟩
  · rfl
  · dsimp only
    rw [exec_log_bind]
    cases HeaderValue.sent id <;> rfl

/-- **Every request is answered**, and leaves what is left around its view. -/
theorem exec_serve (r : Request) (s : Site) :
    ∃ response, (serve r).exec s = (.ok response, ((observed r ((Target.read r.target).write false)
      (serveTarget r (Target.read r.target))).exec s).2) := by
  have hmoved (moved : Bool) (response : Response) (t : Site) :
      ∃ response', Service.exec (if moved then
        pure { status := 301, location := some ((Target.read r.target).write true) }
      else pure response) t = (.ok response', t) := by
    cases moved <;> exact ⟨_, rfl⟩
  unfold serve
  dsimp only
  rw [exec_bind, exec_tryCatch, exec_bind]
  rcases (observed r ((Target.read r.target).write false)
    (serveTarget r (Target.read r.target))).exec s with ⟨f | response, t⟩
  · exact ⟨_, rfl⟩
  · exact hmoved _ response t

/-- A request that reaches a view leaves the store as the view leaves it. -/
theorem store_serve (h : r.reaches = some e) (s : Site) :
    ((serve r).exec s).2.store = ((view r e).exec { s with context := r.context }).2.store := by
  have hstore : (Frame.fixing Site.store).Mild := ⟨fun _ _ _ => rfl⟩
  exact hstore.serve_of_some (fun _ _ => rfl) h s

/-- **What a target is served is the response**, with the id of the request. -/
theorem exec_serve_of_served (h : Endpoint.at? (Target.read r.target).path = some e) {id : String}
    (hid : HeaderValue.sent r.id = .ok id) {served : Served}
    (htarget : (serveTarget r (Target.read r.target)).exec { s with context := r.context } =
      (.ok served, t)) :
    (serve r).exec s = (.ok { served.response with requestId := some id },
      { t.noting [r.entry ((Target.read r.target).write false) served] with context := [] }) := by
  have hobserved : (observed r ((Target.read r.target).write false)
      (serveTarget r (Target.read r.target))).exec s = _ := exec_observedUnder r.id r _ _ s
  rw [show boundTo r.id = r.context from rfl, htarget, hid] at hobserved
  unfold serve
  rw [exec_bind, exec_tryCatch, exec_bind_ok hobserved]
  simp only [lacksSlash_of_at? h, Bool.and_false, Bool.false_eq_true, if_false]
  rfl

theorem outcome_serve_of_served (h : r.reaches = some e) {id : String}
    (hid : HeaderValue.sent r.id = .ok id) {served : Served}
    (htarget : (serveTarget r (Target.read r.target)).exec { s with context := r.context } =
      (.ok served, t)) :
    ((serve r).exec s).1 = .ok { served.response with requestId := some id } := by
  rw [exec_serve_of_served (r.at?_of_reaches h) hid htarget]

/-- **The response is the answer of the view**, with the id of the request. -/
theorem outcome_serve (h : r.reaches = some e) {id : String} (hid : HeaderValue.sent r.id = .ok id)
    (hview : (view r e).exec { s with context := r.context } = (.ok (.ok (status, body)), t)) :
    ((serve r).exec s).1 =
      .ok { respond (r.method.map Char.toUpper) status body with requestId := some id } := by
  obtain ⟨sender, htarget⟩ := exec_serveTarget h hview
  exact outcome_serve_of_served h hid htarget

end Http

end WorkspaceHome
