import WorkspaceHome.Proofs.Http.Homepage
import WorkspaceHome.Proofs.Http.Sendable

/-!
# How a view that may fail is answered

The views of the service do an operation whose failure is answered: a refusal under its status, and
any other failure under the status of a fault (`Failure.status`, `serve_attempt`). A request of a
signed-in user asks for a path by a method (`Request.Asks`).
-/

namespace WorkspaceHome

open Service

/-- The status under which a failure is answered. -/
def Failure.status : Failure → ℕ
  | .refused r => r.status
  | _ => 500

theorem Failure.status_ge (f : Failure) : 400 ≤ f.status := by
  cases f with
  | refused r =>
    show 400 ≤ r.kind.status
    cases r.kind <;> decide
  | _ => exact (by decide : 400 ≤ 500)

namespace Http

variable {r : Request} {e : Endpoint} {s t : Site} {α : Type}

/-! ### Paths -/

/-- A text in front of the first mark is the first part. -/
theorem splitAt_append {mark : Char} {part : List Char} (h : mark ∉ part) (rest : List Char) :
    Url.splitAt mark (part ++ mark :: rest) = part :: Url.splitAt mark rest := by
  induction part with
  | nil => simp [Url.splitAt]
  | cons c part ih =>
    obtain ⟨hc, hpart⟩ := not_or.mp (mt List.mem_cons.mpr h)
    have hne : (c == mark) = false := beq_eq_false_iff_ne.mpr fun heq => hc heq.symm
    rw [List.cons_append, Url.splitAt, hne, ih hpart]
    rfl

/-- The path under which it is noted that an application has been opened. -/
def recentPath (key : String) : String := "/api/v1/applications/" ++ key ++ "/recent/"

/-- The path of a workspace. -/
def workspacePath (key : String) : String := "/api/v1/workspaces/" ++ key ++ "/"

theorem toList_recentPath (key : String) :
    (recentPath key).toList = "".toList ++ '/' :: ("api".toList ++ '/' :: ("v1".toList ++
      '/' :: ("applications".toList ++ '/' :: (key.toList ++ '/' :: ("recent".toList ++
        '/' :: []))))) := by
  have hfront : "/api/v1/applications/".toList = "".toList ++ '/' :: ("api".toList ++ '/' ::
      ("v1".toList ++ '/' :: ("applications".toList ++ ['/']))) := by decide
  have hback : "/recent/".toList = '/' :: ("recent".toList ++ ['/']) := by decide
  unfold recentPath
  simp only [String.toList_append, hfront, hback, List.append_assoc, List.cons_append,
    List.nil_append]

theorem toList_workspacePath (key : String) :
    (workspacePath key).toList = "".toList ++ '/' :: ("api".toList ++ '/' :: ("v1".toList ++
      '/' :: ("workspaces".toList ++ '/' :: (key.toList ++ '/' :: [])))) := by
  have hfront : "/api/v1/workspaces/".toList = "".toList ++ '/' :: ("api".toList ++ '/' ::
      ("v1".toList ++ '/' :: ("workspaces".toList ++ ['/']))) := by decide
  have hback : "/".toList = ['/'] := by decide
  unfold workspacePath
  simp only [String.toList_append, hfront, hback, List.append_assoc, List.cons_append,
    List.nil_append]

theorem at?_recentPath {key : String} (hne : key ≠ "") (hslash : '/' ∉ key.toList) :
    Endpoint.at? (recentPath key) = some (.recentApplication key) := by
  unfold Endpoint.at?
  rw [toList_recentPath, splitAt_append (by decide), splitAt_append (by decide),
    splitAt_append (by decide), splitAt_append (by decide), splitAt_append hslash,
    splitAt_append (by decide), Url.splitAt]
  simp [Endpoint.ofSteps, hne]

theorem at?_workspacePath {key : String} (hne : key ≠ "") (hslash : '/' ∉ key.toList) :
    Endpoint.at? (workspacePath key) = some (.workspace key) := by
  unfold Endpoint.at?
  rw [toList_workspacePath, splitAt_append (by decide), splitAt_append (by decide),
    splitAt_append (by decide), splitAt_append (by decide), splitAt_append hslash, Url.splitAt]
  simp [Endpoint.ofSteps, hne]

/-! ### Requests -/

/-- A signed-in user asks for a path by a method, takes the form of the answer, and brings an id
that can be sent back. -/
structure Request.Asks (r : Request) (u : User) (method path : String) : Prop where
  viewer : r.viewer = .user u
  method : r.method.map Char.toUpper = method
  path : (Target.read r.target).path = path
  accepted : negotiate r (Target.read r.target) = none
  id : r.id.toList.any HeaderValue.endsLine = false

theorem Request.reaches_of_at? (hat : Endpoint.at? (Target.read r.target).path = some e)
    (haccepted : negotiate r (Target.read r.target) = none)
    (hobstacle : obstacle? r (r.method.map Char.toUpper) e = none) : r.reaches = some e := by
  unfold reaches
  rw [hat]
  cases e with
  | health => rfl
  | _ => simp [haccepted, hobstacle]

theorem Request.Asks.reaches {u : User} {method path : String} (h : r.Asks u method path)
    (hat : Endpoint.at? path = some e) (hserves : e.serves method = true) : r.reaches = some e :=
  Request.reaches_of_at? (h.path ▸ hat) h.accepted
    ((obstacle?_eq_none_iff h.viewer).mpr (h.method ▸ hserves))

/-! ### Failing views -/

/-- An operation inside a view does what it does alone. -/
theorem exec_attempt (x : Service α) (s : Site) :
    (attempt x).exec s = (.ok ((x.exec s).1.mapError Trouble.failure), (x.exec s).2) := by
  unfold attempt
  rw [exec_bind, exec_tryCatch, exec_bind]
  rcases x.exec s with ⟨f | a, t⟩
  · rfl
  · rfl

/-- A body without torn texts is sent under its status. -/
theorem status_respond (method : String) (status : ℕ) {v : Json} (h : v.IsSendable) :
    (respond method status (some v)).status = status := by
  unfold respond
  dsimp only
  rw [if_pos (show v.everywhere Json.isEncodable = true from h)]

/-- A refusal is answered under its status, and any other failure under that of a fault. -/
theorem exec_respondTo (e : Endpoint) (method : String) (f : Failure) (s : Site) :
    ∃ response t, (respondTo e method (.failure f)).exec s = (.ok response, t) ∧
      response.status = f.status := by
  -- what is told of a refusal can always be sent
  have hrefused (status : ℕ) (code detail : String) :
      (respond method status
        (some (.object [("code", .text code), ("detail", .text detail)]))).status = status :=
    status_respond method status rfl
  unfold respondTo
  cases f with
  | refused refusal =>
    refine ⟨_, _, rfl, ?_⟩
    dsimp only
    split_ifs
    · exact hrefused _ refusal.code refusal.detail
    · exact hrefused _ refusal.code refusal.detail
  | _ => exact ⟨_, _, rfl, rfl⟩

/-- No trouble is answered under the status of a success. -/
theorem exec_respondTo_trouble (e : Endpoint) (method : String) (trouble : Trouble) (s : Site) :
    ∃ response t, (respondTo e method trouble).exec s = (.ok response, t) ∧
      400 ≤ response.status := by
  have hrespond (status : ℕ) (body : Json) (h : 400 ≤ status) :
      400 ≤ (respond method status (some body)).status := by
    by_cases hbody : body.IsSendable
    · rwa [status_respond method status hbody]
    · unfold respond
      dsimp only
      rw [if_neg (show ¬ body.everywhere Json.isEncodable = true from hbody)]
      exact (by decide : 400 ≤ 500)
  cases trouble with
  | failure f =>
    obtain ⟨response, t, hresponse, hstatus⟩ := exec_respondTo e method f s
    exact ⟨response, t, hresponse, hstatus ▸ f.status_ge⟩
  | problem p =>
    have hkind : 400 ≤ p.kind.status := by cases p.kind <;> decide
    refine ⟨_, _, rfl, ?_⟩
    dsimp only
    split_ifs
    · exact hrespond _ p.body hkind
    · exact hrespond _ p.body hkind

/-- A request whose view is in trouble is served the response to the trouble. -/
theorem exec_serveTarget_trouble (h : r.reaches = some e) (he : e ≠ .health) {trouble : Trouble}
    (hview : (view r e).exec s = (.ok (.error trouble), t)) {response : Response} {t' : Site}
    (hresponse : (respondTo e (r.method.map Char.toUpper) trouble).exec t = (.ok response, t')) :
    (serveTarget r (Target.read r.target)).exec s =
      (.ok { response, sender := Sender.ofViewer r.viewer }, t') := by
  rw [serveTarget_of_reaches h he, exec_bind_ok hview]
  exact exec_bind_ok hresponse _

/-- The response to a request whose view fails. -/
theorem exec_serveTarget_failure (h : r.reaches = some e) (he : e ≠ .health) {f : Failure}
    (hview : (view r e).exec s = (.ok (.error (.failure f)), t)) :
    ∃ served t', (serveTarget r (Target.read r.target)).exec s = (.ok served, t') ∧
      served.response.status = f.status := by
  obtain ⟨response, t', hresponse, hstatus⟩ := exec_respondTo e (r.method.map Char.toUpper) f t
  exact ⟨_, t', exec_serveTarget_trouble h he hview hresponse, hstatus⟩

/-- The site on which the view of a request is asked. -/
def Request.within (r : Request) (site : Site) : Site := { site with context := r.context }

@[simp]
theorem Request.within_store (r : Request) (site : Site) : (r.within site).store = site.store := rfl

/-- What a response of a view is answered under. -/
def answeredUnder (r : Request) : Except Failure (ℕ × Option Json) → ℕ
  | .ok (status, body) => (respond (r.method.map Char.toUpper) status body).status
  | .error f => f.status

/-- **A request whose view does an operation** is answered under the status of its outcome, and
leaves the store as the operation leaves it. -/
theorem serve_attempt {x : Service (ℕ × Option Json)} (h : r.reaches = some e) (he : e ≠ .health)
    (hview : view r e = attempt x) (hid : r.id.toList.any HeaderValue.endsLine = false) (s : Site) :
    (∃ response, ((serve r).exec s).1 = .ok response ∧
        response.status = answeredUnder r (x.exec (r.within s)).1) ∧
      ((serve r).exec s).2.store = (x.exec (r.within s)).2.store := by
  obtain ⟨id, hid⟩ := sent_ok hid
  have hrun : (view r e).exec (r.within s) = _ := hview ▸ exec_attempt x (r.within s)
  constructor
  · rcases hx : x.exec (r.within s) with ⟨f | ⟨status, body⟩, t⟩
    · rw [hx] at hrun
      obtain ⟨served, t', htarget, hstatus⟩ := exec_serveTarget_failure h he hrun
      exact ⟨_, outcome_serve_of_served h hid htarget, hstatus⟩
    · rw [hx] at hrun
      exact ⟨_, outcome_serve h hid hrun, rfl⟩
  · exact (store_serve h s).trans (congrArg (·.2.store) hrun)

/-- **A request whose view is in trouble** is answered under the status of an error. -/
theorem serve_trouble (h : r.reaches = some e) (he : e ≠ .health)
    (hid : r.id.toList.any HeaderValue.endsLine = false) {s : Site} {trouble : Trouble}
    (hview : (view r e).exec (r.within s) = (.ok (.error trouble), t)) :
    ∃ response, ((serve r).exec s).1 = .ok response ∧ 400 ≤ response.status := by
  obtain ⟨id, hid⟩ := sent_ok hid
  obtain ⟨response, t', hresponse, hstatus⟩ :=
    exec_respondTo_trouble e (r.method.map Char.toUpper) trouble t
  exact ⟨_, outcome_serve_of_served h hid (exec_serveTarget_trouble h he hview hresponse), hstatus⟩

end Http

end WorkspaceHome
