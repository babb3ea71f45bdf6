import WorkspaceHome.Proofs.Http.Answer

/-!
# Requests of nobody who is signed in

All that the service does it does for users only, but for telling its health (`Guarded`). A caller
who is not signed in is told so, and nothing else: the response is one and the same, whatever is
stored, named or sent, and all that the request leaves behind is two entries in the log
(`anonymous_refused`). Only the header `Authorization` makes a difference: credentials in it that
sign nobody in are refused as such, under another status (`visitor_forbidden`).
-/

namespace WorkspaceHome.Http

open Service

variable {r : Request} {e : Endpoint} {method path : String}

/-! ### Guarded requests -/

/-- The methods and paths that are served to users only. -/
inductive Guarded : String → String → Prop where
  | homepage : Guarded "GET" "/api/v1/applications/home/"
  | recentApplication {key : String} (hne : key ≠ "") (hslash : '/' ∉ key.toList) :
    Guarded "POST" (recentPath key)
  | workspaces : Guarded "POST" "/api/v1/workspaces/"
  | workspace {key : String} (hne : key ≠ "") (hslash : '/' ∉ key.toList) :
    Guarded "GET" (workspacePath key)

/-- A guarded request is for an endpoint, and not for the health of the service. -/
theorem Guarded.endpoint (h : Guarded method path) :
    ∃ e, Endpoint.at? path = some e ∧ e ≠ .health ∧ e.serves method = true := by
  cases h with
  | homepage => exact ⟨.homepage, by decide +kernel, nofun, rfl⟩
  | recentApplication hne hslash => exact ⟨_, at?_recentPath hne hslash, nofun, rfl⟩
  | workspaces => exact ⟨.workspaces, by decide +kernel, nofun, rfl⟩
  | workspace hne hslash => exact ⟨_, at?_workspacePath hne hslash, nofun, rfl⟩

/-- Somebody who is not signed in asks for a path by a method, takes the form of the answer, and
brings an id that can be sent back. Other headers may be anything. -/
structure Request.AsksAnonymously (r : Request) (method path : String) : Prop where
  viewer : ∀ u, r.viewer ≠ .user u
  method : r.method.map Char.toUpper = method
  path : (Target.read r.target).path = path
  accepted : negotiate r (Target.read r.target) = none
  id : r.id.toList.any HeaderValue.endsLine = false

/-! ### Views -/

theorem Viewer.signedIn_of_no_user {viewer : Viewer} (h : ∀ u, viewer ≠ .user u) :
    viewer.signedIn = .error .notSignedIn := by
  cases viewer with
  | user u => exact absurd rfl (h u)
  | nobody => rfl
  | anonymous => rfl

/-- **A view asks for a user before anything else.** -/
theorem exec_view_of_no_user (h : ∀ u, r.viewer ≠ .user u) (he : e ≠ .health) (s : Site) :
    (view r e).exec s = (.ok (.error (.failure .notSignedIn)), s) := by
  have hsigned := Viewer.signedIn_of_no_user h
  cases e with
  | health => exact absurd rfl he
  | homepage =>
    show (attempt _).exec s = _
    rw [exec_attempt, exec_bind, Homepage.exec_build_of_no_user h]
    rfl
  | recentApplication key =>
    show (attempt _).exec s = _
    rw [exec_attempt, hsigned]
    rfl
  | workspaces =>
    show (createWorkspaceView r).exec s = _
    unfold createWorkspaceView
    rw [hsigned]
    rfl
  | workspace key =>
    show (attempt _).exec s = _
    rw [exec_attempt, hsigned]
    rfl

/-! ### Credentials -/

/-- Credentials in a header are refused as such, but for one that is not made of bytes. -/
theorem troubleOfCredentials_eq_some {value : String} {trouble : Trouble}
    (h : troubleOfCredentials value = some trouble) :
    (value.toList.any (0xFF < ·.toNat) = true ∧ trouble = .failure .unsendable) ∨
      ∃ detail, trouble = .problem (.saying .credentialsRefused detail) := by
  unfold troubleOfCredentials at h
  split_ifs at h with hbytes
  · exact Or.inl ⟨hbytes, (Option.some.inj h).symm⟩
  · cases hwords : headerWords value with
    | nil =>
      rw [hwords] at h
      cases h
    | cons scheme words =>
      rw [hwords] at h
      dsimp only at h
      split_ifs at h
      exact Or.inr ⟨_, (Option.some.inj h).symm⟩

/-- Words behind the scheme are refused for what is wrong with them. -/
theorem troubleOfCredentials_of_words (value : String) (scheme : List Char)
    (words : List (List Char)) (hbytes : value.toList.any (0xFF < ·.toNat) = false)
    (hwords : headerWords value = scheme :: words)
    (hscheme : String.ofList (scheme.map Char.toLower) = "basic") :
    troubleOfCredentials value =
      some (.problem (.saying .credentialsRefused (faultOfCredentials words))) := by
  unfold troubleOfCredentials
  rw [hbytes, if_neg Bool.false_ne_true, hwords]
  dsimp only
  rw [if_pos (beq_iff_eq.mpr hscheme)]

/-- A caller who is not signed in is refused for the header that may bring credentials. -/
theorem Request.refusal?_of_no_user (h : ∀ u, r.viewer ≠ .user u) :
    r.refusal? = (r.header? "Authorization").bind troubleOfCredentials := by
  unfold refusal?
  cases hviewer : r.viewer with
  | user u => exact absurd hviewer (h u)
  | nobody => rfl
  | anonymous => rfl

/-! ### The refusal -/

/-- What a caller is told who is not signed in and brings no credentials. -/
def signInFirst : Response :=
  { status := 401
    body := some (.object [("code", .text "user_not_signed_in"),
      ("detail", .text "You must be signed in to perform this action.")]) }

/-- What a caller is told who is not signed in: that the credentials are wrong which the header
`Authorization` brings, and to sign in if it brings none. -/
def turnedAway (authorization : Option String) : Response :=
  match authorization.bind troubleOfCredentials with
  | none => signInFirst
  | some (.problem p) => { status := p.kind.status, body := p.body }
  | some (.failure f) => failed f

/-- What is noted of this. -/
def turnedAwayEvent (authorization : Option String) (e : Endpoint) : Event :=
  match authorization.bind troubleOfCredentials with
  | none => .requestRefused (.of .notSignedIn "" "") (some e.label)
  | some (.problem p) => .requestInvalid p.body p.kind.status
  | some (.failure f) => .requestFailed f.label

/-- What is noted of a request that is turned away. -/
def turnedAwayEntries (r : Request) (e : Endpoint) : List LogEntry :=
  [⟨turnedAwayEvent (r.header? "Authorization") e, r.context⟩,
    ⟨.requestServed (r.method.map Char.toUpper) ((Target.read r.target).write false)
      (turnedAway (r.header? "Authorization")).status none, r.context⟩]

theorem respond_of_isSendable {method : String} (hmethod : method ≠ "HEAD") (status : ℕ) {v : Json}
    (h : v.IsSendable) : respond method status (some v) = { status, body := some v } := by
  unfold respond
  dsimp only
  rw [if_pos (show v.everywhere Json.isEncodable = true from h), if_neg (by simpa using hmethod)]

/-- The trouble for which a caller is turned away is answered by the header alone. -/
theorem exec_respondTo_turnedAway (authorization : Option String) (e : Endpoint) {method : String}
    (hmethod : method ≠ "HEAD") (s : Site) :
    (respondTo e method ((authorization.bind troubleOfCredentials).getD
        (.failure .notSignedIn))).exec s =
      (.ok (turnedAway authorization), s.noting [turnedAwayEvent authorization e]) := by
  unfold turnedAway turnedAwayEvent
  cases htrouble : authorization.bind troubleOfCredentials with
  | none =>
    have hrespond := respond_of_isSendable hmethod 401
      (show (Json.object [("code", .text "user_not_signed_in"),
        ("detail", .text "You must be signed in to perform this action.")]).IsSendable from rfl)
    exact congrArg (fun response => (Except.ok response, _)) hrespond
  | some trouble =>
    obtain ⟨value, -, hvalue⟩ := Option.bind_eq_some_iff.mp htrouble
    rcases troubleOfCredentials_eq_some hvalue with ⟨-, rfl⟩ | ⟨detail, rfl⟩
    · rfl
    · have hrespond := respond_of_isSendable hmethod 403
        (show (Json.object [("detail", .text detail)]).IsSendable from rfl)
      exact congrArg (fun response => (Except.ok response, _)) hrespond

/-- **Whoever is not signed in is turned away**, from whatever endpoint, and nothing is left behind
but two entries in the log. -/
theorem exec_serve_of_no_user (hat : Endpoint.at? (Target.read r.target).path = some e)
    (he : e ≠ .health) (haccepted : negotiate r (Target.read r.target) = none)
    (hserves : e.serves (r.method.map Char.toUpper) = true) (hviewer : ∀ u, r.viewer ≠ .user u)
    (hmethod : r.method.map Char.toUpper ≠ "HEAD") {id : String}
    (hid : HeaderValue.sent r.id = .ok id) (s : Site) :
    (serve r).exec s =
      (.ok { turnedAway (r.header? "Authorization") with requestId := some id },
        { s with log := s.log ++ turnedAwayEntries r e, context := [] }) := by
  have hrefusal := Request.refusal?_of_no_user hviewer
  have hview := exec_view_of_no_user hviewer he { s with context := r.context }
  have hrespond := exec_respondTo_turnedAway (r.header? "Authorization") e hmethod
    { s with context := r.context }
  -- the credentials are looked at before the view, which asks for a user
  have htarget : (serveTarget r (Target.read r.target)).exec { s with context := r.context } =
      (.ok
        { response := turnedAway (r.header? "Authorization")
          sender := Sender.ofViewer r.viewer },
        Site.noting { s with context := r.context }
          [turnedAwayEvent (r.header? "Authorization") e]) := by
    rw [serveTarget_of_accepted he hat haccepted, obstacle?, hrefusal]
    cases htrouble : (r.header? "Authorization").bind troubleOfCredentials with
    | some trouble =>
      rw [htrouble] at hrespond
      exact exec_bind_ok hrespond _
    | none =>
      rw [htrouble] at hrespond
      rw [hserves]
      exact (exec_bind_ok hview _).trans (exec_bind_ok hrespond _)
  have hsender : (Sender.ofViewer r.viewer).id? = none := by
    cases hr : r.viewer with
    | user u => exact absurd hr (hviewer u)
    | nobody => rfl
    | anonymous => rfl
  rw [exec_serve_of_served hat hid htarget]
  unfold Request.entry turnedAwayEntries Site.noting
  rw [hsender]
  simp

/-- A guarded request of somebody who is not signed in is turned away. -/
theorem exec_serve_of_asksAnonymously (hguarded : Guarded method path)
    (h : r.AsksAnonymously method path) :
    ∃ id entries, HeaderValue.sent r.id = .ok id ∧ ∀ s : Site,
      (serve r).exec s =
        (.ok { turnedAway (r.header? "Authorization") with requestId := some id },
          { s with log := s.log ++ entries, context := [] }) := by
  obtain ⟨id, hid⟩ := sent_ok h.id
  obtain ⟨e, hat, he, hserves⟩ := hguarded.endpoint
  have hmethod : r.method.map Char.toUpper ≠ "HEAD" := by
    rw [h.method]
    cases hguarded <;> decide
  exact ⟨id, turnedAwayEntries r e, hid, exec_serve_of_no_user (h.path ▸ hat) he h.accepted
    (h.method ▸ hserves) h.viewer hmethod hid⟩

/-- **Nobody who is not signed in gets or changes anything.** The response to a guarded request and
the entries of the log that it leaves are the same on every site, and nothing else changes: neither
what is stored nor what is cached, and the feed is not asked. The response does not depend on
anything that is sent but the id of the request and the header `Authorization`. A caller who brings
no credentials of the scheme `Basic` in this header is told to sign in; one who does is told what is
wrong with them, or that the service has failed if the header is not made of bytes. -/
theorem anonymous_refused (hguarded : Guarded method path) (h : r.AsksAnonymously method path) :
    let authorization := r.header? "Authorization"
    (∃ id entries, HeaderValue.sent r.id = .ok id ∧ ∀ s : Site,
      (serve r).exec s =
        (.ok { turnedAway authorization with requestId := some id },
          { s with log := s.log ++ entries, context := [] })) ∧
      (authorization.bind troubleOfCredentials = none → turnedAway authorization =
        { status := 401
          body := some (.object [("code", .text "user_not_signed_in"),
            ("detail", .text "You must be signed in to perform this action.")]) }) ∧
      (authorization.bind troubleOfCredentials ≠ none →
        (∃ detail, turnedAway authorization =
          { status := 403, body := some (.object [("detail", .text detail)]) }) ∨
        (∃ value ∈ authorization, value.toList.any (0xFF < ·.toNat) = true) ∧
          turnedAway authorization = failed .unsendable) := by
  -- nobody can be signed in here, so all that is left is what the credentials come to
  intro authorization
  refine ⟨exec_serve_of_asksAnonymously hguarded h, fun hnone => ?_, fun hsome => ?_⟩
  · unfold turnedAway
    rw [hnone]
    rfl
  · obtain ⟨trouble, htrouble⟩ := Option.ne_none_iff_exists'.mp hsome
    obtain ⟨value, hvalue, hof⟩ := Option.bind_eq_some_iff.mp htrouble
    unfold turnedAway
    rw [htrouble]
    rcases troubleOfCredentials_eq_some hof with ⟨hbytes, rfl⟩ | ⟨detail, rfl⟩
    · exact Or.inr ⟨⟨value, hvalue, hbytes⟩, rfl⟩
    · exact Or.inl ⟨detail, rfl⟩

/-- A visitor who sends a body that ends too early, with or without credentials. -/
def sampleVisit (headers : List (String × String)) : Request :=
  { method := "post", target := "/api/v1/workspaces/", headers, body := [0x7B] }

theorem anonymous_refused_sample :
    (∃ id entries, ∀ s : Site, (serve (sampleVisit [])).exec s =
      (.ok
        { status := 401
          body := some (.object [("code", .text "user_not_signed_in"),
            ("detail", .text "You must be signed in to perform this action.")])
          requestId := some id },
        { s with log := s.log ++ entries, context := [] })) ∧
      ∃ id entries detail, ∀ s : Site,
        (serve (sampleVisit [("Authorization", "basic OnNlY3JldA==")])).exec s =
          (.ok
            { status := 403
              body := some (.object [("detail", .text detail)])
              requestId := some id },
            { s with log := s.log ++ entries, context := [] }) := by
  have hasks (headers : List (String × String))
      (haccepted : (negotiate (sampleVisit headers)
        (Target.read (sampleVisit headers).target)).isNone = true)
      (hid : (sampleVisit headers).id.toList.any HeaderValue.endsLine = false) :
      (sampleVisit headers).AsksAnonymously "POST" "/api/v1/workspaces/" :=
    ⟨nofun, (by decide +kernel : String.map Char.toUpper "post" = "POST"),
      (by decide +kernel : (Target.read "/api/v1/workspaces/").path = "/api/v1/workspaces/"),
      Option.isNone_iff_eq_none.mp haccepted, hid⟩
  constructor
  · obtain ⟨⟨id, entries, -, hserve⟩, htold, -⟩ := anonymous_refused .workspaces
      (hasks [] (by decide +kernel) (by decide +kernel))
    rw [htold rfl] at hserve
    exact ⟨id, entries, hserve⟩
  -- these credentials have the right form, but the name in them is empty
  · obtain ⟨⟨id, entries, -, hserve⟩, -, htold⟩ := anonymous_refused .workspaces
      (hasks [("Authorization", "basic OnNlY3JldA==")] (by decide +kernel) (by decide +kernel))
    have hheader : (sampleVisit [("Authorization", "basic OnNlY3JldA==")]).header?
        "Authorization" = some "basic OnNlY3JldA==" := by decide +kernel
    have htrouble := troubleOfCredentials_of_words "basic OnNlY3JldA==" "basic".toList
      ["OnNlY3JldA==".toList] (by decide +kernel) (by decide +kernel) (by decide +kernel)
    rw [hheader, Option.bind_some, htrouble] at htold
    rw [hheader] at hserve
    rcases htold nofun with ⟨detail, hrefused⟩ | ⟨⟨value, hvalue, hbytes⟩, -⟩
    · rw [hrefused] at hserve
      exact ⟨id, entries, detail, hserve⟩
    · obtain rfl : "basic OnNlY3JldA==" = value := Option.some.inj hvalue
      exact absurd hbytes (by decide +kernel)

/-- **Not everybody is told to sign in** who is not signed in: a visitor who brings the scheme of
credentials, but none, is told so, on every site. -/
theorem visitor_forbidden :
    let r : Request :=
      { target := "/api/v1/applications/home/", headers := [("Authorization", "Basic")] }
    r.AsksAnonymously "GET" "/api/v1/applications/home/" ∧
      ∀ s : Site, ∃ response, ((serve r).exec s).1 = .ok response ∧ response.status = 403 ∧
        response.body = some
          (.object [("detail", .text "Invalid basic header. No credentials provided.")]) := by
  intro r
  have hasks : r.AsksAnonymously "GET" "/api/v1/applications/home/" :=
    ⟨nofun, by decide +kernel, by decide +kernel, Option.isNone_iff_eq_none.mp (by decide +kernel),
      by decide +kernel⟩
  have hheader : r.header? "Authorization" = some "Basic" := by decide +kernel
  have htrouble := troubleOfCredentials_of_words "Basic" "Basic".toList [] (by decide +kernel)
    (by decide +kernel) (by decide +kernel)
  obtain ⟨id, entries, -, hserve⟩ := exec_serve_of_asksAnonymously .homepage hasks
  rw [hheader, turnedAway, Option.bind_some, htrouble] at hserve
  exact ⟨hasks, fun s => ⟨_, congrArg Prod.fst (hserve s), rfl, rfl⟩⟩

end WorkspaceHome.Http
