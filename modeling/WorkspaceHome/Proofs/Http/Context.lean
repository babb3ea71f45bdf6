import WorkspaceHome.Proofs.Frame.Writing
import WorkspaceHome.Proofs.Http.Serve

/-!
# What is bound while requests are served

A request is contained (`Passage.IsContained`) if its view is entered with the id of the request
bound and nothing else, if all that is noted in the meantime carries this id, and if in the end
nothing is bound, whether the view has given a response or has failed. In every run of requests,
whatever was bound before it, each request is contained, and the log of the run consists of what is
noted of the requests, one after another (`contexts_contained`).

The views are scripts, which emit events, look at the site, change it, and give a response or fail.
The views of the service itself emit in the same way, so that every request that the service answers
is contained as well (`serve_contained`).
-/

namespace WorkspaceHome

open Service

/-! ### Emitting -/

/-- Events as they are noted in a context. -/
def LogEntry.allIn (context : Context) (events : List Event) : List LogEntry :=
  events.map fun e => ⟨e, context⟩

@[simp] theorem LogEntry.allIn_nil (context : Context) : allIn context [] = [] := rfl

theorem LogEntry.allIn_append (context : Context) (events events' : List Event) :
    allIn context (events ++ events') = allIn context events ++ allIn context events' :=
  List.map_append

/-- Nothing else is bound afterwards, and all that has been noted carries what is bound. -/
def emitting : Frame where
  rel s t := t.context = s.context ∧ ∃ events, t.log = s.log ++ LogEntry.allIn s.context events
  refl := fun s => ⟨rfl, [], by simp⟩
  trans := by
    rintro s t u ⟨hcontext, events, hlog⟩ ⟨hcontext', events', hlog'⟩
    refine ⟨hcontext'.trans hcontext, events ++ events', ?_⟩
    rw [hlog', hlog, hcontext, List.append_assoc, LogEntry.allIn_append]

/-- What leaves the log and what is bound alone emits nothing. -/
theorem emitting_of_log_eq {s t : Site} (hcontext : t.context = s.context) (hlog : t.log = s.log) :
    emitting.rel s t :=
  ⟨hcontext, [], by simp [hlog]⟩

theorem emitting_noting (s : Site) (e : Event) : emitting.rel s (s.noting [e]) := ⟨rfl, [e], rfl⟩

/-- The service notes all that it does in the context that is bound. -/
theorem emitting_upheld : emitting.Upheld := by
  have hwritable : emitting.Writable :=
    Frame.Writable.of_store (fun _ _ => emitting_of_log_eq rfl rfl) emitting_noting
  exact hwritable.upheld
    { entry := fun s e _ => emitting_noting s e
      cache := fun _ _ => emitting_of_log_eq rfl rfl
      requests := fun _ _ => emitting_of_log_eq rfl rfl }

namespace Http

/-! ### Printable ids -/

/-- A text of printable ASCII characters. -/
def HeaderValue.IsPrintable (value : String) : Prop :=
  ∀ c ∈ value.toList, 0x20 ≤ c.toNat ∧ c.toNat < 0x7F

instance : DecidablePred HeaderValue.IsPrintable := fun value =>
  List.decidableBAll (fun c : Char => 0x20 ≤ c.toNat ∧ c.toNat < 0x7F) value.toList

/-- A printable text is sent as it is. -/
theorem HeaderValue.IsPrintable.sent {value : String} (h : IsPrintable value) :
    HeaderValue.sent value = .ok value := by
  have hline : value.toList.any endsLine = false := by
    rw [List.any_eq_false]
    intro c hc hends
    obtain ⟨hlow, -⟩ := h c hc
    unfold endsLine at hends
    rcases Bool.or_eq_true_iff.mp hends with hends | hends
    · rw [beq_iff_eq.mp hends] at hlow
      exact absurd hlow (by decide)
    · rw [beq_iff_eq.mp hends] at hlow
      exact absurd hlow (by decide)
  have hlatin : value.toList.all isLatin1 = true := by
    rw [List.all_eq_true]
    intro c hc
    obtain ⟨-, hhigh⟩ := h c hc
    exact decide_eq_true (hhigh.trans (by decide))
  unfold HeaderValue.sent
  simp [hline, hlatin]

/-! ### Scripts -/

/-- What a view does, step by step. -/
inductive Script where
  | answer (served : Served)
  | fail (failure : Failure)
  | emit (event : Event) (rest : Script)
  | look (rest : Site → Script)
  | change (f : Site → Site) (rest : Script)

namespace Script

/-- A change of a site that touches neither the log nor what is bound. -/
def changed (f : Site → Site) (s : Site) : Site := { f s with log := s.log, context := s.context }

/-- The view that follows a script. -/
def view : Script → Service Served
  | answer served => pure served
  | fail failure => throw failure
  | emit event rest => do
    log event
    rest.view
  | look rest => do (rest (← get)).view
  | change f rest => do
    modify (changed f)
    rest.view

/-- The events that the view emits on a site. -/
def emitted : Script → Site → List Event
  | answer _, _ | fail _, _ => []
  | emit event rest, s => event :: rest.emitted (s.noting [event])
  | look rest, s => (rest s).emitted s
  | change f rest, s => rest.emitted (changed f s)

/-- **A view notes its events in the context in which it is entered**, and leaves this context. -/
theorem exec_view (script : Script) (s : Site) :
    (script.view.exec s).2.context = s.context ∧
      (script.view.exec s).2.log = s.log ++ LogEntry.allIn s.context (script.emitted s) := by
  -- by the steps of the script, each of which leads to another site
  induction script generalizing s with
  | answer served => exact ⟨rfl, (List.append_nil _).symm⟩
  | fail failure => exact ⟨rfl, (List.append_nil _).symm⟩
  | emit event rest ih =>
    obtain ⟨hcontext, hlog⟩ := ih (s.noting [event])
    rw [view, exec_log_bind, emitted]
    refine ⟨hcontext, hlog.trans ?_⟩
    simp [Site.noting, LogEntry.allIn]
  | look rest ih =>
    rw [view, exec_get_bind, emitted]
    exact ih s s
  | change f rest ih =>
    rw [view, exec_modify_bind, emitted]
    exact ih (changed f s)

end Script

/-! ### Passages -/

/-- A request on its way to a view, with the id that is made up for it in case it brings none. -/
structure Passage where
  request : Request
  made : String
  script : Script

namespace Passage

/-- The path of the request as it is noted. -/
def path (p : Passage) : String := (Target.read p.request.target).write false

/-- The id of the request. -/
def id (p : Passage) : String := p.request.idOr p.made

/-- Serves the request by its view. -/
def serve (p : Passage) : Service Response :=
  observedUnder p.id p.request p.path p.script.view

/-- The site on which the view is entered. -/
def entered (p : Passage) (s : Site) : Site := { s with context := boundTo p.id }

/-- What the view comes to. -/
def outcome (p : Passage) (s : Site) : Except Failure Served := (p.script.view.exec (p.entered s)).1

/-- The events that the view emits. -/
def emitted (p : Passage) (s : Site) : List Event := p.script.emitted (p.entered s)

/-- The events of the view, and the one that tells how the request was served if it was. -/
def events (p : Passage) (s : Site) : List Event :=
  match p.outcome s with
  | .ok served => p.emitted s ++ [p.request.entry p.path served]
  | .error _ => p.emitted s

/-- The entries of the log that are made in the passage. -/
def entries (p : Passage) (s : Site) : List LogEntry := LogEntry.allIn (boundTo p.id) (p.events s)

/-- The request brings no id of its own. -/
def IsUnnamed (p : Passage) : Prop :=
  p.request.header? requestIdHeader = none ∨ p.request.header? requestIdHeader = some ""

/-- The id that the request brings, if any, and the one made up for it are printable. -/
structure IsPrintable (p : Passage) : Prop where
  own : ∀ own, p.request.header? requestIdHeader = some own → HeaderValue.IsPrintable own
  made : HeaderValue.IsPrintable p.made

/-- What happens in a passage stays in it. The id is the one that the request brings, or else the
one made up for it. The view is entered with this id bound and nothing else, so that this is what it
sees if it looks. If it gives a response, this is the response, with the id, and the log has grown
by the events of the view and by one that tells of the response and of the user who is signed in, if
any, all of them with the id. If the view fails, its failure is passed on, and the log has grown by
its events alone. In the end nothing is bound. -/
structure IsContained (p : Passage) (s : Site) : Prop where
  own : ∀ own, p.request.header? requestIdHeader = some own → own ≠ "" → p.id = own
  made : p.IsUnnamed → p.id = p.made
  entered : ∀ rest, p.script = .look rest →
    p.serve.exec s =
      { p with script := rest { s with context := [("request_id", .text p.id)] } }.serve.exec s
  answered : ∀ served, p.outcome s = .ok served →
    (p.serve.exec s).1 = .ok { served.response with requestId := some p.id } ∧
      (p.serve.exec s).2.log = s.log ++ LogEntry.allIn [("request_id", .text p.id)]
        (p.emitted s ++ [.requestServed (p.request.method.map Char.toUpper) p.path
          served.response.status served.sender.id?])
  failed : ∀ e, p.outcome s = .error e →
    (p.serve.exec s).1 = .error e ∧
      (p.serve.exec s).2.log =
        s.log ++ LogEntry.allIn [("request_id", .text p.id)] (p.emitted s)
  left : (p.serve.exec s).2.context = []

theorem id_of_own {p : Passage} {own : String}
    (h : p.request.header? requestIdHeader = some own) (hne : own ≠ "") : p.id = own := by
  unfold id Request.idOr
  rw [h]
  exact if_neg hne

theorem id_of_unnamed {p : Passage} (h : p.IsUnnamed) : p.id = p.made := by
  unfold id Request.idOr
  rcases h with h | h
  · rw [h]
  · rw [h]
    exact if_pos rfl

theorem IsPrintable.id {p : Passage} (h : p.IsPrintable) : HeaderValue.IsPrintable p.id := by
  cases hown : p.request.header? requestIdHeader with
  | none => exact id_of_unnamed (Or.inl hown) ▸ h.made
  | some own =>
    by_cases hne : own = ""
    · exact id_of_unnamed (Or.inr (hne ▸ hown)) ▸ h.made
    · exact id_of_own hown hne ▸ h.own own hown

/-- A view that looks at the site when it is entered sees the id bound and nothing else. -/
theorem exec_serve_look {p : Passage} {rest : Site → Script} (h : p.script = .look rest)
    (s : Site) :
    p.serve.exec s =
      { p with
        script := rest { s with context := [("request_id", .text p.id)] } }.serve.exec s := by
  have hlook : p.script.view.exec (p.entered s) = (rest (p.entered s)).view.exec (p.entered s) := by
    rw [h, Script.view, exec_get_bind]
  have hserve : p.serve.exec s = _ := exec_observedUnder p.id p.request p.path p.script.view s
  rw [show ({ s with context := boundTo p.id } : Site) = p.entered s from rfl, hlook] at hserve
  exact hserve.trans (exec_observedUnder p.id p.request p.path (rest (p.entered s)).view s).symm

/-- **One passage is contained**, whatever is bound before it and whatever its view does. -/
theorem isContained {p : Passage} (h : p.IsPrintable) (s : Site) : p.IsContained s := by
  obtain ⟨hcontext, hlog⟩ := p.script.exec_view (p.entered s)
  have hserve : p.serve.exec s = _ := exec_observedUnder p.id p.request p.path p.script.view s
  rw [show ({ s with context := boundTo p.id } : Site) = p.entered s from rfl, h.id.sent] at hserve
  have houtcome : p.outcome s = (p.script.view.exec (p.entered s)).1 := rfl
  -- the view gives something or fails, and only then an entry for the request is made
  rcases hview : p.script.view.exec (p.entered s) with ⟨e | served, t⟩ <;>
    rw [hview] at hserve hcontext hlog houtcome
  · refine ⟨fun _ => id_of_own, id_of_unnamed, fun _ h => exec_serve_look h s, ?_, ?_,
      congrArg (·.2.context) hserve⟩
    · intro served hserved
      cases houtcome.symm.trans hserved
    · intro e' he
      obtain rfl : e = e' := Except.error.inj (houtcome.symm.trans he)
      exact ⟨congrArg Prod.fst hserve, (congrArg (·.2.log) hserve).trans hlog⟩
  · refine ⟨fun _ => id_of_own, id_of_unnamed, fun _ h => exec_serve_look h s, ?_, ?_,
      congrArg (·.2.context) hserve⟩
    · intro served' hserved
      obtain rfl : served = served' := Except.ok.inj (houtcome.symm.trans hserved)
      refine ⟨congrArg Prod.fst hserve, (congrArg (·.2.log) hserve).trans ?_⟩
      -- the last entry is made when the view is over, in the context that it has left
      show t.log ++ LogEntry.allIn t.context [p.request.entry p.path served] = _
      rw [hlog, hcontext, List.append_assoc, ← LogEntry.allIn_append]
      rfl
    · intro e he
      cases houtcome.symm.trans he

/-- A passage adds its entries to the log. -/
theorem IsContained.log_eq {p : Passage} {s : Site} (h : p.IsContained s) :
    (p.serve.exec s).2.log = s.log ++ p.entries s := by
  unfold entries events
  cases houtcome : p.outcome s with
  | ok served => exact (h.answered served houtcome).2
  | error e => exact (h.failed e houtcome).2

/-! ### Runs -/

/-- The passages of a run, each with the site on which it begins. -/
def trace : List Passage → Site → List (Passage × Site)
  | [], _ => []
  | p :: rest, s => (p, s) :: trace rest (p.serve.exec s).2

/-- The site after passages, one after another. -/
def serveAll (ps : List Passage) (s : Site) : Site := ps.foldl (fun s p => (p.serve.exec s).2) s

theorem log_serveAll {ps : List Passage} (h : ∀ p ∈ ps, p.IsPrintable) (s : Site) :
    (serveAll ps s).log = s.log ++ (trace ps s).flatMap fun (p, s) => p.entries s := by
  induction ps generalizing s with
  | nil => exact (List.append_nil _).symm
  | cons p rest ih =>
    obtain ⟨hp, hrest⟩ := List.forall_mem_cons.mp h
    rw [trace, List.flatMap_cons, ← List.append_assoc, ← (isContained hp s).log_eq]
    exact ih hrest _

theorem isContained_of_mem_trace {ps : List Passage} (h : ∀ p ∈ ps, p.IsPrintable) {s : Site}
    {step : Passage × Site} (hstep : step ∈ trace ps s) : step.1.IsContained step.2 := by
  induction ps generalizing s with
  | nil => cases hstep
  | cons p rest ih =>
    obtain ⟨hp, hrest⟩ := List.forall_mem_cons.mp h
    rcases List.mem_cons.mp hstep with rfl | hstep
    · exact isContained hp s
    · exact ih hrest hstep

/-- **Nothing leaks from a request to another one.** In every run of requests, whatever was bound
before it, each request is contained; the log of the run consists of the entries of the requests,
one after another; and if no two of the ids that are made up are the same, no two requests without
an id of their own are served under the same one. -/
theorem contexts_contained (ps : List Passage) (site : Site) (h : ∀ p ∈ ps, p.IsPrintable) :
    (∀ step ∈ trace ps site, step.1.IsContained step.2) ∧
      (serveAll ps site).log =
        site.log ++ (trace ps site).flatMap (fun (p, s) => p.entries s) ∧
      ((ps.map (·.made)).Nodup →
        ps.Pairwise fun p q => p.IsUnnamed → q.IsUnnamed → p.id ≠ q.id) := by
  refine ⟨fun step hstep => isContained_of_mem_trace h hstep, log_serveAll h site, ?_⟩
  intro hdistinct
  refine (List.pairwise_map.mp hdistinct).imp fun hmade hp hq => ?_
  rwa [id_of_unnamed hp, id_of_unnamed hq]

/-- A request that brings its id and is answered, and one that brings none and whose view fails. -/
def samples : List Passage :=
  [{  request := { headers := [("X-Request-ID", "req-1")] }
      made := "made-1"
      script := .emit .viewEntered (.answer { response := { status := 200 }, sender := .user 7 }) },
    { request := {}
      made := "made-2"
      script := .emit .viewEntered (.fail .unsendable) }]

theorem isPrintable_of_mem_samples : ∀ p ∈ samples, p.IsPrintable := by
  refine List.forall_mem_cons.mpr ⟨⟨?_, by decide⟩, List.forall_mem_singleton.mpr ⟨?_, by decide⟩⟩
  · intro own hown
    cases hown.symm.trans (show _ = some "req-1" by decide +kernel)
    decide
  · intro own hown
    cases hown

theorem contexts_contained_sample :
    (∀ p ∈ samples, p.IsPrintable) ∧
      (∀ step ∈ trace samples { context := [("request_id", .text "stale")] },
        step.1.IsContained step.2) ∧
      samples.Pairwise fun p q => p.IsUnnamed → q.IsUnnamed → p.id ≠ q.id :=
  have h := contexts_contained samples { context := [("request_id", .text "stale")] }
    isPrintable_of_mem_samples
  ⟨isPrintable_of_mem_samples, h.1, h.2.2 (by decide)⟩

end Passage

/-! ### The service -/

/-- **All that is noted while the service answers a request carries its id**, and in the end nothing
is bound. -/
theorem serve_contained (r : Request) (s : Site) :
    ∃ events, ((serve r).exec s).2.log = s.log ++ LogEntry.allIn r.context events ∧
      ((serve r).exec s).2.context = [] := by
  obtain ⟨response, hserve⟩ := exec_serve r s
  replace hserve := congrArg Prod.snd hserve
  rw [observed, exec_observedUnder, show boundTo r.id = r.context from rfl] at hserve
  obtain ⟨hcontext, events, hlog⟩ :=
    emitting_upheld.serveTarget r { s with context := r.context }
  rcases hview : (serveTarget r (Target.read r.target)).exec { s with context := r.context } with
    ⟨e | served, t⟩ <;> rw [hview] at hserve hcontext hlog <;> rw [hserve]
  · exact ⟨events, hlog, rfl⟩
  · refine ⟨events ++ [r.entry ((Target.read r.target).write false) served], ?_, rfl⟩
    rw [LogEntry.allIn_append, ← List.append_assoc, ← hlog]
    exact congrArg (t.log ++ LogEntry.allIn · _) hcontext

end Http

end WorkspaceHome
