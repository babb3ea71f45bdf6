import WorkspaceHome.Proofs.Http.Serve
import WorkspaceHome.Proofs.Operation.Advance

/-!
# Stores stay consistent

Whatever is done to a site with a consistent store leads to a consistent store that comes after it,
and what fails leaves the store as it was: calls of the service (`ServiceCall.advances`), requests
(`Http.advances_serve`) and their views (`Http.viewAdvances_view`), operations of any kind
(`Operation.advances`), and with amendments all deeds (`Deed.perform_spec`). So does any run
(`Deed.leadsTo_performAll`).
-/

namespace WorkspaceHome

open Service

variable {s : Site} {viewer : Viewer}

/-! ### The four operations -/

section operations

variable (h : s.store.Consistent) (hviewer : viewer.IsIn s.store)

include h hviewer

theorem advances_recordRecent (a : Application) :
    (Remembrance.recordRecent viewer a).Advances s := by
  refine Leaves.advances h ((Remembrance.leaves_recordRecent viewer a s).imp ?_)
  rintro _ _ ⟨u, id, applications, workspaces, rfl, -, rfl⟩
  exact (Store.step_revise h.owners (hviewer u rfl) _).leadsTo h

theorem advances_ensureViewed : (Remembrance.ensureViewed viewer).Advances s := by
  refine Leaves.advances h ((Remembrance.leaves_ensureViewed viewer s).imp ?_)
  rintro _ _ ⟨u, rfl, rfl⟩
  exact (Store.step_revise h.owners (hviewer u rfl) _).leadsTo h

theorem advances_build (url : Option String) : (Homepage.build viewer url).Advances s := by
  refine Leaves.advances h ((Homepage.leaves_build viewer url s).imp ?_)
  rintro _ _ ⟨u, rfl, rfl⟩
  exact (Store.step_revise h.owners (hviewer u rfl) _).leadsTo h

theorem advances_create (name : Json) : (Workspaces.create name viewer).Advances s := by
  refine Leaves.advances h ((Workspaces.leaves_create_added name viewer s).imp ?_)
  rintro w store ⟨u, between, m, rfl, hadd, hmember⟩
  have hfirst := (Store.step_addWorkspace hadd).leadsTo h
  -- the workspace has just been made, and the user has been there before
  obtain ⟨hw, rfl⟩ := Store.eq_insert_of_addWorkspace hadd
  have hworkspace := Table.has_of_mem (Table.saves_insert (fun _ => ()) hw).mem
  exact hfirst.trans ((Store.step_addMember hmember hworkspace (hviewer u rfl)).leadsTo
    hfirst.consistent)

end operations

/-! ### Calls -/

theorem fixing_store_lenient : (Frame.fixing Site.store).Lenient :=
  ⟨⟨fun _ _ _ => rfl⟩, fun _ _ => rfl, fun _ _ => rfl⟩

/-- **A call advances a consistent store.** -/
theorem ServiceCall.advances (c : ServiceCall) (h : s.store.Consistent) : c.perform.Advances s := by
  cases c with
  | recordRecent user application =>
    refine Advances.bind_unchanged h (Frame.keeps_viewer user) fun viewer hviewer => ?_
    refine Advances.bind_settle h fun id _ => ?_
    refine Advances.bind_unchanged h (Frame.keeps_ask _) fun found _ => ?_
    refine Advances.bind_settle h fun a _ => ?_
    exact (advances_recordRecent h (Caller.isIn_of_exec_viewer hviewer) a).bind_pure h _
  | ensureViewed user =>
    refine Advances.bind_unchanged h (Frame.keeps_viewer user) fun viewer hviewer => ?_
    exact (advances_ensureViewed h (Caller.isIn_of_exec_viewer hviewer)).bind_pure h _
  | createWorkspace name user =>
    refine Advances.bind_unchanged h (Frame.keeps_viewer user) fun viewer hviewer => ?_
    exact (advances_create h (Caller.isIn_of_exec_viewer hviewer) name).bind_pure h _
  | homepage user url =>
    refine Advances.bind_unchanged h (Frame.keeps_viewer user) fun viewer hviewer => ?_
    exact (advances_build h (Caller.isIn_of_exec_viewer hviewer) url).bind_pure h _
  | _ =>
    refine .of_keeps h (fixing_store_lenient.call_of_reading rfl fun _ url => ?_)
    exact (ReleaseNotes.detached_nodesAt url).keeps fixing_store_lenient.distant

/-! ### Requests -/

namespace Http

/-- A view leads to a consistent store that comes after the one before, and leaves the store as it
was if it meets a trouble. -/
structure ViewAdvances {α : Type} (x : Service (Except Trouble α)) (s : Site) : Prop where
  leadsTo : s.store.LeadsTo (x.exec s).2.store
  store_eq : ∀ {trouble}, (x.exec s).1 = .ok (.error trouble) → (x.exec s).2.store = s.store

/-- What leaves the store is a view that advances it. -/
theorem viewAdvances_of_keeps {α : Type} {x : Service (Except Trouble α)} (h : s.store.Consistent)
    (hx : (Frame.fixing Site.store).Keeps x) : ViewAdvances x s :=
  ⟨(Advances.of_keeps h hx).leadsTo, fun _ => hx s⟩

/-- An operation inside a view. -/
theorem viewAdvances_attempt {α : Type} {x : Service α} (hx : x.Advances s) :
    ViewAdvances (attempt x) s := by
  have hsame : ((attempt x).exec s).2.store = (x.exec s).2.store :=
    Frame.attempt_follows (F := Frame.fixing Site.store) x s
  constructor
  · rw [hsame]
    exact hx.leadsTo
  · intro trouble htrouble
    rw [hsame]
    -- the view tells of a trouble only if the operation has failed
    unfold attempt at htrouble
    rw [exec_bind, exec_tryCatch, exec_bind] at htrouble
    rcases hrun : x.exec s with ⟨e | a, t⟩ <;> rw [hrun] at htrouble
    · have hstore := hx.store_eq (congrArg Prod.fst hrun)
      rwa [hrun] at hstore
    · cases htrouble

/-- **Every view advances a consistent store.** -/
theorem viewAdvances_view {r : Request} (h : s.store.Consistent)
    (hviewer : r.viewer.IsIn s.store) (e : Endpoint) : ViewAdvances (view r e) s := by
  cases e with
  | health =>
    have hcheck := fixing_store_lenient.toMild.check fixing_store_lenient.probe r.databaseFault
    exact viewAdvances_of_keeps h (hcheck.bind fun _ => Frame.keeps_pure _)
  | homepage => exact viewAdvances_attempt ((advances_build h hviewer none).bind_pure h _)
  | recentApplication key =>
    refine viewAdvances_attempt (Advances.bind_settle h fun u _ => ?_)
    refine Advances.bind_unchanged h (Frame.keeps_findApplication _ _) fun a _ => ?_
    exact (advances_recordRecent h hviewer a).bind_pure h _
  | workspaces =>
    unfold view createWorkspaceView
    dsimp only
    cases r.viewer.signedIn with
    | error e => exact viewAdvances_of_keeps h (Frame.keeps_pure _)
    | ok u =>
      cases r.data.bind nameOf with
      | error trouble => exact viewAdvances_of_keeps h (Frame.keeps_pure _)
      | ok name => exact viewAdvances_attempt ((advances_create h hviewer _).bind_pure h _)
  | workspace key => exact viewAdvances_of_keeps h (Frame.keeps_workspaceView _ key)

/-- Serving a request never fails. -/
theorem outcome_serve_ne_error (r : Request) (s : Site) (e : Failure) :
    ((serve r).exec s).1 ≠ .error e := by
  obtain ⟨response, hserve⟩ := exec_serve r s
  rw [hserve]
  exact nofun

/-- **Serving a request leads from a consistent store to a consistent one.** -/
theorem leadsTo_serve {r : Request} (h : s.store.Consistent) (hviewer : r.viewer.IsIn s.store) :
    s.store.LeadsTo ((serve r).exec s).2.store := by
  cases hreaches : r.reaches with
  | none =>
    have hsame : ((serve r).exec s).2.store = s.store :=
      fixing_store_lenient.toMild.serve_of_none (fun _ _ => rfl) hreaches s
    rw [hsame]
    exact h.leadsTo_self
  | some e =>
    rw [store_serve hreaches]
    exact (viewAdvances_view (s := { s with context := r.context }) h hviewer e).leadsTo

/-- **A request whose view meets a trouble leaves the store as it was.** -/
theorem store_serve_eq {r : Request} {e : Endpoint} (h : s.store.Consistent)
    (hviewer : r.viewer.IsIn s.store) (hreaches : r.reaches = some e) {trouble : Trouble}
    (hview : ((view r e).exec { s with context := r.context }).1 = .ok (.error trouble)) :
    ((serve r).exec s).2.store = s.store := by
  rw [store_serve hreaches]
  exact (viewAdvances_view (s := { s with context := r.context }) h hviewer e).store_eq hview

theorem advances_serve {r : Request} (h : s.store.Consistent) (hviewer : r.viewer.IsIn s.store) :
    (serve r).Advances s :=
  ⟨leadsTo_serve h hviewer, fun he => absurd he (outcome_serve_ne_error r s _)⟩

end Http

/-! ### Deeds -/

/-- **Every operation advances a consistent store.** -/
theorem Operation.advances (operation : Operation) (h : s.store.Consistent) :
    operation.act.Advances s := by
  cases operation with
  | rows operation => exact operation.advances h
  | call operation => exact operation.advances h
  | surroundings operation => exact .of_keeps h fun t => (undisturbed_surroundings operation t).2
  | request message caller =>
    refine Advances.bind_unchanged h (Frame.keeps_viewer caller) fun viewer hviewer => ?_
    exact (Http.advances_serve h (Caller.isIn_of_exec_viewer hviewer)).bind_pure h _

namespace Deed

theorem advances (deed : Deed) (h : s.store.Consistent) : deed.act.Advances s := by
  cases deed with
  | operation operation => exact operation.advances h
  | amendment edit => exact edit.advances h

/-- **What fails leaves the store as it was**, and what succeeds leads from a consistent store to a
consistent one. -/
theorem perform_spec (deed : Deed) {site : Site} (h : site.store.Consistent) :
    site.store.LeadsTo (deed.perform site).2.store ∧
      ∀ e, (deed.perform site).1.outcome = .error e →
        (deed.perform site).2.store = site.store := by
  have hadvances := deed.advances (s := { site with log := [], requests := [] }) h
  exact ⟨hadvances.leadsTo, fun e he => hadvances.store_eq he⟩

/-- **A run leads from a consistent store to a consistent one** that comes after it. -/
theorem leadsTo_performAll (deeds : List Deed) {site : Site} (h : site.store.Consistent) :
    site.store.LeadsTo (performAll deeds site).store := by
  induction deeds generalizing site with
  | nil => exact h.leadsTo_self
  | cons deed rest ih =>
    have hstep := (deed.perform_spec h).1
    exact hstep.trans (ih hstep.consistent)

/-- **Every store that can be reached is consistent.** -/
theorem consistent_performAll (deeds : List Deed) (site : Site) :
    (performAll deeds { site with store := {} }).store.Consistent := by
  have hempty : ({ site with store := {} } : Site).store.Consistent := Store.consistent_empty
  exact (leadsTo_performAll deeds hempty).consistent

end Deed

end WorkspaceHome
