import WorkspaceHome.Proofs.Frame.Sight
import WorkspaceHome.Proofs.Remembrance
import WorkspaceHome.Proofs.Store.Recollection

/-!
# Rows of no consequence

The outlook of a site is all that can be seen of it: the outlook of its store, the rest of the site,
and its log but for the entries that tell of a row that was made (`Site.outlook`). What is done to
what is remembered of users sees no more than that, and comes to rows that tell the same
(`agree_recordRecent`, `agree_ensureViewed`): it makes no difference whether a row with nothing in
it is there already or is made when something is written.
-/

namespace WorkspaceHome

open Service

/-- Whether an event tells that the row of a user was made. -/
def Event.isCreation : Event → Bool
  | .userDataCreated _ => true
  | _ => false

/-- The entries of a log but for those that tell that a row was made. -/
def withoutCreations (log : List LogEntry) : List LogEntry :=
  log.filter fun entry => !entry.event.isCreation

namespace Site

variable {s t : Site}

/-- All that can be seen of a site. -/
def outlook (s : Site) : (Store × (ℕ → Recollection)) × Site :=
  (s.store.outlook, { s with store := {}, log := withoutCreations s.log })

theorem outlook_eq_iff : s.outlook = t.outlook ↔ s.store.outlook = t.store.outlook ∧
    withoutCreations s.log = withoutCreations t.log ∧ ∃ store log, t = { s with store, log } := by
  unfold outlook
  rw [Prod.mk.injEq]
  refine and_congr_right fun _ => ⟨fun h => ?_, ?_⟩
  · refine ⟨congrArg Site.log h, t.store, t.log, ?_⟩
    calc t = { ({ t with store := {}, log := withoutCreations t.log } : Site) with
            store := t.store, log := t.log } := rfl
      _ = { ({ s with store := {}, log := withoutCreations s.log } : Site) with
            store := t.store, log := t.log } := by rw [h]
  · rintro ⟨hlog, store, log, rfl⟩
    rw [show withoutCreations s.log = withoutCreations log from hlog]

/-- Sites that look alike still do with stores of one outlook. -/
theorem outlook_store (h : s.outlook = t.outlook) {store store' : Store}
    (hstore : store.outlook = store'.outlook) :
    ({ s with store } : Site).outlook = ({ t with store := store' } : Site).outlook := by
  obtain ⟨-, hlog, _, _, rfl⟩ := outlook_eq_iff.mp h
  exact outlook_eq_iff.mpr ⟨hstore, hlog, _, _, rfl⟩

/-- Sites that look alike still do when the same is noted, but for the rows that were made. -/
theorem outlook_noting (h : s.outlook = t.outlook) {xs ys : List Event}
    (hevents : xs.filter (!·.isCreation) = ys.filter (!·.isCreation)) :
    (s.noting xs).outlook = (t.noting ys).outlook := by
  have hnoted (s : Site) (events : List Event) : withoutCreations (s.noting events).log =
      withoutCreations s.log ++
        (events.filter (!·.isCreation)).map fun e => ⟨e, s.context⟩ := by
    unfold withoutCreations noting
    rw [List.filter_append, List.filter_map]
    rfl
  obtain ⟨hstore, hlog, store, log, ht⟩ := outlook_eq_iff.mp h
  have hcontext : t.context = s.context := by rw [ht]
  refine outlook_eq_iff.mpr ⟨hstore, ?_, store, (t.noting ys).log, by rw [ht]; rfl⟩
  rw [hnoted, hnoted, hlog, hevents, hcontext]

end Site

namespace Service

/-! ### What sees no more than the outlook -/

variable {α β δ : Type}

theorem seesOnly_log (e : Event) : SeesOnly Site.outlook (log e) := by
  intro s t h
  rw [exec_log, exec_log]
  exact ⟨rfl, Site.outlook_noting h rfl⟩

/-- A question to the store that is not about what is remembered. -/
theorem seesOnly_ask {q : Store → α} (hq : ∀ (s : Store) userData, q { s with userData } = q s) :
    SeesOnly Site.outlook (ask q) := by
  intro s t h
  obtain ⟨hstore, -⟩ := Site.outlook_eq_iff.mp h
  obtain ⟨hbeside, -⟩ := Store.outlook_eq_iff.mp hstore
  have hanswer : q t.store = q s.store :=
    (congrArg q (show t.store = { s.store with userData := t.store.userData } from hbeside)).trans
      (hq _ _)
  exact ⟨congrArg Except.ok hanswer.symm, h⟩

/-- Changing what is neither the store nor the log. -/
theorem seesOnly_modify {f : Site → Site}
    (hf : ∀ s store log, f { s with store, log } = { f s with store, log }) :
    SeesOnly Site.outlook (modify f : Service PUnit) := by
  refine SeesOnly.modify_congr fun s t h => ?_
  obtain ⟨hstore, hlog, store, log, rfl⟩ := Site.outlook_eq_iff.mp h
  calc (f s).outlook
      = ({ f s with store := s.store, log := s.log } : Site).outlook :=
        congrArg Site.outlook (hf s s.store s.log)
    _ = ({ f s with store, log } : Site).outlook :=
        Site.outlook_eq_iff.mpr ⟨hstore, hlog, store, log, rfl⟩
    _ = (f { s with store, log }).outlook := congrArg Site.outlook (hf s store log).symm

/-- Looking at a site, if neither the store nor the log makes a difference to what follows. -/
theorem seesOnly_get_bind {f : Site → Service α}
    (hf : ∀ s store log, f { s with store, log } = f s) (hsees : ∀ s, SeesOnly Site.outlook (f s)) :
    SeesOnly Site.outlook (get >>= f) := by
  refine SeesOnly.get_bind (fun s t h => ?_) hsees
  obtain ⟨-, -, store, log, rfl⟩ := Site.outlook_eq_iff.mp h
  exact (hf s store log).symm

/-- Operations that agree still do when each of them is taken back if it fails. -/
theorem agree_atomically {told : α → δ} {x y : Service α} (h : Agree Site.outlook told x y) :
    Agree Site.outlook told (atomically x) (atomically y) := by
  intro s t hview
  obtain ⟨houtcome, hafter⟩ := h s t hview
  rw [exec_atomically, exec_atomically]
  rcases hs : x.exec s with ⟨e | a, s'⟩ <;> rcases ht : y.exec t with ⟨e' | b, t'⟩ <;>
    rw [hs, ht] at houtcome hafter
  · exact ⟨houtcome, Site.outlook_store hafter (Site.outlook_eq_iff.mp hview).1⟩
  · cases houtcome
  · cases houtcome
  · exact ⟨houtcome, hafter⟩

end Service

/-! ### What is remembered -/

namespace Remembrance

/-- What fields make of a row tells the same if the row does. -/
theorem map_applyTo (fields : UserDataFields) {d d' : UserData}
    (h : d.recollection = d'.recollection) :
    (fields.applyTo d).map UserData.recollection =
      (fields.applyTo d').map UserData.recollection := by
  have hassigned : (fields.assignedTo d).recollection = (fields.assignedTo d').recollection :=
    congrArg (fun r : Recollection => Recollection.mk (fields.recentWorkspaces.getD r.workspaces)
      (fields.recentApplications.getD r.applications)
      (fields.viewedVersion.getD r.viewedVersion)) h
  have hworkspaces : (fields.assignedTo d).recentWorkspaces =
      (fields.assignedTo d').recentWorkspaces := congrArg Recollection.workspaces hassigned
  have happlications : (fields.assignedTo d).recentApplications =
      (fields.assignedTo d').recentApplications := congrArg Recollection.applications hassigned
  rw [UserDataFields.applyTo_eq, UserDataFields.applyTo_eq, hworkspaces, happlications]
  split_ifs
  · exact congrArg Except.ok hassigned
  · rfl

section sites

variable {s t : Site} (h : s.outlook = t.outlook)

include h

theorem recollection_eq (u : User) :
    (s.store.remembered u.id s.clock).recollection =
      (t.store.remembered u.id t.clock).recollection := by
  obtain ⟨-, hrecollection⟩ := Store.outlook_eq_iff.mp (Site.outlook_eq_iff.mp h).1
  rw [Store.recollection_remembered, Store.recollection_remembered, hrecollection]

theorem outlook_revised (u : User) {r r' : Revision}
    (hr : (r.change (s.store.remembered u.id s.clock)).recollection =
      (r'.change (t.store.remembered u.id t.clock)).recollection) :
    (revised s u r).outlook = (revised t u r').outlook := by
  have hclock : t.clock = s.clock := by
    obtain ⟨-, -, _, _, rfl⟩ := Site.outlook_eq_iff.mp h
    rfl
  rw [hclock] at hr
  have hstore := Store.outlook_revise (Site.outlook_eq_iff.mp h).1 hr
  rw [← hclock] at hstore
  unfold revised
  exact Site.outlook_store h (hclock ▸ hstore)

end sites

theorem agree_save (u : User) (fields : UserDataFields) :
    Agree Site.outlook UserData.recollection (save u fields) (save u fields) := by
  intro s t h
  have happly := map_applyTo fields (recollection_eq h u)
  -- the fields are applied to rows that agree, so both saves fail for one reason or both succeed
  cases hs : fields.applyTo (s.store.remembered u.id s.clock) with
  | error e =>
    cases ht : fields.applyTo (t.store.remembered u.id t.clock) with
    | error e' =>
      rw [hs, ht] at happly
      rw [exec_save_error hs, exec_save_error ht]
      exact ⟨congrArg Except.error (Except.error.inj happly), h⟩
    | ok d' =>
      rw [hs, ht] at happly
      cases happly
  | ok d =>
    cases ht : fields.applyTo (t.store.remembered u.id t.clock) with
    | error e' =>
      rw [hs, ht] at happly
      cases happly
    | ok d' =>
      rw [hs, ht] at happly
      have hsame : d.recollection = d'.recollection := Except.ok.inj happly
      rw [exec_save fields hs, exec_save fields ht]
      refine ⟨congrArg Except.ok hsame, outlook_revised h u ?_⟩
      obtain rfl := UserDataFields.eq_of_applyTo hs
      obtain rfl := UserDataFields.eq_of_applyTo ht
      exact hsame

/-- **Whether the row is there** or is made now, it tells the same. -/
theorem agree_obtain (u : User) :
    Agree Site.outlook UserData.recollection (obtain u) (obtain u) := by
  intro s t h
  have hcreation (store : Store) : (creation store u.id).filter (!·.isCreation) = [] :=
    List.filter_eq_nil_iff.mpr fun e he => by rw [creation_spec he]; exact Bool.false_ne_true
  rw [exec_obtain, exec_obtain]
  refine ⟨congrArg Except.ok (recollection_eq h u), ?_⟩
  exact Site.outlook_noting (outlook_revised h u (recollection_eq h u))
    ((hcreation _).trans (hcreation _).symm)

theorem agree_touchLists (u : User) (id : Json) (workspace : ℕ) (limit : ℤ) :
    Agree Site.outlook UserData.recollection (touchLists u id workspace limit)
      (touchLists u id workspace limit) := by
  refine (agree_obtain u).bind fun d d' hd => ?_
  have hworkspaces : d.recentWorkspaces = d'.recentWorkspaces :=
    congrArg Recollection.workspaces hd
  have happlications : d.recentApplications = d'.recentApplications :=
    congrArg Recollection.applications hd
  rw [hworkspaces, happlications]
  exact Agree.bind_same (SeesOnly.settle _) fun applications =>
    Agree.bind_same (SeesOnly.settle _) fun workspaces => agree_save u _

/-- **Recording an application** comes to the same with a row or without. -/
theorem agree_recordRecent (viewer : Viewer) (a : Application) :
    Agree Site.outlook UserData.recollection (recordRecent viewer a) (recordRecent viewer a) := by
  intro s t h
  have hsettings : t.settings = s.settings := by
    obtain ⟨-, -, _, _, rfl⟩ := Site.outlook_eq_iff.mp h
    rfl
  rw [exec_recordRecent, exec_recordRecent, hsettings]
  refine Agree.bind_same (SeesOnly.settle _) (fun id =>
    Agree.bind_same (SeesOnly.settle _) fun user => ?_) s t h
  exact (agree_atomically (agree_touchLists user id _ _)).bind fun d d' hd =>
    Agree.bind_same (seesOnly_log _) fun _ => Agree.pure hd

theorem agree_fixVersion (u : User) (version : String) :
    Agree Site.outlook (fun result => (result.1.recollection, result.2)) (fixVersion u version)
      (fixVersion u version) := by
  refine (agree_obtain u).bind fun d d' hd => ?_
  have hviewed : d.viewedVersion = d'.viewedVersion := congrArg Recollection.viewedVersion hd
  rw [hviewed]
  split_ifs
  · exact Agree.pure (by rw [hd])
  · exact (agree_save u _).bind fun _ _ hsaved => Agree.pure (by rw [hsaved])

/-- **Fixing the viewed version** comes to the same with a row or without. -/
theorem agree_ensureViewed (viewer : Viewer) :
    Agree Site.outlook UserData.recollection (ensureViewed viewer) (ensureViewed viewer) := by
  intro s t h
  have hsettings : t.settings = s.settings := by
    obtain ⟨-, -, _, _, rfl⟩ := Site.outlook_eq_iff.mp h
    rfl
  rw [exec_ensureViewed, exec_ensureViewed, hsettings]
  refine Agree.bind_same (SeesOnly.settle _) (fun user => ?_) s t h
  refine (agree_atomically (agree_fixVersion user _)).bind ?_
  rintro ⟨d, isNew⟩ ⟨d', isNew'⟩ hresult
  obtain ⟨hd, rfl⟩ := Prod.mk.inj hresult
  cases isNew with
  | false => exact Agree.pure hd
  | true => exact Agree.bind_same (seesOnly_log _) fun _ => Agree.pure hd

end Remembrance

end WorkspaceHome
