import WorkspaceHome.Proofs.Frame.Rows
import WorkspaceHome.Proofs.Http.Serve
import WorkspaceHome.Proofs.Records

/-!
# The recency lists after a run

A run performs operations one after another, and its trace tells for each of them the site before
and the report (`Operation.trace`). After a run the two recency lists of a user are what a single
cut leaves of the whole history: of all that the reports tell to be recorded for the user, the
newest first, and then of what was there before the run (`recentLists_eq`). Any operations may come
in between but those by which an administrator writes or deletes the user's row, and changes of the
limit.
-/

namespace WorkspaceHome

open Recency Service

/-! ### Runs -/

/-- A step of a run: the site before, the operation and its report. -/
structure Step where
  before : Site
  operation : Operation
  report : Report

/-- The steps of a run. -/
def Operation.trace : List Operation → Site → List Step
  | [], _ => []
  | operation :: rest, site =>
    ⟨site, operation, (operation.perform site).1⟩ :: trace rest (operation.perform site).2

theorem Operation.performAll_cons (operation : Operation) (rest : List Operation) (site : Site) :
    performAll (operation :: rest) site =
      ((operation.perform site).1 :: (performAll rest (operation.perform site).2).1,
        (performAll rest (operation.perform site).2).2) := rfl

/-- The report of a step is what its operation leaves on the site before it. -/
theorem Operation.report_of_mem_trace {operations : List Operation} {site : Site} {step : Step}
    (h : step ∈ trace operations site) :
    step.report = (step.operation.perform step.before).1 := by
  induction operations generalizing site with
  | nil => cases h
  | cons operation rest ih =>
    rw [trace] at h
    rcases List.mem_cons.mp h with rfl | h
    · rfl
    · exact ih h

/-- What a run has recorded for a user, the newest first. -/
def history (user : ℕ) (steps : List Step) : List (Json × ℕ) :=
  (steps.flatMap fun step => recordsIn user step.report.log).reverse

/-- An administrator writes or deletes what is remembered of a user. -/
def RowOperation.Overrules (user : ℕ) (s : Store) : RowOperation → Prop
  | .saveUserData (.named username) _ => ∃ u, s.userNamed? username = some u ∧ u.id = user
  | .delete .userData id => ∃ d ∈ s.userData.rows, d.user = user ∧ id.rowId = .ok d.id
  | .delete .user id => id.rowId = .ok user
  | _ => False

/-- A step writes or deletes what is remembered of a user directly. -/
def Step.Overrules (user : ℕ) (step : Step) : Prop :=
  match step.operation with
  | .rows operation => operation.Overrules user step.before.store
  | _ => False

/-! ### Operations on rows -/

/-- The log does not grow, and what is remembered of a user stays the same. -/
def sparing (user : ℕ) : Frame where
  rel s t := t.log = s.log ∧ t.store.dataOf? user = s.store.dataOf? user
  refl := fun _ => ⟨rfl, rfl⟩
  trans := fun h h' => ⟨h'.1.trans h.1, h'.2.trans h.2⟩

variable {user : ℕ}

theorem sparing_of_userData_eq {s : Site} {store : Store} (h : store.userData = s.store.userData) :
    (sparing user).rel s { s with store } := by
  refine ⟨rfl, ?_⟩
  show store.dataOf? user = _
  unfold Store.dataOf?
  rw [h]

theorem find?_filter_of_forall {rows : List UserData} {p q : UserData → Bool}
    (h : ∀ d ∈ rows, q d = true → p d = true) : (rows.filter p).find? q = rows.find? q := by
  rw [List.find?_filter]
  apply List.find?_congr
  intro d hd
  cases hq : q d with
  | false => simp
  | true => simp [h d hd hq]

/-- Deleting a row leaves what is remembered of a user, unless it is this row or the user's. -/
theorem dataOf?_erase {table : TableName} {id : Json} {n : ℕ} {s : Store}
    (hid : id.rowId = .ok n) (h : ¬ (RowOperation.delete table id).Overrules user s) :
    (table.erase s n).dataOf? user = s.dataOf? user := by
  cases table with
  | workspace => rfl
  | membership => rfl
  | application => rfl
  | page => rfl
  | userData =>
    apply find?_filter_of_forall
    intro d hd huser
    have huser : d.user = user := by simpa using huser
    have hne : d.id ≠ n := fun heq => h ⟨d, hd, huser, by rw [heq]; exact hid⟩
    simpa [Row.id] using hne
  | user =>
    -- a user goes together with what is remembered of this user, and of no other
    have hne : n ≠ user := fun heq => h (by rw [← heq]; exact hid)
    apply find?_filter_of_forall
    intro d _ huser
    have huser : d.user = user := by simpa using huser
    simpa [huser] using hne.symm

/-- Saving what is remembered of one user leaves it of any other. -/
theorem sparing_saveData {u : User} (h : u.id ≠ user) (fields : UserDataFields) :
    (sparing user).Keeps (Remembrance.save u fields) := by
  intro s
  unfold Frame.KeepsAt
  cases happly : fields.applyTo (s.store.remembered u.id s.clock) with
  | error e =>
    rw [Remembrance.exec_save_error happly]
    exact (sparing user).refl s
  | ok d =>
    rw [Remembrance.exec_save fields happly]
    exact ⟨rfl, (Store.sameBut_revise _ _ _ _).dataOf?_eq h.symm⟩

/-- An administrator's operation leaves what is remembered of a user, unless it overrules it. -/
theorem sparing_rows (operation : RowOperation) {s : Site}
    (h : ¬ operation.Overrules user s.store) : (sparing user).KeepsAt operation.perform s := by
  -- all but deleting and saving what is remembered write to one table, which is another one
  refine Frame.keepsAt_rows ?_
  cases operation with
  | addUser username email firstName lastName =>
    refine Frame.keepsAt_write fun u store hop => sparing_of_userData_eq ?_
    obtain ⟨users, rfl⟩ := Store.eq_of_addUser hop
    rfl
  | addWorkspace name slug =>
    refine Frame.keepsAt_write fun w store hop => sparing_of_userData_eq ?_
    obtain ⟨workspaces, rfl⟩ := Store.eq_of_addWorkspace hop
    rfl
  | saveWorkspace id fields =>
    refine fun n _ => Frame.keepsAt_save fun store hop => sparing_of_userData_eq ?_
    obtain ⟨workspaces, rfl⟩ := Store.eq_of_saveWorkspace hop
    rfl
  | addMember workspace caller role =>
    refine fun n u => Frame.keepsAt_write fun m store hop => sparing_of_userData_eq ?_
    obtain ⟨memberships, rfl⟩ := Store.eq_of_addMember hop
    rfl
  | removeMember workspace caller =>
    refine fun n u => Frame.keepsAt_write fun gone store hop => sparing_of_userData_eq ?_
    cases hop
    rfl
  | addApplication workspace fields =>
    refine fun n => Frame.keepsAt_write fun a store hop => sparing_of_userData_eq ?_
    obtain ⟨applications, rfl⟩ := Store.eq_of_addApplication hop
    rfl
  | saveApplication id workspace fields =>
    refine fun n w _ => Frame.keepsAt_save fun store hop => sparing_of_userData_eq ?_
    obtain ⟨applications, rfl⟩ := Store.eq_of_saveApplication hop
    rfl
  | addPage application fields =>
    refine fun n => Frame.keepsAt_write fun p store hop => sparing_of_userData_eq ?_
    obtain ⟨pages, rfl⟩ := Store.eq_of_addPage hop
    rfl
  | savePage id fields =>
    refine fun n _ => Frame.keepsAt_save fun store hop => sparing_of_userData_eq ?_
    obtain ⟨pages, rfl⟩ := Store.eq_of_savePage hop
    rfl
  | saveUserData caller fields =>
    refine fun u hu => sparing_saveData (fun heq => ?_) fields s
    -- only a user who has the name could be the one whose row is saved
    cases caller with
    | named username => exact h ⟨u, hu, heq⟩
    | _ => cases hu
  | delete table id => exact fun n hn => ⟨rfl, dataOf?_erase hn h⟩
  | showLine table id => trivial
  | showForm form table id => trivial

/-! ### One step -/

/-- What an operation leaves, by its outcome on the site with an empty log. -/
theorem perform_eq (operation : Operation) (s : Site) :
    operation.perform s =
      let r := operation.act.exec { s with log := [], requests := [] }
      (⟨r.1, r.2.log, r.2.requests⟩, r.2) := rfl

/-- The store and the log stay as they are. -/
def undisturbed : Frame where
  rel s t := t.log = s.log ∧ t.store = s.store
  refl := fun _ => ⟨rfl, rfl⟩
  trans := fun h h' => ⟨h'.1.trans h.1, h'.2.trans h.2⟩

/-- What happens around the service leaves the store and the log. -/
theorem undisturbed_surroundings (operation : Surroundings) :
    undisturbed.Keeps operation.perform :=
  Frame.keeps_surroundings (F := undisturbed) (fun _ _ _ _ _ => ⟨rfl, rfl⟩) operation
    fun _ _ _ _ _ => ⟨rfl, rfl⟩

/-- What happens around the service leaves the log and what is remembered. -/
theorem sparing_surroundings (operation : Surroundings) :
    (sparing user).Keeps operation.perform := by
  intro s
  obtain ⟨hlog, hstore⟩ := undisturbed_surroundings operation s
  refine ⟨hlog, ?_⟩
  rw [hstore]

/-- **The report of an operation accounts for the recency lists** of a user, unless an
administrator overrules them. -/
theorem perform_accounts {operation : Operation} {s : Site}
    (h : ¬ (Step.mk s operation (operation.perform s).1).Overrules user) :
    Store.Accounts user s.settings.recentLimit (recordsIn user (operation.perform s).1.log) s.store
        (operation.perform s).2.store ∧
      ∀ record ∈ recordsIn user (operation.perform s).1.log, s.store.Backs record := by
  -- an operation starts from an empty log, so that its report has just what it appended
  have hspared (hkeep : (sparing user).KeepsAt operation.act { s with log := [], requests := [] }) :
      Store.Accounts user s.settings.recentLimit (recordsIn user (operation.perform s).1.log)
          s.store (operation.perform s).2.store ∧
        ∀ record ∈ recordsIn user (operation.perform s).1.log, s.store.Backs record := by
    obtain ⟨hlog, hdata⟩ := hkeep
    rw [perform_eq]
    dsimp only
    rw [hlog]
    exact ⟨.of_eq hdata, fun record hrecord => absurd hrecord List.not_mem_nil⟩
  have haccounted
      (hkeep : (accounting user).KeepsAt operation.act { s with log := [], requests := [] }) :
      Store.Accounts user s.settings.recentLimit (recordsIn user (operation.perform s).1.log)
          s.store (operation.perform s).2.store ∧
        ∀ record ∈ recordsIn user (operation.perform s).1.log, s.store.Backs record := by
    obtain ⟨new, hlog, haccounts, hbacks⟩ := hkeep.log
    rw [List.nil_append] at hlog
    rw [perform_eq]
    dsimp only
    rw [hlog]
    exact ⟨haccounts, hbacks⟩
  -- an administrator's operation and the surroundings record nothing; the service accounts for all
  cases operation with
  | rows operation => exact hspared (sparing_rows operation h)
  | call operation => exact haccounted (accounting_upheld.call operation _)
  | surroundings operation => exact hspared (sparing_surroundings operation _)
  | request message caller =>
    have hserve (r : Http.Request) : (accounting user).Keeps (Http.serve r) :=
      accounting_upheld.serve (fun _ _ => .of_log_eq rfl rfl rfl rfl) r
    exact haccounted (((Frame.keeps_viewer caller).bind fun viewer =>
      (hserve _).bind fun response => Frame.keeps_pure _) _)

/-! ### A whole run -/

/-- **The reports of a run account for the recency lists** of a user. -/
theorem performAll_accounts {limit : ℤ} {operations : List Operation} {site : Site}
    (hspared : ∀ step ∈ Operation.trace operations site, ¬ step.Overrules user)
    (hlimit : ∀ step ∈ Operation.trace operations site,
      step.before.settings.recentLimit = limit) :
    Store.Accounts user limit (history user (Operation.trace operations site)).reverse site.store
      (Operation.performAll operations site).2.store := by
  -- the account of the first step is continued by the one of the rest, from the site it leaves
  induction operations generalizing site with
  | nil => exact .of_eq rfl
  | cons operation rest ih =>
    rw [Operation.trace] at hspared hlimit ⊢
    obtain ⟨hfirst, hspared⟩ := List.forall_mem_cons.mp hspared
    obtain ⟨hlimit', hlimit⟩ := List.forall_mem_cons.mp hlimit
    have hstep := (perform_accounts hfirst).1
    rw [show site.settings.recentLimit = limit from hlimit'] at hstep
    rw [Operation.performAll_cons, history, List.reverse_reverse, List.flatMap_cons]
    have hrest := ih hspared hlimit
    rw [history, List.reverse_reverse] at hrest
    exact hstep.trans hrest

/-! ### What the records stand for -/

/-- The records of a step are true: each is of an application that the store had, and a call by the
user that succeeds leaves the one of its application. -/
structure Step.IsFaithful (user : ℕ) (step : Step) : Prop where
  backed : ∀ record ∈ recordsIn user step.report.log, step.before.store.Backs record
  called : ∀ username key u v, step.operation = .call (.recordRecent (.named username) key) →
    step.before.store.userNamed? username = some u → u.id = user → step.report.outcome = .ok v →
      ∃ a ∈ step.before.store.applications.rows, key.rowId = .ok a.id ∧
        ∃ id, GitMetadata.clientId (.int a.id) a.gitMetadata = .ok id ∧
          recordsIn user step.report.log = [(id, a.workspace)]

/-- A call that records an application leaves one record of it. -/
theorem recordsIn_recordRecent {username : String} {key v : Json} {u : User} {s : Site}
    (hu : s.store.userNamed? username = some u)
    (hok : ((Operation.call (.recordRecent (.named username) key)).perform s).1.outcome = .ok v) :
    ∃ a ∈ s.store.applications.rows, key.rowId = .ok a.id ∧
      ∃ id, GitMetadata.clientId (.int a.id) a.gitMetadata = .ok id ∧
        recordsIn u.id ((Operation.call (.recordRecent (.named username) key)).perform s).1.log =
          [(id, a.workspace)] := by
  -- a call that succeeds has passed every check, so at each of them only one case is left
  have hviewer := exec_viewer_named (s := { s with log := [], requests := [] }) hu
  rw [perform_eq] at hok ⊢
  dsimp only [Operation.act, ServiceCall.perform] at hok ⊢
  rw [exec_bind_ok hviewer] at hok ⊢
  cases hid : key.rowId with
  | error e =>
    rw [hid] at hok
    cases hok
  | ok n =>
    rw [hid, exec_settle_ok_bind, exec_ask_bind] at hok
    rw [exec_settle_ok_bind, exec_ask_bind]
    dsimp only at hok ⊢
    cases hfound : s.store.applications.find? n with
    | none =>
      rw [hfound] at hok
      cases hok
    | some a =>
      obtain ⟨ha, hrow⟩ := Table.find?_eq_some_iff.mp hfound
      rw [hfound] at hok
      refine ⟨a, ha, by rw [← hrow]; rfl, ?_⟩
      rcases Remembrance.recordRecent_cases (.user u) a { s with log := [], requests := [] } with
        ⟨e, events, hexec, -⟩ | ⟨u', id, applications, workspaces, huser, hrecord⟩
      · rw [show existing (some a) = .ok a from rfl, exec_settle_ok_bind,
          exec_bind_error hexec] at hok
        cases hok
      · obtain rfl : u = u' := Viewer.user.inj huser
        obtain ⟨store, hexec, -, -⟩ := Remembrance.exec_recordRecent_ok hrecord
        refine ⟨id, hrecord.clientId, ?_⟩
        rw [show existing (some a) = .ok a from rfl, exec_settle_ok_bind, exec_bind_ok hexec,
          exec_pure]
        -- before the record it may be noted that the row was made, which is no record
        show recordsIn u.id ([] ++ List.map _ (_ ++ _)) = _
        rw [List.nil_append, List.map_append, recordsIn_append,
          recordsIn_eq_nil (isRecord_creation _ _)]
        simp [recordsIn, LogEntry.recordOf]

/-- Every step that no administrator's operation overrules is faithful. -/
theorem isFaithful_of_mem_trace {operations : List Operation} {site : Site}
    (hspared : ∀ step ∈ Operation.trace operations site, ¬ step.Overrules user) :
    ∀ step ∈ Operation.trace operations site, step.IsFaithful user := by
  induction operations generalizing site with
  | nil => exact fun step hstep => absurd hstep List.not_mem_nil
  | cons operation rest ih =>
    rw [Operation.trace] at hspared ⊢
    obtain ⟨hfirst, hspared⟩ := List.forall_mem_cons.mp hspared
    refine List.forall_mem_cons.mpr ⟨?_, ih hspared⟩
    refine ⟨(perform_accounts hfirst).2, ?_⟩
    rintro username key u v hoperation hu rfl hok
    dsimp only at hoperation hu hok
    subst hoperation
    exact recordsIn_recordRecent hu hok

/-- **The recency lists refine the whole history.** After a run in which something was recorded for
a user, both lists are what a single cut to the limit leaves of all that was recorded, the newest
first, and of what was there before the run, each id once at its first place. -/
theorem recentLists_eq (operations : List Operation) (site : Site) (user : ℕ) (limit : ℤ)
    {applications workspaces : List Json}
    (happlications : site.store.recentOf user (·.recentApplications) = .list applications)
    (hworkspaces : site.store.recentOf user (·.recentWorkspaces) = .list workspaces)
    (has : Scalars applications) (hws : Scalars workspaces)
    (hlimit : ∀ step ∈ Operation.trace operations site, step.before.settings.recentLimit = limit)
    (hspared : ∀ step ∈ Operation.trace operations site, ¬ step.Overrules user)
    (hne : history user (Operation.trace operations site) ≠ []) :
    (∀ step ∈ Operation.trace operations site, step.IsFaithful user) ∧
      ∃ d, (Operation.performAll operations site).2.store.dataOf? user = some d ∧
        d.recentApplications = kept limit
          ((history user (Operation.trace operations site)).map (·.1) ++ applications) ∧
        d.recentWorkspaces = kept limit
          ((history user (Operation.trace operations site)).map (fun r => .int r.2) ++
            workspaces) := by
  refine ⟨isFaithful_of_mem_trace hspared, ?_⟩
  -- cutting after each record or once at the end leaves the same (`touchAll_eq`)
  have haccounts := performAll_accounts hspared hlimit
  have hrecords : (history user (Operation.trace operations site)).reverse ≠ [] := by
    simpa using hne
  -- something has been recorded, so the user has a row
  obtain ⟨d, hd⟩ := Option.isSome_iff_exists.mp (haccounts.row (Or.inl hrecords))
  have hrecent (field : UserData → Json) :
      (Operation.performAll operations site).2.store.recentOf user field = field d := by
    unfold Store.recentOf
    rw [hd]
    rfl
  refine ⟨d, hd, ?_, ?_⟩
  · have h := haccounts.applications
    rw [hrecent, happlications] at h
    rw [touchAll_eq has (by simpa using hne) h, ← List.map_reverse, List.reverse_reverse]
  · have h := haccounts.workspaces
    rw [hrecent, hworkspaces] at h
    rw [touchAll_eq hws (by simpa using hne) h, ← List.map_reverse, List.reverse_reverse]

/-- Three visits of the user of the small store: an application is recorded, the viewed version is
fixed, and a branch of another application is recorded. -/
def sampleVisits : List Operation :=
  [.call (.recordRecent (.named "ada") (.int 1)), .call (.ensureViewed (.named "ada")),
    .call (.recordRecent (.named "ada") (.int 3))]

theorem recentLists_eq_sample :
    history 1 (Operation.trace sampleVisits { store := Store.sample }) =
        [(.text "main", 2), (.int 1, 1)] ∧
      (∀ step ∈ Operation.trace sampleVisits { store := Store.sample }, step.IsFaithful 1) ∧
        ∃ d, (Operation.performAll sampleVisits { store := Store.sample }).2.store.dataOf? 1 =
            some d ∧
          d.recentApplications = kept 5 ([.text "main", .int 1] ++ [.text "main"]) ∧
          d.recentWorkspaces = kept 5 ([.int 2, .int 1] ++ [.int 2]) := by
  have hhistory : history 1 (Operation.trace sampleVisits { store := Store.sample }) =
      [(.text "main", 2), (.int 1, 1)] := rfl
  refine ⟨hhistory, recentLists_eq sampleVisits { store := Store.sample } 1 5 rfl rfl (by decide)
    (by decide) ?_ ?_ (by rw [hhistory]; exact List.cons_ne_nil _ _)⟩
  · intro step hstep
    rcases hstep with _ | ⟨_, _ | ⟨_, _ | ⟨_, ⟨⟩⟩⟩⟩ <;> rfl
  · intro step hstep
    rcases hstep with _ | ⟨_, _ | ⟨_, _ | ⟨_, ⟨⟩⟩⟩⟩ <;> exact id

end WorkspaceHome
