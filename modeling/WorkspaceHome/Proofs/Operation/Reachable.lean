import WorkspaceHome.Proofs.Homepage.Present
import WorkspaceHome.Proofs.Operation.Consistency
import WorkspaceHome.Proofs.Store.Deletion

/-!
# Rows in the course of a run

A run does one deed after another to a site that begins with an empty store. At any three moments
of a run, one after another, rows are in order (`RowsInOrder`): the store is consistent, what fails
changes nothing, a deletion takes along what belongs to the row and nothing else, a row that is gone
does not come back, and so a workspace id in a recency list stands for its workspace or for nothing,
and homepages show no row that is gone (`reachable_rowsInOrder`).
-/

namespace WorkspaceHome

open Deed Service

/-- The id of a workspace stands in a store for this workspace or for nothing. -/
def Workspace.StandsIn (w : Workspace) (s : Store) : Prop :=
  ∀ w', s.workspaces.find? w.id = some w' → w'.createdAt = w.createdAt

/-- What holds of the rows at three moments of a run. -/
structure RowsInOrder (r s t : Site) : Prop where
  /-- Keys are distinct and references resolve. -/
  consistent : r.store.Consistent
  /-- What fails changes no row. -/
  failure : ∀ deed e, (perform deed r).1.outcome = .error e → (perform deed r).2.store = r.store
  /-- Nor does a request whose view meets a trouble. -/
  trouble : ∀ (request : Http.Request) e trouble, request.viewer.IsIn r.store →
    request.reaches = some e →
    ((Http.view request e).exec { r with context := request.context }).1 = .ok (.error trouble) →
      ((Http.serve request).exec r).2.store = r.store
  /-- A row is deleted with all that belongs to it, and without anything else. -/
  deletion : ∀ table id n, id.rowId = .ok n → table.holds r.store n = true →
    (∃ left, (perform (.operation (.rows (.delete table id))) r).1.outcome = .ok left) ∧
      r.store.Without (r.store.BelongsTo · (table, n))
        (perform (.operation (.rows (.delete table id))) r).2.store
  /-- Ending a membership deletes its row alone. -/
  departure : ∀ m ∈ r.store.memberships.rows,
    r.store.Without (r.store.BelongsTo · (.membership, m.id))
      (r.store.removeMember m.workspace m.user).2
  /-- No id is used again. -/
  gone : ∀ row, r.store.Gone s.store row → r.store.Gone t.store row
  /-- Recording an application puts in the id of a workspace, and from then on the id stands for
  this workspace or for nothing. -/
  recorded : ∀ u a d s', s.store.users.Has u.id → a ∈ r.store.applications.rows →
    (Remembrance.recordRecent (.user u) a).exec s = (.ok d, s') →
      ∃ w ∈ r.store.workspaces.rows, ∃ held, w.id = a.workspace ∧
        d.recentWorkspaces = .list (Recency.touch held (.int w.id) s.settings.recentLimit) ∧
        s'.store.dataOf? u.id = some d ∧
        ∀ later more, w.StandsIn (performAll later s').store ∧
          (r.store.Gone (performAll later s').store (.workspace, w.id) →
            r.store.Gone (performAll more (performAll later s')).store (.workspace, w.id))
  /-- A homepage shows rows that are there, none that is gone, and no workspace twice. -/
  homepage : ∀ (now : Site) u url homepage, now.store = t.store →
    ((Homepage.build (.user u) url).exec now).1 = .ok homepage →
      Homepage.IsPresent t.store (r.store.Gone s.store) u.id homepage.groups

variable {r s t : Site}

/-- A deletion succeeds if the row is there. -/
theorem perform_delete {table : TableName} {id : Json} {n : ℕ} (hid : id.rowId = .ok n)
    (hheld : table.holds r.store n = true) :
    (∃ left, (perform (.operation (.rows (.delete table id))) r).1.outcome = .ok left) ∧
      (perform (.operation (.rows (.delete table id))) r).2.store = table.erase r.store n := by
  have hstored : (RowOperation.storedId table id).exec { r with log := [], requests := [] } =
      (.ok n, { r with log := [], requests := [] }) := by
    unfold RowOperation.storedId
    rw [hid, exec_settle_ok_bind, exec_ask_bind, if_pos hheld, exec_pure]
  have hrun : (Deed.operation (.rows (.delete table id))).act.exec
      { r with log := [], requests := [] } =
        (.ok (.object (TableName.all.map fun t =>
            (t.label, .ofNat (t.size (table.erase r.store n))))),
          { r with log := [], requests := [], store := table.erase r.store n }) := by
    show (RowOperation.perform (.delete table id)).exec _ = _
    unfold RowOperation.perform
    rw [exec_bind_ok hstored]
    rfl
  exact ⟨⟨_, congrArg Prod.fst hrun⟩, congrArg (fun done => done.2.store) hrun⟩

/-- The id of a workspace stands for it or for nothing in every store that comes after, and for
nothing once the workspace is gone. -/
theorem standsIn_later {w : Workspace} (hw : w ∈ r.store.workspaces.rows)
    (h : r.store.LeadsTo s.store) (later more : List Deed) :
    w.StandsIn (performAll later s).store ∧
      (r.store.Gone (performAll later s).store (.workspace, w.id) →
        r.store.Gone (performAll more (performAll later s)).store (.workspace, w.id)) := by
  have hlater := leadsTo_performAll later h.consistent
  have hmore := leadsTo_performAll more hlater.consistent
  have hfollows := (h.trans hlater).follows
  refine ⟨fun w' hfound => ?_, fun hgone => hgone.follows hfollows hmore.follows⟩
  obtain ⟨hw', hid⟩ := Table.find?_eq_some_iff.mp hfound
  exact hfollows.workspaces.mark_eq hw hw' hid

/-- Recording an application for a user of the store leads to a consistent store. -/
theorem leadsTo_recorded {u : User} {a : Application} {d : UserData} {s' : Site}
    (h : s.store.Consistent) (hu : s.store.users.Has u.id)
    (hrun : (Remembrance.recordRecent (.user u) a).exec s = (.ok d, s')) :
    s.store.LeadsTo s'.store := by
  have hviewer : (Viewer.user u).IsIn s.store := fun v hv => by
    cases hv
    exact hu
  have hleads := (advances_recordRecent h hviewer a).leadsTo
  rwa [hrun] at hleads

/-- What recording an application puts into the list of workspaces. -/
theorem recorded_recentWorkspaces {u : User} {a : Application} {d : UserData} {s' : Site}
    (h : (Remembrance.recordRecent (.user u) a).exec s = (.ok d, s')) :
    (∃ held, d.recentWorkspaces =
        .list (Recency.touch held (.int a.workspace) s.settings.recentLimit)) ∧
      s'.store.dataOf? u.id = some d := by
  rcases Remembrance.recordRecent_cases (.user u) a s with
    ⟨e, events, hexec, -⟩ | ⟨u', id, applications, workspaces, hviewer, hrecordable⟩
  · rw [hexec] at h
    cases h
  · cases hviewer
    obtain ⟨store, hexec, hrow, -⟩ := Remembrance.exec_recordRecent_ok hrecordable
    rw [hexec] at h
    cases h
    obtain ⟨held, -, rfl⟩ := Recency.touchStored_eq_ok_iff.mp hrecordable.touchWorkspaces
    exact ⟨⟨held, rfl⟩, hrow⟩

/-- **Rows are in order** at three moments of a run. -/
theorem reachable_rowsInOrder (site : Site) (first second third : List Deed) :
    RowsInOrder (performAll first { site with store := {} })
      (performAll second (performAll first { site with store := {} }))
      (performAll third (performAll second (performAll first { site with store := {} }))) := by
  -- the three moments are named, so that each field is about sites and not about runs
  have hr := consistent_performAll first site
  generalize performAll first { site with store := {} } = r at hr
  have hrs := leadsTo_performAll second hr
  generalize performAll second r = s at hrs
  have hst := leadsTo_performAll third hrs.consistent
  generalize performAll third s = t at hst
  refine
    { consistent := hr
      failure := fun deed => (deed.perform_spec hr).2
      trouble := fun request e trouble hviewer hreaches => Http.store_serve_eq hr hviewer hreaches
      deletion := ?_
      departure := ?_
      gone := fun row hgone => hgone.follows hrs.follows hst.follows
      recorded := ?_
      homepage := ?_ }
  · intro table id n hid hheld
    obtain ⟨hsucceeds, hstore⟩ := perform_delete hid hheld
    refine ⟨hsucceeds, ?_⟩
    rw [hstore]
    exact r.store.erase_without table n
  · intro m hm
    rw [Store.removeMember_eq hr.pairs hm]
    exact r.store.erase_without .membership m.id
  -- the workspace of a recorded application stands in the store, by consistency
  · intro u a d s' hu ha hrun
    obtain ⟨w, hw, hid⟩ := hr.applicationWorkspaces a ha
    obtain ⟨⟨held, hheld⟩, hrow⟩ := recorded_recentWorkspaces hrun
    have hid : w.id = a.workspace := hid
    rw [← hid] at hheld
    have hleads := hrs.trans (leadsTo_recorded hrs.consistent hu hrun)
    exact ⟨w, hw, held, hid, hheld, hrow, standsIn_later hw hleads⟩
  · intro now u url homepage hnow hbuilt
    rw [← hnow] at hst ⊢
    exact Homepage.build_present (fun row hgone => (hgone.follows hrs.follows hst.follows).2) hbuilt

/-- A workspace that is deleted takes its membership along, and the next one of its name has an id
of its own. -/
example :
    let store := (performAll
      [.operation (.rows (.addUser "ada" "" "" "")),
        .operation (.rows (.addWorkspace (some "A") (some "a"))),
        .operation (.rows (.addMember (.int 1) (.named "ada") (some "Editor"))),
        .operation (.rows (.delete .workspace (.int 1))),
        .operation (.rows (.addWorkspace (some "A") (some "a")))] {}).store
    (store.workspaces.rows.map (·.id), store.memberships.rows.map (·.id)) = ([2], []) := rfl

end WorkspaceHome
