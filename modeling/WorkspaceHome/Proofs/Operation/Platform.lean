import WorkspaceHome.Proofs.Operation.Invariant

/-!
# What a service runs on

The library by which addresses are read and the room for calls come with what a service runs on.
Neither is a setting that has a name, so no operation changes them (`platform_perform`), and they
are the same at every step of a run (`platform_of_mem_trace`).
-/

namespace WorkspaceHome

open Service

/-- What comes with that on which a service runs. -/
def Settings.platform (s : Settings) : Url.Library × ℕ := (s.library, s.copyRoom)

theorem Settings.platform_assign (s : Settings) (name : String) (value : Json) :
    (s.assign name value).platform = s.platform := by
  unfold assign
  split <;> rfl

theorem Settings.platform_assignAll (s : Settings) (values : List (String × Json)) :
    (s.assignAll values).platform = s.platform := by
  unfold assignAll
  induction values generalizing s with
  | nil => rfl
  | cons value rest ih => exact (ih _).trans (s.platform_assign value.1 value.2)

/-- The frame of what leaves that on which a service runs. -/
def grounded : Frame := Frame.fixing fun s => s.settings.platform

theorem grounded_upheld : grounded.Upheld := by
  have hwritable : grounded.Writable := Frame.fixing_writable fun _ _ _ _ => rfl
  exact hwritable.upheld
    { Frame.fixing_mild fun _ _ _ _ => rfl with
      requests := fun _ _ => rfl
      cache := fun _ _ => rfl }

/-- **No operation changes that on which a service runs.** -/
theorem platform_perform (operation : Operation) (s : Site) :
    (operation.perform s).2.settings.platform = s.settings.platform := by
  refine grounded_upheld.act (fun _ _ => rfl) (fun around => ?_)
    fun row _ => (Frame.fixing_writable fun _ _ _ _ => rfl).rows row _
  exact Frame.keeps_surroundings (fun s _ values _ _ => s.settings.platform_assignAll values) around
    fun _ _ _ _ _ => rfl

/-- **All steps of a run** are made on the same. -/
theorem platform_of_mem_trace {operations : List Operation} {site : Site} {step : Step}
    (h : step ∈ Operation.trace operations site) :
    step.before.settings.platform = site.settings.platform := by
  induction operations generalizing site with
  | nil => cases h
  | cons operation rest ih =>
    rw [Operation.trace] at h
    rcases List.mem_cons.mp h with rfl | h
    · rfl
    · exact (ih h).trans (platform_perform operation site)

theorem library_of_mem_trace {operations : List Operation} {site : Site} {step : Step}
    (h : step ∈ Operation.trace operations site) :
    step.before.settings.library = site.settings.library :=
  congrArg Prod.fst (platform_of_mem_trace h)

end WorkspaceHome
