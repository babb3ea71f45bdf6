import WorkspaceHome.Site

/-!
# Running service actions

`Service.exec` runs an action on a site and gives its outcome and the site after it; there is one
equation for each way of building an action. A site that only has more entries in its log is
`Site.noting`.

A `Frame` is a relation between the sites before and after an action that holds of doing nothing and
of one action after another, such as "the store is the same". An action `keeps` a frame if it
relates the two sites whatever the action's outcome; what keeps a frame is closed under all ways of
building actions.

An action is `Blind` if it neither looks at the store nor changes it.
-/

namespace WorkspaceHome

/-- The site with more entries in its log. -/
def Site.noting (s : Site) (events : List Event) : Site :=
  { s with log := s.log ++ events.map fun e => ⟨e, s.context⟩ }

namespace Site

@[simp]
theorem noting_store (s : Site) (events : List Event) : (s.noting events).store = s.store := rfl

@[simp]
theorem noting_clock (s : Site) (events : List Event) : (s.noting events).clock = s.clock := rfl

@[simp]
theorem noting_nil (s : Site) : s.noting [] = s := by simp [noting]

@[simp]
theorem noting_noting (s : Site) (xs ys : List Event) :
    (s.noting xs).noting ys = s.noting (xs ++ ys) := by
  simp [noting]

end Site

namespace Service

variable {α β : Type}

/-- Runs an action on a site. -/
def exec (x : Service α) (s : Site) : Except Failure α × Site := x.run s

/-! ### The outcome of each way of building an action -/

@[simp]
theorem exec_pure (a : α) (s : Site) : (pure a : Service α).exec s = (.ok a, s) := rfl

@[simp]
theorem exec_throw (e : Failure) (s : Site) : (throw e : Service α).exec s = (.error e, s) := rfl

theorem exec_bind (x : Service α) (f : α → Service β) (s : Site) :
    (x >>= f).exec s = match x.exec s with
      | (.ok a, t) => (f a).exec t
      | (.error e, t) => (.error e, t) := by
  -- the transformers are opened here and nowhere later: what follows goes by the equations
  show (x >>= f).run s = _
  unfold exec
  simp only [bind, ExceptT.bind, ExceptT.run, ExceptT.mk, StateT.bind]
  rcases x s with ⟨e | a, t⟩ <;> rfl

theorem exec_bind_ok {x : Service α} {s t : Site} {a : α} (h : x.exec s = (.ok a, t))
    (f : α → Service β) : (x >>= f).exec s = (f a).exec t := by
  rw [exec_bind, h]

theorem exec_bind_error {x : Service α} {s t : Site} {e : Failure}
    (h : x.exec s = (.error e, t)) (f : α → Service β) : (x >>= f).exec s = (.error e, t) := by
  rw [exec_bind, h]

@[simp]
theorem exec_get_bind (f : Site → Service β) (s : Site) : (get >>= f).exec s = (f s).exec s := rfl

@[simp]
theorem exec_modify_bind (f : Site → Site) (g : PUnit → Service β) (s : Site) :
    (modify f >>= g).exec s = (g ()).exec (f s) := rfl

@[simp]
theorem exec_settle_ok_bind (a : α) (f : α → Service β) (s : Site) :
    (settle (.ok a) >>= f).exec s = (f a).exec s := rfl

@[simp]
theorem exec_settle_error_bind (e : Failure) (f : α → Service β) (s : Site) :
    (settle (.error e) >>= f).exec s = (.error e, s) := rfl

@[simp]
theorem exec_ask_bind (q : Store → α) (f : α → Service β) (s : Site) :
    (ask q >>= f).exec s = (f (q s.store)).exec s := rfl

@[simp]
theorem exec_log_bind (e : Event) (f : Unit → Service β) (s : Site) :
    (log e >>= f).exec s = (f ()).exec (s.noting [e]) := rfl

theorem exec_map (f : α → β) (x : Service α) (s : Site) :
    (f <$> x).exec s = ((x.exec s).1.map f, (x.exec s).2) := by
  show (f <$> x).run s = _
  unfold exec
  simp only [Functor.map, ExceptT.map, ExceptT.run, ExceptT.mk, StateT.bind, bind]
  rcases x s with ⟨e | a, t⟩ <;> rfl

/-- An action whose result is only put into another form. -/
theorem exec_bind_pure (x : Service α) (f : α → β) (s : Site) :
    (x >>= fun a => pure (f a)).exec s = ((x.exec s).1.map f, (x.exec s).2) := by
  rw [exec_bind]
  rcases x.exec s with ⟨e | a, t⟩ <;> rfl

theorem exec_tryCatch (x : Service α) (h : Failure → Service α) (s : Site) :
    (tryCatch x h).exec s = match x.exec s with
      | (.ok a, t) => (.ok a, t)
      | (.error e, t) => (h e).exec t := by
  show (tryCatch x h).run s = _
  unfold exec
  simp only [tryCatch, tryCatchThe, MonadExceptOf.tryCatch, ExceptT.tryCatch, ExceptT.run,
    ExceptT.mk, bind, StateT.bind]
  rcases x s with ⟨e | a, t⟩ <;> rfl

@[simp]
theorem exec_get (s : Site) : (get : Service Site).exec s = (.ok s, s) := rfl

@[simp]
theorem exec_set (t s : Site) : (set t : Service PUnit).exec s = (.ok (), t) := rfl

@[simp]
theorem exec_modify (f : Site → Site) (s : Site) :
    (modify f : Service PUnit).exec s = (.ok (), f s) := rfl

@[simp]
theorem exec_settle (r : Except Failure α) (s : Site) : (settle r).exec s = (r, s) := by
  cases r <;> rfl

@[simp]
theorem exec_ask (q : Store → α) (s : Site) : (ask q).exec s = (.ok (q s.store), s) := rfl

@[simp]
theorem exec_log (e : Event) (s : Site) : (log e).exec s = (.ok (), s.noting [e]) := rfl

@[simp]
theorem exec_update (f : Store → Store) (s : Site) :
    (update f).exec s = (.ok (), { s with store := f s.store }) := rfl

theorem exec_write (op : Store → Timestamp → Except Failure (α × Store)) (s : Site) :
    (write op).exec s = match op s.store s.clock with
      | .ok (a, store) => (.ok a, { s with store })
      | .error e => (.error e, s) := by
  unfold write
  rw [exec_get_bind]
  rcases h : op s.store s.clock with e | ⟨a, store⟩ <;> rfl

theorem exec_atomically (x : Service α) (s : Site) :
    (atomically x).exec s = match x.exec s with
      | (.ok a, t) => (.ok a, t)
      | (.error e, t) => (.error e, { t with store := s.store }) := by
  unfold atomically
  rw [exec_get_bind, exec_tryCatch]
  rcases x.exec s with ⟨e | a, t⟩ <;> rfl

/-! ### Lists of actions -/

/-- Logging events one after another. -/
theorem exec_forM_log (events : List Event) (s : Site) :
    (events.forM log).exec s = (.ok (), s.noting events) := by
  induction events generalizing s with
  | nil => simp
  | cons e rest ih =>
    show (log e >>= fun _ => rest.forM log).exec s = _
    rw [exec_log_bind, ih, Site.noting_noting]
    rfl

/-- Actions that only log, on every site, do so one after another. -/
theorem exec_mapM_noting {f : α → Service β} {g : α → β} {events : α → List Event}
    {items : List α} (h : ∀ a ∈ items, ∀ s, (f a).exec s = (.ok (g a), s.noting (events a)))
    (s : Site) :
    (items.mapM f).exec s = (.ok (items.map g), s.noting (items.flatMap events)) := by
  -- the site is generalised: every action starts where the log of those before it ends
  induction items generalizing s with
  | nil => simp
  | cons a rest ih =>
    rw [List.mapM_cons, exec_bind_ok (h a List.mem_cons_self s),
      exec_bind_ok (ih (fun b hb => h b (List.mem_cons_of_mem _ hb)) _), exec_pure,
      Site.noting_noting]
    rfl

/-- Settling is the same before and after two computations are joined. -/
theorem settle_bind (r : Except Failure α) (f : α → Except Failure β) :
    settle (r >>= f) = settle r >>= fun a => settle (f a) := by
  cases r <;> rfl

theorem filterAuxM_settle (p : α → Except Failure Bool) (items found : List α) :
    items.filterAuxM (fun a => settle (p a)) found = settle (items.filterAuxM p found) := by
  -- `filterM` carries the items that it has found so far, so the statement is for any of them
  induction items generalizing found with
  | nil => rfl
  | cons a rest ih =>
    rw [List.filterAuxM, List.filterAuxM, settle_bind]
    simp only [ih]

/-- Filtering by computations that may fail is such a computation itself. -/
theorem filterM_settle (p : α → Except Failure Bool) (items : List α) :
    items.filterM (fun a => settle (p a)) = settle (items.filterM p) := by
  rw [List.filterM, List.filterM, filterAuxM_settle, settle_bind]
  rfl

/-! ### Frames -/

/-- A relation between the sites before and after an action that holds of doing nothing and of one
action after another. -/
structure Frame where
  rel : Site → Site → Prop
  refl : ∀ s, rel s s
  trans : ∀ {s t u}, rel s t → rel t u → rel s u

namespace Frame

variable (F : Frame) {s : Site} {x : Service α}

/-- An action keeps a frame from a site on. -/
def KeepsAt (x : Service α) (s : Site) : Prop := F.rel s (x.exec s).2

/-- An action keeps a frame on every site. -/
def Keeps (x : Service α) : Prop := ∀ s, F.KeepsAt x s

variable {F}

theorem KeepsAt.bind {f : α → Service β} (hx : F.KeepsAt x s)
    (hf : ∀ a t, x.exec s = (.ok a, t) → F.KeepsAt (f a) t) : F.KeepsAt (x >>= f) s := by
  unfold KeepsAt at *
  rw [exec_bind]
  rcases h : x.exec s with ⟨e | a, t⟩
  · rw [h] at hx
    exact hx
  · rw [h] at hx
    -- only the sites on which `x` really hands over to `f` matter
    exact F.trans hx (hf a t h)

theorem KeepsAt.tryCatch {h : Failure → Service α} (hx : F.KeepsAt x s)
    (hh : ∀ e t, x.exec s = (.error e, t) → F.KeepsAt (h e) t) :
    F.KeepsAt (tryCatch x h) s := by
  unfold KeepsAt at *
  rw [exec_tryCatch]
  rcases hrun : x.exec s with ⟨e | a, t⟩
  · rw [hrun] at hx
    exact F.trans hx (hh e t hrun)
  · rw [hrun] at hx
    exact hx

theorem keeps_pure (a : α) : F.Keeps (pure a : Service α) := fun s => F.refl s

theorem keeps_throw (e : Failure) : F.Keeps (throw e : Service α) := fun s => F.refl s

theorem keeps_settle (r : Except Failure α) : F.Keeps (settle r) := by
  intro s
  rw [KeepsAt, exec_settle]
  exact F.refl s

theorem keeps_ask (q : Store → α) : F.Keeps (ask q) := fun s => F.refl s

theorem keeps_get : F.Keeps (get : Service Site) := fun s => F.refl s

/-- Writing keeps a frame that relates the store to what is written. -/
theorem keepsAt_write {op : Store → Timestamp → Except Failure (α × Store)}
    (h : ∀ a store, op s.store s.clock = .ok (a, store) → F.rel s { s with store }) :
    F.KeepsAt (write op) s := by
  unfold KeepsAt
  rw [exec_write]
  rcases hop : op s.store s.clock with e | ⟨a, store⟩
  · exact F.refl s
  · exact h a store hop

theorem Keeps.bind {f : α → Service β} (hx : F.Keeps x) (hf : ∀ a, F.Keeps (f a)) :
    F.Keeps (x >>= f) :=
  fun s => (hx s).bind fun a t _ => hf a t

theorem Keeps.map {f : α → β} (hx : F.Keeps x) : F.Keeps (f <$> x) := by
  intro s
  rw [KeepsAt, exec_map]
  exact hx s

theorem Keeps.tryCatch {h : Failure → Service α} (hx : F.Keeps x) (hh : ∀ e, F.Keeps (h e)) :
    F.Keeps (tryCatch x h) :=
  fun s => (hx s).tryCatch fun e t _ => hh e t

/-- The frame of all that leaves a view of the site as it is. -/
def fixing {γ : Type} (view : Site → γ) : Frame :=
  ⟨fun s t => view t = view s, fun _ => rfl, fun h h' => h'.trans h⟩

/-! ### What follows an action -/

variable (F) in
/-- From a site on, an action does what another one does, and after it no more than the frame
allows. -/
def Follows (x : Service β) (y : Service α) (s : Site) : Prop := F.rel (x.exec s).2 (y.exec s).2

variable {x : Service β} {y : Service α}

theorem follows_refl (x : Service α) (s : Site) : F.Follows x x s := F.refl _

theorem Follows.bind {γ : Type} {f : α → Service γ} (h : F.Follows x y s)
    (hf : ∀ a, F.Keeps (f a)) : F.Follows x (y >>= f) s := by
  unfold Follows at *
  rw [exec_bind]
  rcases hrun : y.exec s with ⟨e | a, t⟩
  · rw [hrun] at h
    exact h
  · rw [hrun] at h
    exact F.trans h (hf a t)

theorem Follows.tryCatch {g : Failure → Service α} (h : F.Follows x y s)
    (hg : ∀ e, F.Keeps (g e)) : F.Follows x (tryCatch y g) s := by
  unfold Follows at *
  rw [exec_tryCatch]
  rcases hrun : y.exec s with ⟨e | a, t⟩
  · rw [hrun] at h
    exact F.trans h (hg e t)
  · rw [hrun] at h
    exact h

/-- What follows an action that keeps the frame keeps it too. -/
theorem Follows.keepsAt (h : F.Follows x y s) (hx : F.KeepsAt x s) : F.KeepsAt y s :=
  F.trans hx h

end Frame

/-! ### Blindness -/

/-- An action that neither looks at the store nor changes it. -/
def Blind (x : Service α) : Prop :=
  ∀ s store, x.exec { s with store } = ((x.exec s).1, { (x.exec s).2 with store })

namespace Blind

variable {x : Service α}

theorem store_eq (hx : Blind x) (s : Site) : (x.exec s).2.store = s.store := by
  have h := hx s s.store
  rw [h]

theorem pure (a : α) : Blind (pure a : Service α) := fun _ _ => rfl

theorem throw (e : Failure) : Blind (throw e : Service α) := fun _ _ => rfl

theorem settle (r : Except Failure α) : Blind (settle r) := by
  intro s store
  rw [exec_settle, exec_settle]

theorem log (e : Event) : Blind (log e) := fun _ _ => rfl

theorem modify {f : Site → Site}
    (hf : ∀ s store, f { s with store } = { f s with store }) : Blind (modify f) := by
  intro s store
  rw [exec_modify, exec_modify, hf]

theorem bind {f : α → Service β} (hx : Blind x) (hf : ∀ a, Blind (f a)) : Blind (x >>= f) := by
  intro s store
  rw [exec_bind, exec_bind, hx]
  rcases x.exec s with ⟨e | a, t⟩
  · rfl
  · exact hf a t store

/-- Looking at the site is blind if the store makes no difference to what follows. -/
theorem get_bind {f : Site → Service β} (hstore : ∀ s store, f { s with store } = f s)
    (hf : ∀ s, Blind (f s)) : Blind (get >>= f) := by
  intro s store
  rw [exec_get_bind, exec_get_bind, hstore]
  exact hf s s store

end Blind

end Service

end WorkspaceHome
