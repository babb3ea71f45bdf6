import WorkspaceHome.Proofs.Service

/-!
# What an action sees of a site

A view shows a part of a site, such as its store or its feed. An action sees no more than that part
if from two sites that look alike it comes to the same outcome, and to two sites that look alike
(`SeesOnly`). This is closed under the ways of building actions.

Operations on the store see no more than the ground of a site: the store, the time and the settings.

Two actions agree on what is told of their results if from two sites that look alike they come to
outcomes of which the same is told, and to sites that look alike (`Agree`).
-/

namespace WorkspaceHome

/-- What an operation on the store depends on. -/
def Site.ground (s : Site) : Store × Timestamp × Settings := (s.store, s.clock, s.settings)

namespace Service

variable {α β γ : Type}

/-- An action that sees no more of a site than a view shows. -/
def SeesOnly (view : Site → γ) (x : Service α) : Prop :=
  ∀ s t, view s = view t → (x.exec s).1 = (x.exec t).1 ∧ view (x.exec s).2 = view (x.exec t).2

namespace SeesOnly

variable {view : Site → γ} {x : Service α}

theorem pure (a : α) : SeesOnly view (pure a : Service α) := fun _ _ h => ⟨rfl, h⟩

theorem throw (e : Failure) : SeesOnly view (throw e : Service α) := fun _ _ h => ⟨rfl, h⟩

theorem settle (r : Except Failure α) : SeesOnly view (settle r) := by
  intro s t h
  rw [exec_settle, exec_settle]
  exact ⟨rfl, h⟩

/-- Changing what the view shows, by no more than what it shows. -/
theorem modify_congr {f : Site → Site} (hview : ∀ s t, view s = view t → view (f s) = view (f t)) :
    SeesOnly view (modify f : Service PUnit) := by
  intro s t h
  rw [exec_modify, exec_modify]
  exact ⟨rfl, hview s t h⟩

/-- Changing what the view does not show. -/
theorem modify {f : Site → Site} (hview : ∀ s, view (f s) = view s) :
    SeesOnly view (modify f : Service PUnit) :=
  modify_congr fun s t h => by rw [hview, hview, h]

theorem bind {f : α → Service β} (hx : SeesOnly view x) (hf : ∀ a, SeesOnly view (f a)) :
    SeesOnly view (x >>= f) := by
  intro s t h
  obtain ⟨houtcome, hafter⟩ := hx s t h
  rw [exec_bind, exec_bind]
  -- both runs end here, or go on with the same `f a`
  rcases hs : x.exec s with ⟨e | a, s'⟩ <;> rcases ht : x.exec t with ⟨e' | a', t'⟩ <;>
    rw [hs, ht] at houtcome hafter <;> cases houtcome
  · exact ⟨rfl, hafter⟩
  · exact hf a s' t' hafter

/-- Looking at the site, if no more than the view makes a difference to what follows. -/
theorem get_bind {f : Site → Service β} (hview : ∀ s t, view s = view t → f s = f t)
    (hf : ∀ s, SeesOnly view (f s)) : SeesOnly view (get >>= f) := by
  intro s t h
  rw [exec_get_bind, exec_get_bind, hview s t h]
  exact hf t s t h

theorem tryCatch {h : Failure → Service α} (hx : SeesOnly view x)
    (hh : ∀ e, SeesOnly view (h e)) : SeesOnly view (tryCatch x h) := by
  intro s t hview
  obtain ⟨houtcome, hafter⟩ := hx s t hview
  rw [exec_tryCatch, exec_tryCatch]
  rcases hs : x.exec s with ⟨e | a, s'⟩ <;> rcases ht : x.exec t with ⟨e' | a', t'⟩ <;>
    rw [hs, ht] at houtcome hafter <;> cases houtcome
  · exact hh e s' t' hafter
  · exact ⟨rfl, hafter⟩

/-! ### Operations on the store -/

theorem ask (q : Store → α) : SeesOnly Site.ground (ask q) := by
  intro s t h
  rw [exec_ask, exec_ask, show s.store = t.store from congrArg Prod.fst h]
  exact ⟨rfl, h⟩

theorem write (op : Store → Timestamp → Except Failure (α × Store)) :
    SeesOnly Site.ground (write op) := by
  intro s t h
  have hstore : s.store = t.store := congrArg Prod.fst h
  have hclock : s.clock = t.clock := congrArg (fun ground => ground.2.1) h
  have hop : op s.store s.clock = op t.store t.clock := by rw [hstore, hclock]
  rw [exec_write, exec_write, hop]
  rcases op t.store t.clock with e | ⟨a, store⟩
  · exact ⟨rfl, h⟩
  · exact ⟨rfl, congrArg (fun ground => (store, ground.2)) h⟩

theorem atomically (hx : SeesOnly Site.ground x) : SeesOnly Site.ground (atomically x) := by
  intro s t h
  have hstore : s.store = t.store := congrArg Prod.fst h
  obtain ⟨houtcome, hafter⟩ := hx s t h
  rw [exec_atomically, exec_atomically, hstore]
  rcases hs : x.exec s with ⟨e | a, s'⟩ <;> rcases ht : x.exec t with ⟨e' | a', t'⟩ <;>
    rw [hs, ht] at houtcome hafter <;> cases houtcome
  · exact ⟨rfl, congrArg (fun ground => (t.store, ground.2)) hafter⟩
  · exact ⟨rfl, hafter⟩

end SeesOnly

/-! ### Actions that agree -/

/-- Two actions that come, from sites that look alike, to the same in so far as it is told, and to
sites that look alike. -/
def Agree {δ : Type} (view : Site → γ) (told : α → δ) (x y : Service α) : Prop :=
  ∀ s t, view s = view t →
    (x.exec s).1.map told = (y.exec t).1.map told ∧ view (x.exec s).2 = view (y.exec t).2

theorem SeesOnly.agree {δ : Type} {view : Site → γ} {x : Service α} (hx : SeesOnly view x)
    (told : α → δ) : Agree view told x x := fun s t h =>
  ⟨congrArg (Except.map told) (hx s t h).1, (hx s t h).2⟩

namespace Agree

variable {δ ε : Type} {view : Site → γ} {told : α → δ} {x y : Service α}

/-- An action that agrees with itself on its whole result sees no more than the view shows. -/
theorem seesOnly (h : Agree view id x x) : SeesOnly view x := by
  intro s t hview
  obtain ⟨houtcome, hafter⟩ := h s t hview
  rw [Except.map_id] at houtcome
  exact ⟨houtcome, hafter⟩

theorem pure {a b : α} (h : told a = told b) :
    Agree view told (pure a : Service α) (pure b : Service α) :=
  fun _ _ hview => ⟨congrArg Except.ok h, hview⟩

theorem bind {f g : α → Service β} {told' : β → ε} (hx : Agree view told x y)
    (hf : ∀ a b, told a = told b → Agree view told' (f a) (g b)) :
    Agree view told' (x >>= f) (y >>= g) := by
  intro s t h
  obtain ⟨houtcome, hafter⟩ := hx s t h
  rw [exec_bind, exec_bind]
  -- both runs end here, or go on with results of which the same is told
  rcases hs : x.exec s with ⟨e | a, s'⟩ <;> rcases ht : y.exec t with ⟨e' | b, t'⟩ <;>
    rw [hs, ht] at houtcome hafter
  · exact ⟨congrArg Except.error (Except.error.inj houtcome), hafter⟩
  · cases houtcome
  · cases houtcome
  · exact hf a b (Except.ok.inj houtcome) s' t' hafter

/-- What follows one and the same action. -/
theorem bind_same {x : Service α} (hx : SeesOnly view x) {f g : α → Service β} {told : β → δ}
    (hf : ∀ a, Agree view told (f a) (g a)) : Agree view told (x >>= f) (x >>= g) := by
  refine (hx.agree id).bind ?_
  rintro a _ rfl
  exact hf a

/-- Looking at two sites that look alike. -/
theorem get_bind {f g : Site → Service α}
    (hf : ∀ s t, view s = view t → Agree view told (f s) (g t)) :
    Agree view told (get >>= f) (get >>= g) := by
  intro s t h
  rw [exec_get_bind, exec_get_bind]
  exact hf s t h s t h

end Agree

end Service

end WorkspaceHome
