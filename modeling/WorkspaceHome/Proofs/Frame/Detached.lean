import WorkspaceHome.Proofs.Service

/-!
# Actions apart from the store

A frame is mild if it does not mind the entries of the log, but for those that tell of a recorded
application. It is lenient if it minds neither the cache nor the addresses that the feed was asked
for either. A frame that minds of all this no more than a lenient one, and of the entries only those
that do not tell of the release notes, is distant.

An action is detached if it is blind and keeps all distant frames. What is detached is closed under
the ways of building actions, so that one walk through an action shows both.
-/

namespace WorkspaceHome

/-- Whether an event tells of a recorded application. -/
def Event.isRecord : Event → Bool
  | .recentApplicationRecorded .. => true
  | _ => false

/-- Whether an event tells of getting the release notes. -/
def Event.isNews : Event → Bool
  | .cacheReadFailed _ | .cacheEntryInvalid _ | .cacheWriteFailed _ | .releaseNotesFetched _
  | .feedStatusRefused .. | .feedFetchFailed .. | .feedPayloadInvalid _ => true
  | _ => false

theorem Event.isRecord_of_isNews {e : Event} (h : e.isNews = true) : e.isRecord = false := by
  cases e <;> first | rfl | cases h

namespace Service

/-! ### Mild, lenient and distant frames -/

namespace Frame

/-- A frame that does not mind what is noted, but for the records. -/
structure Mild (F : Frame) : Prop where
  entry : ∀ s e, e.isRecord = false → F.rel s (s.noting [e])

/-- A frame that does not mind what an operation leaves besides the store and its records. -/
structure Lenient (F : Frame) : Prop extends F.Mild where
  cache : ∀ s cache, F.rel s { s with cache }
  requests : ∀ s requests, F.rel s { s with requests }

/-- A frame that does not mind what getting the release notes leaves. -/
structure Distant (F : Frame) : Prop where
  news : ∀ s e, e.isNews = true → F.rel s (s.noting [e])
  cache : ∀ s cache, F.rel s { s with cache }
  requests : ∀ s requests, F.rel s { s with requests }

theorem Lenient.distant {F : Frame} (hF : F.Lenient) : F.Distant where
  news := fun s e he => hF.entry s e (Event.isRecord_of_isNews he)
  cache := hF.cache
  requests := hF.requests

/-- A frame that does not mind what is bound to the entries of the log. -/
def IgnoresContext (F : Frame) : Prop := ∀ s context, F.rel s { s with context }

namespace Mild

variable {F : Frame}

theorem noting (hF : F.Mild) {events : List Event} (h : ∀ e ∈ events, e.isRecord = false)
    (s : Site) : F.rel s (s.noting events) := by
  induction events generalizing s with
  | nil =>
    rw [Site.noting_nil]
    exact F.refl s
  | cons e rest ih =>
    obtain ⟨he, hrest⟩ := List.forall_mem_cons.mp h
    have htrans := F.trans (hF.entry s e he) (ih hrest (s.noting [e]))
    rwa [Site.noting_noting] at htrans

theorem log (hF : F.Mild) {e : Event} (h : e.isRecord = false) : F.Keeps (log e) :=
  fun s => hF.entry s e h

end Mild

end Frame

/-! ### Detached actions -/

variable {α β : Type}

/-- An action that has nothing to do with the store and keeps all distant frames. -/
structure Detached (x : Service α) : Prop where
  blind : Blind x
  keeps : ∀ {F : Frame}, F.Distant → F.Keeps x

namespace Detached

variable {x : Service α}

theorem pure (a : α) : Detached (pure a : Service α) :=
  ⟨Blind.pure a, fun _ => Frame.keeps_pure a⟩

theorem throw (e : Failure) : Detached (throw e : Service α) :=
  ⟨Blind.throw e, fun _ => Frame.keeps_throw e⟩

theorem settle (r : Except Failure α) : Detached (settle r) :=
  ⟨Blind.settle r, fun _ => Frame.keeps_settle r⟩

theorem log {e : Event} (h : e.isNews = true) : Detached (log e) :=
  ⟨Blind.log e, fun hF s => hF.news s e h⟩

theorem bind {f : α → Service β} (hx : Detached x) (hf : ∀ a, Detached (f a)) :
    Detached (x >>= f) :=
  ⟨hx.blind.bind fun a => (hf a).blind, fun hF => (hx.keeps hF).bind fun a => (hf a).keeps hF⟩

/-- Looking at the site is detached if the store makes no difference to what follows. -/
theorem get_bind {f : Site → Service β} (hstore : ∀ s store, f { s with store } = f s)
    (hf : ∀ s, Detached (f s)) : Detached (get >>= f) :=
  ⟨Blind.get_bind hstore fun s => (hf s).blind,
    fun hF => Frame.keeps_get.bind fun s => (hf s).keeps hF⟩

end Detached

end Service

end WorkspaceHome
