import WorkspaceHome.Proofs.Http.Homepage
import WorkspaceHome.Proofs.Operation.Caller

/-!
# Operations that get the release notes

The release notes are got by a call for them, and by a call or a request for the homepage of a user
whose workspaces can be shown (`Operation.newsAddress?`). Such an operation does to the newsroom
what getting the release notes does (`newsroom_act`), and its outcome tells what this has come to
(`tells_act`). Any other operation asks the feed for nothing, and leaves what the cache holds under
a key unless it writes to the cache (`shelf_act`).
-/

namespace WorkspaceHome

open Service

/-! ### Who gets the release notes -/

/-- Whether the workspaces of a viewer can be shown; only a user has any. -/
def Viewer.isShown (s : Store) : Viewer → Bool
  | .user u => (Homepage.shownTo s u.id).1.isOk
  | _ => false

/-- Whether a caller is a user whose workspaces can be shown. -/
def Caller.isShown (s : Store) (c : Caller) : Bool :=
  match c.user? s with
  | some u => Viewer.isShown s (.user u)
  | none => false

/-- The address at which an operation gets the release notes, if it does. -/
def Operation.newsAddress? (s : Site) : Operation → Option String
  | .call (.releaseNotes given) => some (given.getD s.settings.releaseNotesUrl)
  | .call (.homepage caller given) =>
    if caller.isShown s.store then some (given.getD s.settings.releaseNotesUrl) else none
  | .request message caller =>
    match caller.user? s.store with
    | some u =>
      if { message with viewer := .user u }.reaches = some .homepage ∧
          Viewer.isShown s.store (.user u) then
        some s.settings.releaseNotesUrl
      else none
    | none => none
  | _ => none

/-- Whether an operation writes to the cache from outside. -/
def Operation.writesCache : Operation → Bool
  | .surroundings (.writeCache ..) => true
  | _ => false

namespace Caller

variable {c : Caller} {s t : Site}

/-- Looking a caller up changes nothing, and a user who is found is the one behind the caller. -/
theorem user?_of_exec_viewer {viewer : Viewer} (h : c.viewer.exec s = (.ok viewer, t)) :
    t = s ∧ ∀ u, viewer = .user u → c.user? s.store = some u := by
  have hsame := Frame.keeps_viewer (F := Frame.unchanged) c s
  rw [Frame.KeepsAt, h] at hsame
  refine ⟨hsame, ?_⟩
  rintro u rfl
  rcases exec_viewer c s with ⟨u', huser, hexec⟩ | ⟨-, hnone⟩
  · rw [hexec] at h
    cases h
    exact huser
  · rw [h] at hnone
    exact absurd rfl (hnone u)

theorem isShown_of_exec_viewer {viewer : Viewer} (h : c.viewer.exec s = (.ok viewer, t)) :
    t = s ∧ viewer.isShown s.store = c.isShown s.store := by
  unfold isShown
  rcases exec_viewer c s with ⟨u, huser, hexec⟩ | ⟨huser, hnone⟩
  · rw [hexec] at h
    cases h
    rw [huser]
    exact ⟨rfl, rfl⟩
  · have hsame := Frame.keeps_viewer (F := Frame.unchanged) c s
    rw [Frame.KeepsAt, h] at hsame
    rw [h] at hnone
    rw [huser]
    cases viewer with
    | user u => exact absurd rfl (hnone u)
    | _ => exact ⟨hsame, rfl⟩

/-- A caller with workspaces to show is a user. -/
theorem exists_user_of_isShown (h : c.isShown s.store = true) :
    ∃ u groups, c.user? s.store = some u ∧ (Homepage.shownTo s.store u.id).1 = .ok groups := by
  unfold isShown at h
  cases huser : c.user? s.store with
  | none =>
    rw [huser] at h
    cases h
  | some u =>
    rw [huser] at h
    obtain ⟨groups, hgroups⟩ := isOk_iff.mp h
    exact ⟨u, groups, rfl, hgroups⟩

end Caller

/-! ### Operations that do not get them -/

/-- What the cache of a site holds under a key, and what the feed was asked for. -/
def Site.shelf (key : String) (s : Site) : Option Cache.Entry × List String :=
  (s.cache.find? key, s.requests)

theorem Cache.find?_put_of_ne {c c' : Cache} {now : Timestamp} {key key' : String} {value : Json}
    {lifetime : Lifetime} (hkey : key' ≠ key) (h : c.put now key value lifetime = .ok c') :
    c'.find? key' = c.find? key' := by
  have hother : (key == key') = false := beq_eq_false_iff_ne.mpr hkey.symm
  rw [ReleaseNotes.eq_of_put h]
  unfold Cache.find?
  dsimp only
  rw [List.find?_cons, hother]
  dsimp only
  rw [List.find?_filter]
  congr 2
  funext entry
  by_cases hentry : entry.1 = key'
  · simp [hentry, hkey]
  · simp [hentry]

/-- The frame of what leaves the shelf of a key. -/
def shelving (key : String) : Frame := Frame.fixing (Site.shelf key)

section shelving

variable {key : String}

theorem shelving_mild : (shelving key).Mild := Frame.fixing_mild fun _ _ _ _ => rfl

theorem shelving_ignoresContext : (shelving key).IgnoresContext := fun _ _ => rfl

theorem shelving_writable : (shelving key).Writable := Frame.fixing_writable fun _ _ _ _ => rfl

theorem shelving_probe (hkey : key ≠ Health.probeKey) : (shelving key).Keeps Health.probe := by
  intro s
  unfold Health.probe Frame.KeepsAt
  rw [exec_get_bind]
  cases hput : s.cache.put s.clock Health.probeKey Health.probeValue (.seconds 5) with
  | error fault => exact (shelving key).refl s
  | ok cache =>
    exact congrArg (fun entry => (entry, s.requests)) (Cache.find?_put_of_ne hkey hput)

/-- A homepage without workspaces to show leaves the shelf. -/
theorem shelving_build {viewer : Viewer} {s : Site} (h : viewer.isShown s.store = false)
    (url : Option String) : (shelving key).KeepsAt (Homepage.build viewer url) s := by
  unfold Frame.KeepsAt
  cases viewer with
  | user u =>
    rw [Homepage.exec_build]
    rcases hshown : Homepage.shownTo s.store u.id with ⟨e | groups, noted⟩
    · rfl
    · rw [Viewer.isShown, hshown] at h
      cases h
  | _ =>
    rw [Homepage.exec_build_of_no_user fun u hu => by cases hu]
    exact (shelving key).refl s

theorem shelving_serve (hkey : key ≠ Health.probeKey) {r : Http.Request} {s : Site}
    (h : r.reaches = some .homepage → r.viewer.isShown s.store = false) :
    (shelving key).KeepsAt (Http.serve r) s := by
  cases hreaches : r.reaches with
  | none => exact shelving_mild.serve_of_none shelving_ignoresContext hreaches s
  | some e =>
    have hview : (shelving key).KeepsAt (Http.view r e) { s with context := r.context } := by
      by_cases he : e = .homepage
      · subst he
        exact (Frame.homepageView_follows _ _).keepsAt
          (shelving_build (s := { s with context := r.context }) (h hreaches) none)
      · exact shelving_mild.view_of_ne shelving_writable.record shelving_writable.create
          (shelving_probe hkey) r he _
    exact (shelving key).trans (shelving_ignoresContext s r.context)
      ((shelving key).trans hview
        (shelving_mild.serve_of_some shelving_ignoresContext hreaches s))

/-- **An operation that does not get the release notes** and does not write to the cache asks the
feed for nothing, and leaves what the cache holds under the key. -/
theorem shelf_act (hkey : key ≠ Health.probeKey) {operation : Operation} {s : Site}
    (hnone : operation.newsAddress? s = none) (hwrites : operation.writesCache = false) :
    (operation.act.exec s).2.shelf key = s.shelf key := by
  show (shelving key).KeepsAt operation.act s
  cases operation with
  | rows operation => exact shelving_writable.rows operation s
  | surroundings operation =>
    refine Frame.keeps_surroundings (fun _ _ _ _ _ => rfl) operation ?_ s
    rintro value lifetime rfl
    cases hwrites
  | request message caller =>
    refine (Frame.keeps_viewer caller s).bind fun viewer t hviewer => ?_
    obtain ⟨rfl, hviewer⟩ := Caller.user?_of_exec_viewer hviewer
    refine (shelving_serve hkey fun hreaches => ?_).bind fun _ _ _ => Frame.keeps_pure _ _
    -- nobody but a user has workspaces to show
    cases viewer with
    | user u =>
      rw [Operation.newsAddress?, hviewer u rfl] at hnone
      dsimp only at hreaches hnone ⊢
      rw [hreaches] at hnone
      simpa using hnone
    | _ => rfl
  | call operation =>
    cases operation with
    | releaseNotes given => cases hnone
    | homepage caller given =>
      refine (Frame.keeps_viewer caller s).bind fun viewer t hviewer => ?_
      obtain ⟨rfl, hshown⟩ := Caller.isShown_of_exec_viewer hviewer
      refine (shelving_build ?_ given).bind fun _ _ _ => Frame.keeps_pure _ _
      rw [Operation.newsAddress?, ← hshown] at hnone
      simpa using hnone
    | _ =>
      exact shelving_mild.call shelving_writable.record shelving_writable.create _
        (fun _ => shelving_writable.ensureViewed) (fun h => by cases h) s

end shelving

/-! ### Operations that get them -/

open ReleaseNotes

/-- The homepage that a user is shown with given release notes, if it can be built. -/
def Homepage.showing (u : User) (releases : List Node) (s : Site) : Except Failure Homepage :=
  (shownTo s.store u.id).1 >>= fun groups =>
    ((Remembrance.ensureViewed (.user u)).exec s).1.map fun _ =>
      assembled u (s.store.dataOf? u.id) groups releases

/-- An outcome of an operation on a site tells what getting the release notes has come to: a call
for them has the same outcome, and a homepage shows them, or none if they cannot be had. -/
def Operation.Tells (operation : Operation) (s : Site) (news : Except Failure (List Node))
    (outcome : Except Failure Json) : Prop :=
  match operation with
  | .call (.releaseNotes _) => outcome = news.map fun nodes => .list (nodes.map Node.toJson)
  | .call (.homepage caller _) => ∀ u, caller.user? s.store = some u →
      outcome = (Homepage.showing u (news.toOption.getD []) s).map Homepage.toJson
  | .request message caller => ∀ u homepage id, caller.user? s.store = some u →
      Homepage.showing u (news.toOption.getD []) s = .ok homepage →
        Http.HeaderValue.sent message.id = .ok id → outcome = .ok
          { Http.respond (message.method.map Char.toUpper) 200 (some homepage.payload) with
            requestId := some id }.toJson
  | _ => True

namespace Homepage

theorem showing_congr {s t : Site} (h : s.ground = t.ground) (u : User) (releases : List Node) :
    showing u releases s = showing u releases t := by
  have hstore : s.store = t.store := congrArg Prod.fst h
  unfold showing
  rw [(Remembrance.seesOnly_ensureViewed (.user u) s t h).1, hstore]

/-- A homepage shows what getting the release notes comes to. -/
theorem outcome_build_eq_showing (u : User) (url : Option String) (s : Site) :
    ((build (.user u) url).exec s).1 = showing u
      (((nodesAt (url.getD s.settings.releaseNotesUrl)).exec s).1.toOption.getD []) s := by
  have hreleases (address : String) :
      releasesFrom address s = ((nodesAt address).exec s).1.toOption.getD [] := by
    unfold releasesFrom
    cases ((nodesAt address).exec s).1 <;> rfl
  rw [(outcome_build u url s).1, hreleases]
  rfl

end Homepage

namespace Operation

variable {operation : Operation} {s : Site} {url : String}

/-- The three ways of getting the release notes. -/
theorem cases_of_newsAddress? (h : operation.newsAddress? s = some url) :
    (∃ given, operation = .call (.releaseNotes given) ∧
        given.getD s.settings.releaseNotesUrl = url) ∨
      (∃ caller given u groups, operation = .call (.homepage caller given) ∧
        caller.user? s.store = some u ∧ (Homepage.shownTo s.store u.id).1 = .ok groups ∧
          given.getD s.settings.releaseNotesUrl = url) ∨
      ∃ message caller u groups, operation = .request message caller ∧
        { message with viewer := .user u }.reaches = some .homepage ∧
          caller.user? s.store = some u ∧ (Homepage.shownTo s.store u.id).1 = .ok groups ∧
            s.settings.releaseNotesUrl = url := by
  -- all other operations get none
  unfold newsAddress? at h
  split at h
  · rename_i given
    exact Or.inl ⟨given, rfl, Option.some.inj h⟩
  · rename_i caller given
    split_ifs at h with hshown
    obtain ⟨u, groups, huser, hgroups⟩ := Caller.exists_user_of_isShown hshown
    exact Or.inr (Or.inl ⟨caller, given, u, groups, rfl, huser, hgroups, Option.some.inj h⟩)
  · rename_i message caller
    split at h
    · rename_i u huser
      split_ifs at h with hget
      obtain ⟨hreaches, hshown⟩ := hget
      obtain ⟨groups, hgroups⟩ := isOk_iff.mp hshown
      exact Or.inr (Or.inr ⟨message, caller, u, groups, rfl, hreaches, huser, hgroups,
        Option.some.inj h⟩)
    · cases h
  · cases h

/-- **An operation that gets the release notes** does to the newsroom what getting them does. -/
theorem newsroom_act (h : operation.newsAddress? s = some url) :
    (operation.act.exec s).2.newsroom = ((nodesAt url).exec s).2.newsroom := by
  rcases cases_of_newsAddress? h with ⟨given, rfl, rfl⟩ |
    ⟨caller, given, u, groups, rfl, huser, hgroups, rfl⟩ |
    ⟨message, caller, u, groups, rfl, hreaches, huser, hgroups, rfl⟩
  · dsimp only [act]
    rw [exec_releaseNotes]
  · have hbuild := Homepage.newsroom_build u given s
    rw [hgroups] at hbuild
    dsimp only [act, ServiceCall.perform]
    rw [exec_bind_ok (Caller.exec_viewer_of_user? huser), exec_bind_pure]
    exact hbuild
  · have hserve := Http.newsroom_serve_homepage hreaches rfl s
    rw [hgroups] at hserve
    dsimp only [act]
    rw [exec_bind_ok (Caller.exec_viewer_of_user? huser), exec_bind_pure]
    dsimp only at hserve ⊢
    exact hserve

/-- **The outcome of an operation that gets the release notes** tells what getting them has come
to. -/
theorem tells_act (h : operation.newsAddress? s = some url) :
    operation.Tells s ((nodesAt url).exec s).1 (operation.act.exec s).1 := by
  rcases cases_of_newsAddress? h with ⟨given, rfl, rfl⟩ |
    ⟨caller, given, u, groups, rfl, huser, hgroups, rfl⟩ |
    ⟨message, caller, u, groups, rfl, hreaches, huser, hgroups, rfl⟩
  · dsimp only [act, Tells]
    rw [exec_releaseNotes]
  · intro viewing hviewing
    obtain rfl := Option.some.inj (huser.symm.trans hviewing)
    dsimp only [act, ServiceCall.perform]
    rw [exec_bind_ok (Caller.exec_viewer_of_user? huser), exec_bind_pure,
      Homepage.outcome_build_eq_showing u given s]
  · intro viewing homepage id hviewing hbuilt hid
    obtain rfl := Option.some.inj (huser.symm.trans hviewing)
    have hbuild := (Homepage.outcome_build_eq_showing u none s).trans hbuilt
    have hserve := Http.outcome_serve_homepage hreaches rfl hid hbuild
    dsimp only [act]
    rw [exec_bind_ok (Caller.exec_viewer_of_user? huser), exec_bind_pure, hserve]
    rfl

/-- What an outcome tells does not depend on what was noted or asked for before. -/
theorem Tells.of_cleared {news : Except Failure (List Node)} {outcome : Except Failure Json}
    (h : operation.Tells { s with log := [], requests := [] } news outcome) :
    operation.Tells s news outcome := by
  have hshowing (u : User) (releases : List Node) :
      Homepage.showing u releases { s with log := [], requests := [] } =
        Homepage.showing u releases s :=
    Homepage.showing_congr (s := { s with log := [], requests := [] }) (t := s) rfl u releases
  cases operation with
  | rows operation => trivial
  | surroundings operation => trivial
  | request message caller =>
    intro u homepage id huser hbuilt hid
    exact h u homepage id huser ((hshowing u _).trans hbuilt) hid
  | call operation =>
    cases operation with
    | releaseNotes given => exact h
    | homepage caller given =>
      intro u huser
      rw [← hshowing]
      exact h u huser
    | _ => trivial

end Operation

end WorkspaceHome
