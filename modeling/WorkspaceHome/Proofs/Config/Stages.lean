import Mathlib.Tactic.SplitIfs
import WorkspaceHome.Config.Basic
import WorkspaceHome.Proofs.Fallible

/-!
# Stages of a configuration

Every stage starts from the configuration that holds for all of them (`base_eq_ok_iff`) and overlays
some settings. What a stage reads again it reads in the same way, so that an overlay can fail only
for a setting of its own: in production for hosts that are not named, and in production and in
development for a text that is no truth value. Whatever is not overlaid stays as it is
(`stages_refine_base`).
-/

namespace WorkspaceHome.Config

/-! ### Reading an environment -/

namespace Environment

variable {env : Environment} {name s : String} {α : Type} {read : String → Option α}
  {default a : α} {b : Bool}

/-- A text that stands for a truth value: one of six words for each, in letters of any size, and the
empty text for `false`. -/
inductive IsFlag : String → Bool → Prop where
  | empty : IsFlag "" false
  | yes {s : String} (h : s.map Char.toLower ∈ ["y", "yes", "t", "true", "on", "1"]) : IsFlag s true
  | no {s : String} (h : s.map Char.toLower ∈ ["n", "no", "f", "false", "off", "0"]) :
    IsFlag s false

/-- The truth value that a name stands for: a default if it has no text. -/
def Tells (env : Environment) (name : String) (default b : Bool) : Prop :=
  match env.get? name with
  | none => b = default
  | some s => IsFlag s b

theorem flag?_eq_some_iff : flag? s = some b ↔ IsFlag s b := by
  constructor
  -- the three tests come in the order in which a flag is read
  · intro h
    unfold flag? at h
    dsimp only at h
    split_ifs at h with hempty hyes hno
    · obtain rfl := Option.some.inj h
      rw [hempty]
      exact .empty
    · obtain rfl := Option.some.inj h
      exact .yes (by simpa using hyes)
    · obtain rfl := Option.some.inj h
      exact .no (by simpa using hno)
  · intro h
    cases h with
    | empty => rfl
    | yes h =>
      have hne : s ≠ "" := by
        rintro rfl
        exact absurd h (by decide +kernel)
      simp only [flag?, if_neg hne, List.contains_iff_mem, if_pos h]
    | no h =>
      have hne : s ≠ "" := by
        rintro rfl
        exact absurd h (by decide +kernel)
      -- no word stands for both values
      have hyes : s.map Char.toLower ∉ ["y", "yes", "t", "true", "on", "1"] := by
        have hdisjoint : ∀ word ∈ ["n", "no", "f", "false", "off", "0"],
            word ∉ ["y", "yes", "t", "true", "on", "1"] := by decide
        exact hdisjoint _ h
      simp only [flag?, if_neg hne, List.contains_iff_mem, if_neg hyes, if_pos h]

theorem required_eq_ok_iff : env.required name = .ok s ↔ env.get? name = some s := by
  unfold required
  cases env.get? name <;> simp

theorem cast_eq_ok_iff : cast read s = .ok a ↔ read s = some a := by
  unfold cast
  cases read s <;> simp

theorem value_of_none (h : env.get? name = none) : env.value name read default = .ok default := by
  unfold value
  rw [h]

theorem value_of_some (h : env.get? name = some s) :
    env.value name read default = cast read s := by
  unfold value
  rw [h]

theorem value_flag_eq_ok_iff {default : Bool} :
    env.value name flag? default = .ok b ↔ env.Tells name default b := by
  unfold Tells
  cases h : env.get? name with
  | none => rw [value_of_none h, Except.ok.injEq, eq_comm]
  | some s => rw [value_of_some h, cast_eq_ok_iff, flag?_eq_some_iff]

/-- A name stands for a truth value unless it has a text that is none. -/
theorem exists_tells_iff (default : Bool) : (∃ b, env.Tells name default b) ↔
    ∀ s, env.get? name = some s → ∃ b, IsFlag s b := by
  unfold Tells
  cases env.get? name <;> simp

theorem get?_withDefault (env : Environment) (name s other : String) :
    (env.withDefault name s).get? other =
      if other = name then some ((env.get? name).getD s) else env.get? other := by
  unfold withDefault
  split_ifs with hthere heq heq
  · subst heq
    exact (Option.some_get hthere).symm.trans (by rw [Option.get_eq_getD])
  · rfl
  · have hnone : env.get? other = none := by simpa [heq] using hthere
    subst heq
    rw [hnone]
    unfold get? at hnone ⊢
    rw [List.find?_append, Option.map_eq_none_iff.mp hnone]
    simp
  · unfold get?
    rw [List.find?_append, List.find?_singleton, if_neg (by simpa using Ne.symm heq),
      Option.or_none]

end Environment

open Environment

variable {env : Environment} {b c : Config}

/-! ### What holds for every stage -/

/-- **When the configuration that holds for every stage is read**, and what it is. -/
theorem base_eq_ok_iff : base env = .ok b ↔
    ∃ secretKey allowedHosts releaseNotesTimeout releaseNotesCacheSeconds recentLimit,
      env.get? "SECRET_KEY" = some secretKey ∧
      env.value "ALLOWED_HOSTS" WordList.read? localHosts = .ok allowedHosts ∧
      env.value "RELEASE_NOTES_TIMEOUT_SECONDS" Numeral.binary64? (.ofRatio false 5 1) =
        .ok releaseNotesTimeout ∧
      env.value "RELEASE_NOTES_CACHE_SECONDS" Numeral.int? 3600 = .ok releaseNotesCacheSeconds ∧
      env.value "RECENTLY_USED_LIMIT" Numeral.int? 20 = .ok recentLimit ∧
      b = { secretKey, allowedHosts, releaseNotesTimeout, releaseNotesCacheSeconds, recentLimit
            appVersion := env.text "APP_VERSION" "1.0.0"
            instanceId := env.text "INSTANCE_ID" ""
            releaseNotesUrl := env.text "RELEASE_NOTES_URL" ""
            database := .server (serverOf env)
            apiVersion := env.text "APP_VERSION" "1.0.0" } := by
  unfold base
  simp only [bind_eq_ok_iff, required_eq_ok_iff]
  constructor
  · rintro ⟨secretKey, hsecret, hosts, hhosts, timeout, htimeout, seconds, hseconds, limit, hlimit,
      h⟩
    exact ⟨secretKey, hosts, timeout, seconds, limit, hsecret, hhosts, htimeout, hseconds, hlimit,
      (Except.ok.inj h).symm⟩
  · rintro ⟨secretKey, hosts, timeout, seconds, limit, hsecret, hhosts, htimeout, hseconds, hlimit,
      rfl⟩
    exact ⟨secretKey, hsecret, hosts, hhosts, timeout, htimeout, seconds, hseconds, limit, hlimit,
      rfl⟩

/-- Only what an environment gives to its names counts. -/
theorem base_congr {env' : Environment} (h : ∀ name, env.get? name = env'.get? name) :
    base env = base env' := by
  unfold base serverOf required value text
  simp only [h]

/-- Hosts that are named have been read. -/
theorem cast_allowedHosts (h : base env = .ok b) {s : String}
    (hs : env.get? "ALLOWED_HOSTS" = some s) : cast WordList.read? s = .ok b.allowedHosts := by
  obtain ⟨_, hosts, _, _, _, -, hhosts, -, -, -, rfl⟩ := base_eq_ok_iff.mp h
  rwa [value_of_some hs] at hhosts

/-- A lifetime of release notes that is given has been read. -/
theorem value_releaseNotesCacheSeconds (h : base env = .ok b) (default : Int) :
    env.value "RELEASE_NOTES_CACHE_SECONDS" Numeral.int? default = .ok
      (if (env.get? "RELEASE_NOTES_CACHE_SECONDS").isSome then b.releaseNotesCacheSeconds
        else default) := by
  obtain ⟨_, _, _, seconds, _, -, -, -, hseconds, -, rfl⟩ := base_eq_ok_iff.mp h
  cases hs : env.get? "RELEASE_NOTES_CACHE_SECONDS" with
  | none => exact value_of_none hs
  | some s =>
    rw [value_of_some hs] at hseconds ⊢
    exact hseconds

/-! ### Overlays -/

theorem load_production_eq_ok_iff : load env .production = .ok c ↔ ∃ b redirects,
    base env = .ok b ∧ (∃ s, env.get? "ALLOWED_HOSTS" = some s) ∧
      env.Tells "SECURE_SSL_REDIRECT" true redirects ∧
      c = { b with
            debug := some false
            security := some ⟨redirects, true, true⟩
            cache := .shared (env.text "REDIS_URL" "redis://localhost:6379/0") } := by
  show production env = .ok c ↔ _
  unfold production
  simp only [bind_eq_ok_iff, required_eq_ok_iff, value_flag_eq_ok_iff]
  constructor
  · rintro ⟨b, hb, s, hs, hosts, hhosts, redirects, hredirects, h⟩
    obtain rfl : b.allowedHosts = hosts :=
      Except.ok.inj ((cast_allowedHosts hb hs).symm.trans hhosts)
    exact ⟨b, redirects, hb, ⟨s, hs⟩, hredirects, (Except.ok.inj h).symm⟩
  · rintro ⟨b, redirects, hb, ⟨s, hs⟩, hredirects, rfl⟩
    exact ⟨b, hb, s, hs, b.allowedHosts, cast_allowedHosts hb hs, redirects, hredirects, rfl⟩

theorem load_development_eq_ok_iff : load env .development = .ok c ↔ ∃ b debug,
    base env = .ok b ∧ env.Tells "DEBUG" true debug ∧
      c = { b with
            debug := some debug
            allowedHosts := if debug then ["*"] else b.allowedHosts
            security := some ⟨false, false, false⟩
            releaseNotesCacheSeconds :=
              if (env.get? "RELEASE_NOTES_CACHE_SECONDS").isSome then b.releaseNotesCacheSeconds
              else 60
            rootLogLevel := "DEBUG"
            isBrowsable := true } := by
  show development env = .ok c ↔ _
  unfold development
  simp only [bind_eq_ok_iff, value_flag_eq_ok_iff]
  constructor
  · rintro ⟨b, hb, debug, hdebug, seconds, hseconds, h⟩
    rw [value_releaseNotesCacheSeconds hb] at hseconds
    obtain rfl := Except.ok.inj hseconds
    exact ⟨b, debug, hb, hdebug, (Except.ok.inj h).symm⟩
  · rintro ⟨b, debug, hb, hdebug, rfl⟩
    exact ⟨b, hb, debug, hdebug, _, value_releaseNotesCacheSeconds hb 60, rfl⟩

theorem load_testing_isOk_iff : (∃ c, load env .testing = .ok c) ↔
    ∃ b, base (env.withDefault "SECRET_KEY" "test-secret-key") = .ok b := by
  show (∃ c, testing env = .ok c) ↔ _
  unfold testing
  simp only [bind_eq_ok_iff]
  constructor
  · rintro ⟨c, b, hb, -⟩
    exact ⟨b, hb⟩
  · rintro ⟨b, hb⟩
    exact ⟨_, b, hb, rfl⟩

/-! ### Refinement -/

/-- A configuration has the settings of another one that neither production nor development
touches. -/
structure Shares (c b : Config) : Prop where
  secretKey : c.secretKey = b.secretKey
  appVersion : c.appVersion = b.appVersion
  instanceId : c.instanceId = b.instanceId
  releaseNotesUrl : c.releaseNotesUrl = b.releaseNotesUrl
  releaseNotesTimeout : c.releaseNotesTimeout = b.releaseNotesTimeout
  recentLimit : c.recentLimit = b.recentLimit
  database : c.database = b.database

/-- A configuration overlays another one for production: no faults are shown, the hosts are those
that are named, and connections are secured; whether to redirect is told by the environment. -/
structure IsProductionOf (env : Environment) (c b : Config) : Prop extends Shares c b where
  debug : c.debug = some false
  allowedHosts : c.allowedHosts = b.allowedHosts
  releaseNotesCacheSeconds : c.releaseNotesCacheSeconds = b.releaseNotesCacheSeconds
  security : ∃ redirects, c.security = some ⟨redirects, true, true⟩ ∧
    env.Tells "SECURE_SSL_REDIRECT" true redirects

/-- A configuration overlays another one for development: the environment tells whether faults are
shown; if so any host may be named, and else those of the other one. A lifetime of release notes
that is given stays. -/
structure IsDevelopmentOf (env : Environment) (c b : Config) : Prop extends Shares c b where
  debug : ∃ debug, c.debug = some debug ∧ env.Tells "DEBUG" true debug ∧
    c.allowedHosts = if debug then ["*"] else b.allowedHosts
  releaseNotesCacheSeconds : ∀ s, env.get? "RELEASE_NOTES_CACHE_SECONDS" = some s →
    c.releaseNotesCacheSeconds = b.releaseNotesCacheSeconds

/-- **Every stage refines the base**, in every environment. There is a configuration for production
if there is one for every stage, hosts are named, and what is said about redirections is a truth
value; there is one for development if there is one for every stage and what is said about `DEBUG`
is a truth value. Both are overlays in which nothing else differs. There is a configuration for
tests if there is one for every stage once the secret has a default. -/
theorem stages_refine_base (env : Environment) :
    ((∃ c, load env .production = .ok c) ↔
        (∃ b, load env .base = .ok b) ∧ (∃ s, env.get? "ALLOWED_HOSTS" = some s) ∧
          ∀ s, env.get? "SECURE_SSL_REDIRECT" = some s → ∃ redirects, IsFlag s redirects) ∧
      (∀ c, load env .production = .ok c → ∃ b, load env .base = .ok b ∧ IsProductionOf env c b) ∧
      ((∃ c, load env .development = .ok c) ↔
        (∃ b, load env .base = .ok b) ∧
          ∀ s, env.get? "DEBUG" = some s → ∃ debug, IsFlag s debug) ∧
      (∀ c, load env .development = .ok c → ∃ b, load env .base = .ok b ∧ IsDevelopmentOf env c b) ∧
      ∀ defaulted : Environment,
        (∀ name, defaulted.get? name =
          if name = "SECRET_KEY" then some ((env.get? name).getD "test-secret-key")
          else env.get? name) →
        ((∃ c, load env .testing = .ok c) ↔ ∃ b, load defaulted .base = .ok b) := by
  refine ⟨?_, fun c hc => ?_, ?_, fun c hc => ?_, fun defaulted hdefaulted => ?_⟩
  -- production needs the base, named hosts and a readable flag for redirections
  · rw [← exists_tells_iff true]
    constructor
    · rintro ⟨c, hc⟩
      obtain ⟨b, redirects, hb, hhosts, hredirects, -⟩ := load_production_eq_ok_iff.mp hc
      exact ⟨⟨b, hb⟩, hhosts, redirects, hredirects⟩
    · rintro ⟨⟨b, hb⟩, hhosts, redirects, hredirects⟩
      exact ⟨_, load_production_eq_ok_iff.mpr ⟨b, redirects, hb, hhosts, hredirects, rfl⟩⟩
  · obtain ⟨b, redirects, hb, -, hredirects, rfl⟩ := load_production_eq_ok_iff.mp hc
    exact ⟨b, hb, ⟨rfl, rfl, rfl, rfl, rfl, rfl, rfl⟩, rfl, rfl, rfl, redirects, rfl, hredirects⟩
  · rw [← exists_tells_iff true]
    constructor
    · rintro ⟨c, hc⟩
      obtain ⟨b, debug, hb, hdebug, -⟩ := load_development_eq_ok_iff.mp hc
      exact ⟨⟨b, hb⟩, debug, hdebug⟩
    · rintro ⟨⟨b, hb⟩, debug, hdebug⟩
      exact ⟨_, load_development_eq_ok_iff.mpr ⟨b, debug, hb, hdebug, rfl⟩⟩
  -- development differs from the base in what its overlay sets, and in nothing else
  · obtain ⟨b, debug, hb, hdebug, rfl⟩ := load_development_eq_ok_iff.mp hc
    refine ⟨b, hb, ⟨rfl, rfl, rfl, rfl, rfl, rfl, rfl⟩, ⟨debug, rfl, hdebug, rfl⟩, fun s hs => ?_⟩
    dsimp only
    rw [hs]
    rfl
  -- the base reads the environment by names alone, so giving the secret a default is enough
  · have hsame : base (env.withDefault "SECRET_KEY" "test-secret-key") = base defaulted := by
      refine base_congr fun name => ?_
      rw [get?_withDefault, hdefaulted]
      split_ifs with hname
      · rw [hname]
      · rfl
    rw [load_testing_isOk_iff, hsame]
    rfl

/-- An environment with hosts, an empty truth value and a lifetime. -/
def sampleEnvironment : Environment :=
  [("SECRET_KEY", "s"), ("ALLOWED_HOSTS", "home.example, 'a,b'"), ("SECURE_SSL_REDIRECT", ""),
    ("DEBUG", "OFF"), ("RELEASE_NOTES_CACHE_SECONDS", " 7_200 ")]

theorem stages_refine_base_sample :
    (∃ c b, load sampleEnvironment .production = .ok c ∧ load sampleEnvironment .base = .ok b ∧
        c.allowedHosts = b.allowedHosts ∧ c.security = some ⟨false, true, true⟩) ∧
      ∃ c b, load sampleEnvironment .development = .ok c ∧ load sampleEnvironment .base = .ok b ∧
        c.allowedHosts = b.allowedHosts ∧
        c.releaseNotesCacheSeconds = b.releaseNotesCacheSeconds := by
  have hbase : ∃ b, load sampleEnvironment .base = .ok b := isOk_iff.mp (by decide +kernel)
  obtain ⟨hproduction, hisProduction, hdevelopment, hisDevelopment, -⟩ :=
    stages_refine_base sampleEnvironment
  have hempty : IsFlag "" false := .empty
  have hoff : IsFlag "OFF" false := .no (by decide +kernel)
  refine ⟨?_, ?_⟩
  · obtain ⟨c, hc⟩ := hproduction.mpr
      ⟨hbase, ⟨_, rfl⟩, fun s hs => ⟨false, Option.some.inj hs ▸ hempty⟩⟩
    obtain ⟨b, hb, hover⟩ := hisProduction c hc
    obtain ⟨redirects, hsecurity, htells⟩ := hover.security
    -- the empty text stands for no redirections
    obtain rfl : redirects = false :=
      Option.some.inj ((flag?_eq_some_iff.mpr htells).symm.trans (flag?_eq_some_iff.mpr hempty))
    exact ⟨c, b, hc, hb, hover.allowedHosts, hsecurity⟩
  · obtain ⟨c, hc⟩ := hdevelopment.mpr
      ⟨hbase, fun s hs => ⟨false, Option.some.inj hs ▸ hoff⟩⟩
    obtain ⟨b, hb, hover⟩ := hisDevelopment c hc
    obtain ⟨debug, hdebug, htells, hhosts⟩ := hover.debug
    obtain rfl : debug = false :=
      Option.some.inj ((flag?_eq_some_iff.mpr htells).symm.trans (flag?_eq_some_iff.mpr hoff))
    exact ⟨c, b, hc, hb, hhosts, hover.releaseNotesCacheSeconds _ rfl⟩

end WorkspaceHome.Config
