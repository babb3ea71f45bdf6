import WorkspaceHome.Config.Environment

/-!
# Configurations

A service is configured by its environment and by the stage at which it runs. `Config.base` holds
for every stage; `development`, `production` and `testing` start from it and overlay some settings.
In production the hosts have to be named, and everything goes over secure connections.
-/

namespace WorkspaceHome

/-- The parts of a connection to a database server. -/
structure Config.ServerDatabase where
  name : String
  user : String
  password : String
  host : String
  port : String
  deriving DecidableEq, Repr

/-- Where the rows are kept: at a server, or in memory. -/
inductive Config.Database where
  | server (database : ServerDatabase)
  | memory
  deriving DecidableEq, Repr

/-- Where the cache is: in the process, under a name, or shared at an address. -/
inductive Config.CacheBackend where
  | inProcess (name : String)
  | shared (address : String)
  deriving DecidableEq, Repr

/-- How connections are secured. The strict measures are on or off together. -/
structure Config.Security where
  redirectsToSecure : Bool
  secureCookies : Bool
  isStrict : Bool
  deriving DecidableEq, Repr

/-- A configuration. -/
structure Config where
  secretKey : String
  debug : Option Bool := none
  allowedHosts : List String
  appVersion : String
  instanceId : String
  releaseNotesUrl : String
  releaseNotesTimeout : Binary64
  releaseNotesCacheSeconds : Int
  recentLimit : Int
  security : Option Config.Security := none
  cache : Config.CacheBackend := .inProcess "homepage"
  database : Config.Database
  rootLogLevel : String := "INFO"
  /-- Whether answers can also be looked at as pages. -/
  isBrowsable : Bool := false
  /-- The version under which the interface is described. -/
  apiVersion : String
  deriving DecidableEq, Repr

namespace Config

open Environment

/-- The hosts that may be named when none are given. -/
def localHosts : List String := ["localhost", "127.0.0.1"]

/-- The database server of an environment. -/
def serverOf (env : Environment) : ServerDatabase :=
  { name := env.text "POSTGRES_DB" "homepage"
    user := env.text "POSTGRES_USER" "homepage"
    password := env.text "POSTGRES_PASSWORD" "homepage_pass"
    host := env.text "POSTGRES_HOST" "localhost"
    port := env.text "POSTGRES_PORT" "5432" }

/-- The configuration that holds for every stage. -/
def base (env : Environment) : Except Failure Config := do
  let secretKey ← env.required "SECRET_KEY"
  let allowedHosts ← env.value "ALLOWED_HOSTS" WordList.read? localHosts
  let releaseNotesTimeout ←
    env.value "RELEASE_NOTES_TIMEOUT_SECONDS" Numeral.binary64? (.ofRatio false 5 1)
  let releaseNotesCacheSeconds ← env.value "RELEASE_NOTES_CACHE_SECONDS" Numeral.int? 3600
  let recentLimit ← env.value "RECENTLY_USED_LIMIT" Numeral.int? 20
  return {
    secretKey, allowedHosts, releaseNotesTimeout, releaseNotesCacheSeconds, recentLimit
    appVersion := env.text "APP_VERSION" "1.0.0"
    instanceId := env.text "INSTANCE_ID" ""
    releaseNotesUrl := env.text "RELEASE_NOTES_URL" ""
    database := .server (serverOf env)
    apiVersion := env.text "APP_VERSION" "1.0.0" }

/-- The configuration for development: any host while faults are shown, no secure connections, and a
short life for release notes. -/
def development (env : Environment) : Except Failure Config := do
  let c ← base env
  let debug ← env.value "DEBUG" flag? true
  let releaseNotesCacheSeconds ← env.value "RELEASE_NOTES_CACHE_SECONDS" Numeral.int? 60
  return { c with
    debug := some debug
    allowedHosts := if debug then ["*"] else c.allowedHosts
    security := some ⟨false, false, false⟩
    releaseNotesCacheSeconds
    rootLogLevel := "DEBUG"
    isBrowsable := true }

/-- The configuration for production: named hosts, secure connections, and a shared cache. -/
def production (env : Environment) : Except Failure Config := do
  let c ← base env
  let allowedHosts ← cast WordList.read? (← env.required "ALLOWED_HOSTS")
  let redirects ← env.value "SECURE_SSL_REDIRECT" flag? true
  return { c with
    debug := some false
    allowedHosts
    security := some ⟨redirects, true, true⟩
    cache := .shared (env.text "REDIS_URL" "redis://localhost:6379/0") }

/-- The configuration for tests: everything in memory, no release notes, and fixed values where
tests look at them. -/
def testing (env : Environment) : Except Failure Config := do
  let c ← base (env.withDefault "SECRET_KEY" "test-secret-key")
  return { c with
    debug := some false
    database := .memory
    cache := .inProcess "homepage-tests"
    appVersion := "1.6.0"
    instanceId := "test-instance"
    releaseNotesUrl := ""
    recentLimit := 5
    rootLogLevel := "WARNING" }

/-- The stages at which a service runs. -/
inductive Stage where
  | base
  | development
  | production
  | testing
  deriving DecidableEq, Repr

/-- The stage of a name. -/
def Stage.named? : String → Option Stage
  | "base" => some .base
  | "development" => some .development
  | "production" => some .production
  | "test" => some .testing
  | _ => none

/-- The configuration of an environment at a stage. -/
def load (env : Environment) : Stage → Except Failure Config
  | .base => base env
  | .development => development env
  | .production => production env
  | .testing => testing env

end Config

end WorkspaceHome
