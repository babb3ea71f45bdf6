import WorkspaceHome.Config.Basic
import WorkspaceHome.Presentation

/-!
# Configurations as values

The form in which a configuration is listed: each setting under its name, and only those that its
stage defines.
-/

namespace WorkspaceHome.Config

/-- The one entry of settings that can have several. -/
def defaultEntry (members : List (String × String)) (more : List (String × Json)) : Json :=
  .object [("default", .object (members.map (fun (k, v) => (k, .text v)) ++ more))]

/-- A database as a value. -/
def Database.toJson : Database → Json
  | .memory => defaultEntry [("ENGINE", "django.db.backends.sqlite3"), ("NAME", ":memory:")] []
  | .server d =>
    defaultEntry
      [("ENGINE", "django.db.backends.postgresql"), ("NAME", d.name), ("USER", d.user),
        ("PASSWORD", d.password), ("HOST", d.host), ("PORT", d.port)]
      [("CONN_MAX_AGE", .int 60), ("OPTIONS", .object [("options", .text "-c search_path=public")])]

/-- A cache as a value. -/
def CacheBackend.toJson : CacheBackend → Json
  | .inProcess name =>
    defaultEntry [("BACKEND", "django.core.cache.backends.locmem.LocMemCache"),
      ("LOCATION", name)] []
  | .shared address =>
    defaultEntry [("BACKEND", "django.core.cache.backends.redis.RedisCache"),
      ("LOCATION", address), ("KEY_PREFIX", "homepage")] []

/-- The settings that secure connections. -/
def Security.members (s : Security) : List (String × Json) :=
  [("SECURE_SSL_REDIRECT", .bool s.redirectsToSecure),
    ("SESSION_COOKIE_SECURE", .bool s.secureCookies),
    ("CSRF_COOKIE_SECURE", .bool s.secureCookies)] ++
  if s.isStrict then
    [("SECURE_HSTS_SECONDS", .int 31536000), ("SECURE_HSTS_INCLUDE_SUBDOMAINS", .bool true),
      ("SECURE_HSTS_PRELOAD", .bool true), ("SECURE_CONTENT_TYPE_NOSNIFF", .bool true),
      ("SESSION_COOKIE_HTTPONLY", .bool true), ("X_FRAME_OPTIONS", .text "DENY")]
  else []

/-- The ways in which answers are rendered. -/
def renderers (c : Config) : List String :=
  "rest_framework.renderers.JSONRenderer" ::
    if c.isBrowsable then ["rest_framework.renderers.BrowsableAPIRenderer"] else []

/-- A list of texts as a value. -/
def texts (items : List String) : Json := .list (items.map Json.text)

/-- A configuration as a value. -/
def toJson (c : Config) : Json :=
  .object
    ([("SECRET_KEY", .text c.secretKey), ("ALLOWED_HOSTS", texts c.allowedHosts),
      ("APP_VERSION", .text c.appVersion), ("INSTANCE_ID", .text c.instanceId),
      ("RELEASE_NOTES_URL", .text c.releaseNotesUrl),
      ("RELEASE_NOTES_TIMEOUT_SECONDS", .float c.releaseNotesTimeout),
      ("RELEASE_NOTES_CACHE_SECONDS", .int c.releaseNotesCacheSeconds),
      ("RECENTLY_USED_LIMIT", .int c.recentLimit), ("CACHES", c.cache.toJson),
      ("DATABASES", c.database.toJson), ("root_log_level", .text c.rootLogLevel),
      ("renderers", texts c.renderers), ("api_version", .text c.apiVersion)] ++
      (c.debug.map fun d => ("DEBUG", .bool d)).toList ++
      (c.security.map Security.members).getD [])

end WorkspaceHome.Config
