/-
# Settings

What the layers of settings, and after them the command line, leave open has a plain value. Everything
is checked once, in a fixed order, and the first value that cannot stand is reported with its key.
-/

import DynamicContent.Calendar.Zone
import DynamicContent.Engine.Setup
import DynamicContent.Program.Error
import DynamicContent.Program.Layer

namespace DynamicContent.Program

/-- How much is logged. -/
inductive LogLevel where
  | off
  | error
  | warn
  | info
  | debug
  | trace
deriving DecidableEq, Inhabited

/-- The levels with their names, from the most quiet one. -/
def LogLevel.named : List (String × LogLevel) :=
  [("off", off), ("error", error), ("warn", warn), ("info", info), ("debug", debug),
    ("trace", trace)]

/-- The name of a level. -/
def LogLevel.name (level : LogLevel) : String :=
  ((LogLevel.named.find? (·.2 = level)).map (·.1)).getD ""

/-- The level that a text denotes: its number from zero to five or its name in any letter case. The
empty text denotes errors alone. -/
def LogLevel.ofText? (s : String) : Option LogLevel :=
  let byNumber := (Number.nat64OfText? s.toList).bind fun n => LogLevel.named[n]?.map (·.2)
  byNumber.orElse fun _ =>
    if s.isEmpty then some error
    else (LogLevel.named.find? fun entry => Text.eqIgnoringCase entry.1 s).map (·.2)

/-- Where cached entries are. -/
inductive BackendKind where
  | memory
  | file
deriving DecidableEq, Inhabited

/-- The name of a kind of backend. -/
def BackendKind.name : BackendKind → String
  | memory => "memory"
  | file => "file"

/-- The settings of the cache. -/
structure CacheSettings where
  backend : BackendKind
  directory : String
  keyStart : String
  defaultLifetime : Nat
  capacity : Nat
  remembersQueries : Bool
  queryLifetime : Nat

/-- The settings of the site. -/
structure SiteSettings where
  home : Url
  site : Url
  admin : Url
  settingsPath : String
  zone : Calendar.Zone
  tag : String

/-- All settings. -/
structure Settings where
  logLevel : LogLevel
  logsJson : Bool
  cache : CacheSettings
  limits : Limits
  allowed : List String
  site : SiteSettings

/-! ## What the layers say -/

/-- Settings before they are checked. -/
structure SettingsDraft where
  logLevel : Option String
  logsJson : Option Bool
  backend : Option String
  directory : Option String
  keyStart : Option String
  defaultLifetime : Option Nat
  capacity : Option Nat
  remembersQueries : Option Bool
  queryLifetime : Option Nat
  maxPasses : Option Nat
  maxDepth : Option Nat
  lookupLifetime : Option Nat
  allowed : List String
  home : Option String
  site : Option String
  admin : Option String
  settingsPath : Option String
  zone : Option String
  tag : Option String

namespace SettingsDraft

/-- The value of a field that need not be there. -/
def field? {α : Type} (read : Setting → Option α) (section_ : SortedMap Setting) (name : String) :
    Option (Option α) :=
  Setting.optional read ((section_.find? name).getD .absent)

/-- The sections with the names of their fields in order. -/
def sections : List (String × List String) := [
  ("logging", ["level", "json"]),
  ("cache", ["backend", "directory", "prefix", "default_ttl_seconds", "memory_capacity", "query_cache",
    "query_ttl_seconds"]),
  ("resolver", ["max_passes", "max_depth", "lookup_cache_ttl_seconds"]),
  ("functions", ["allowlist"]),
  ("site", ["home_url", "site_url", "admin_url", "settings_path", "timezone", "shortcode_tag"])]

/-- A section; one that is missing is empty. -/
def section? (layers : Setting) (name : String) : Option (SortedMap Setting) :=
  match layers.fields.find? name with
  | none => some []
  | some v => v.section? ((SortedMap.find? name sections).getD [])

/-- What the layers say, if all values are of kinds that make sense. -/
def ofLayers? (layers : Setting) : Option SettingsDraft := do
  let logging ← section? layers "logging"
  let cache ← section? layers "cache"
  let resolver ← section? layers "resolver"
  let functions ← section? layers "functions"
  let site ← section? layers "site"
  some {
    logLevel := ← field? Setting.toText? logging "level"
    logsJson := ← field? Setting.toFlag? logging "json"
    backend := ← field? Setting.toText? cache "backend"
    directory := ← field? Setting.toText? cache "directory"
    keyStart := ← field? Setting.toText? cache "prefix"
    defaultLifetime := ← field? Setting.toNat? cache "default_ttl_seconds"
    capacity := ← field? Setting.toNat? cache "memory_capacity"
    remembersQueries := ← field? Setting.toFlag? cache "query_cache"
    queryLifetime := ← field? Setting.toNat? cache "query_ttl_seconds"
    maxPasses := ← field? Setting.toNat? resolver "max_passes"
    maxDepth := ← field? Setting.toNat? resolver "max_depth"
    lookupLifetime := ← field? Setting.toNat? resolver "lookup_cache_ttl_seconds"
    allowed := ← match functions.find? "allowlist" with
      | none => some []
      | some v => v.toTexts?
    home := ← field? Setting.toText? site "home_url"
    site := ← field? Setting.toText? site "site_url"
    admin := ← field? Setting.toText? site "admin_url"
    settingsPath := ← field? Setting.toText? site "settings_path"
    zone := ← field? Setting.toText? site "timezone"
    tag := ← field? Setting.toText? site "shortcode_tag" }

end SettingsDraft

/-! ## Checks -/

/-- A value that passes a check, or a refusal of the key. -/
def orRefuse {α : Type} (key reason : String) : Option α → Except SettingsError α
  | some a => .ok a
  | none => .error (.refused key reason)

/-- Refuses a key unless a condition holds. -/
def ensure (key reason : String) (holds : Bool) : Except SettingsError Unit :=
  if holds then .ok () else .error (.refused key reason)

/-- A number that is not zero. -/
def positive (key : String) (n : Nat) : Except SettingsError Nat :=
  if n = 0 then .error (.refused key "must be greater than zero") else .ok n

/-- A base address: one for the web, with a slash at its end so that paths can be put below it. -/
def baseUrl (key raw : String) : Except SettingsError Url :=
  match Url.parse (SiteUrls.withSlash (Text.trim raw)) with
  | .error e => .error (.refused key e.message)
  | .ok url =>
    if url.scheme = "http" || url.scheme = "https" then .ok url
    else .error (.refused key "URL must use http or https")

/-- The level of the log. -/
def checkLevel (raw : Option String) : Except SettingsError LogLevel :=
  match raw with
  | none => .ok .info
  | some s =>
    orRefuse "logging.level" ("failed to parse: error parsing level filter: expected one of \"off\", "
      ++ "\"error\", \"warn\", \"info\", \"debug\", \"trace\", or a number 0-5") (LogLevel.ofText? s)

/-- The kind of backend. -/
def checkBackend (raw : Option String) : Except SettingsError BackendKind :=
  match raw.map fun s => Text.asciiLower (Text.trim s) with
  | none | some "memory" => .ok .memory
  | some "file" => .ok .file
  | some other =>
    .error (.refused "cache.backend" ("unknown backend `" ++ other ++ "` (expected memory or file)"))

/-- The settings of the cache. -/
def checkCache (draft : SettingsDraft) : Except SettingsError CacheSettings := do
  let backend ← checkBackend draft.backend
  let directory := draft.directory.getD ".weft-cache"
  ensure "cache.directory" "path must not be empty" (!directory.isEmpty)
  let keyStart := draft.keyStart.getD "weft_"
  ensure "cache.prefix" "prefix must not contain path separators"
    (!keyStart.toList.any fun c => c == '/' || c == '\\')
  ensure "cache.prefix" "prefix must contain at least one key character"
    (!(Text.toKey keyStart).isEmpty)
  let defaultLifetime ← positive "cache.default_ttl_seconds" (draft.defaultLifetime.getD 86400)
  let capacity ← positive "cache.memory_capacity" (draft.capacity.getD 1024)
  return { backend, directory, keyStart, defaultLifetime, capacity
           remembersQueries := draft.remembersQueries.getD true
           queryLifetime := draft.queryLifetime.getD Setup.plainQueryLifetime }

/-- The bounds. -/
def checkLimits (draft : SettingsDraft) : Except SettingsError Limits := do
  return ⟨← positive "resolver.max_passes" (draft.maxPasses.getD Limits.plain.maxPasses),
    ← positive "resolver.max_depth" (draft.maxDepth.getD Limits.plain.maxDepth),
    draft.lookupLifetime.getD Limits.plain.lookupLifetime⟩

/-- The time zone. -/
def checkZone (raw : Option String) : Except SettingsError Calendar.Zone :=
  match raw.map Text.trim with
  | none | some "" => .ok .utc
  | some name =>
    orRefuse "site.timezone" "unknown time zone: failed to parse timezone" (Calendar.Zone.find? name)

/-- The settings of the site. The administration is below the site unless it is said to be elsewhere. -/
def checkSite (draft : SettingsDraft) : Except SettingsError SiteSettings := do
  let home ← baseUrl "site.home_url" (draft.home.getD "http://localhost/")
  let site ← match draft.site with
    | some raw => baseUrl "site.site_url" raw
    | none => pure home
  let admin ← match draft.admin with
    | some raw => baseUrl "site.admin_url" raw
    | none => pure (site.child "admin/")
  let zone ← checkZone draft.zone
  let tag := (draft.tag.map fun s => Text.asciiLower (Text.trim s)).getD Setup.plainTag
  ensure "site.shortcode_tag" "tag must be non-empty and contain only letters, digits, `_` or `-`"
    (Setting.isKey tag)
  return ⟨home, site, admin, draft.settingsPath.getD SiteUrls.plainSettingsPath, zone, tag⟩

namespace Settings

/-- The settings of a draft that passes all checks. -/
def ofDraft (draft : SettingsDraft) : Except SettingsError Settings := do
  let logLevel ← checkLevel draft.logLevel
  let cache ← checkCache draft
  let limits ← checkLimits draft
  let site ← checkSite draft
  return ⟨logLevel, draft.logsJson.getD false, cache, limits, draft.allowed, site⟩

/-- How an engine with these settings is to be set up, at some time. -/
def setup (settings : Settings) (now : Int) : Setup :=
  let site := settings.site
  let plain := (Setup.plain now).withTag site.tag
  { plain with
    urls := (SiteUrls.ofBases site.home site.site site.admin).withSettingsPath site.settingsPath
    zone := site.zone
    limits := settings.limits
    allowed := settings.allowed
    remembersQueries := settings.cache.remembersQueries
    queryLifetime := settings.cache.queryLifetime }

/-- A cache with these settings whose entries are where they are wanted. -/
def openCache (settings : Settings) (now : Int) : Cache.Cache Cache.Store :=
  ⟨Cache.Store.backend now, settings.cache.keyStart⟩

/-- A place for cached entries, with what there is already in the directory for them. -/
def store (settings : Settings) (directory : Cache.Directory) : Cache.Store :=
  match settings.cache.backend with
  | .memory => .memory (.empty settings.cache.capacity)
  | .file => .file { Cache.FileStore.empty settings.cache.defaultLifetime with directory }

end Settings

end DynamicContent.Program
