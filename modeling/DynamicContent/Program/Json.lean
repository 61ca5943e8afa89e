/-
# Settings and arguments as documents
-/

import DynamicContent.Program.Arguments

namespace DynamicContent.Program

/-- An optional number as JSON. -/
def optionalNat (n : Option Nat) : Json := (n.map Json.nat).getD .null

/-- Texts as JSON. -/
def textList (texts : List String) : Json := .array (texts.map .string)

/-- The pairs that texts denote as JSON. -/
def pairList (entries : List String) : Json :=
  .array ((pairs entries).map fun (key, value) => textList [key, value])

/-- A request as JSON. -/
def RequestArguments.toJson (a : RequestArguments) : Json :=
  .ofFields [("site", .string a.site), ("query", pairList a.query), ("body", pairList a.body),
    ("cookie", pairList a.cookies), ("session", pairList a.session), ("server", pairList a.server),
    ("uri", .string a.uri), ("post", optionalNat a.post), ("term", optionalNat a.term),
    ("user", optionalNat a.user), ("manage", .bool a.canManage),
    ("admin_screen", .bool a.adminScreen)]

/-- A command as JSON. -/
def Command.toJson : Command → Json
  | .render request text input showsAssets =>
    .ofFields [("command", .string "render"), ("request", request.toJson),
      ("text", .ofOptionString text), ("input", .ofOptionString input),
      ("show_assets", .bool showsAssets)]
  | .dispatch request typeTag attrs content =>
    .ofFields [("command", .string "dispatch"), ("request", request.toJson),
      ("type", .string typeTag), ("attrs", pairList attrs), ("content", .string content)]
  | .flushCache group =>
    .ofFields [("command", .string "cache flush"), ("group", .ofOptionString group)]
  | .tellKey group payload =>
    .ofFields [("command", .string "cache key"), ("group", .string group),
      ("payload", .string payload)]

/-- The fields of settings as JSON. -/
def Settings.toFields (s : Settings) : List (String × Json) := [
  ("logging", .ofFields [("level", .string s.logLevel.name), ("json", .bool s.logsJson)]),
  ("cache", .ofFields [("backend", .string s.cache.backend.name),
    ("directory", .string s.cache.directory), ("prefix", .string s.cache.keyStart),
    ("default_ttl_seconds", .nat s.cache.defaultLifetime),
    ("memory_capacity", .nat s.cache.capacity), ("query_cache", .bool s.cache.remembersQueries),
    ("query_ttl_seconds", .nat s.cache.queryLifetime)]),
  ("resolver", .ofFields [("max_passes", .nat s.limits.maxPasses),
    ("max_depth", .nat s.limits.maxDepth),
    ("lookup_cache_ttl_seconds", .nat s.limits.lookupLifetime)]),
  ("functions", .ofFields [("allowlist", textList s.allowed)]),
  ("site", .ofFields [("home_url", .string s.site.home.text), ("site_url", .string s.site.site.text),
    ("admin_url", .string s.site.admin.text), ("settings_path", .string s.site.settingsPath),
    ("timezone", .string s.site.zone.name), ("shortcode_tag", .string s.site.tag)])]

end DynamicContent.Program
