/-
# Addresses of the site

The home page, the site and its administration each have a base that ends in a slash; every other
address is a base and a path. Addresses are asked for by kind, and further kinds may be registered.
-/

import DynamicContent.Site.Request
import DynamicContent.Url.Basic
import DynamicContent.Url.Percent

namespace DynamicContent

/-- The address of a registered kind, or `none`. -/
abbrev UrlKind := Request → Option String

/-- The addresses of a site. -/
structure SiteUrls where
  homeBase : String
  siteBase : String
  adminBase : String
  settingsPath : String
  kinds : SortedMap UrlKind

namespace SiteUrls

/-- The text with a slash at its end. -/
def withSlash (base : String) : String := if Text.endsWith base "/" then base else base ++ "/"

/-- The text without slashes at its front. -/
def withoutSlashes (path : String) : String :=
  String.ofList (path.toList.dropWhile fun c => c == '/')

/-- Where the settings are, below the administration. -/
def plainSettingsPath : String := "settings/weft"

/-- The addresses with the given bases. -/
def ofBases (home site admin : Url) : SiteUrls :=
  ⟨withSlash home.text, withSlash site.text, withSlash admin.text, plainSettingsPath, []⟩

/-- The addresses with the bases that texts denote. -/
def parse (home site admin : String) : Except Url.UrlError SiteUrls := do
  return ofBases (← Url.parse home) (← Url.parse site) (← Url.parse admin)

/-- The addresses of a site on the own machine. -/
def localhost : SiteUrls :=
  ⟨"http://localhost/", "http://localhost/", "http://localhost/admin/", plainSettingsPath, []⟩

instance : Inhabited SiteUrls := ⟨localhost⟩

/-- The same addresses with another path to the settings. -/
def withSettingsPath (urls : SiteUrls) (path : String) : SiteUrls :=
  { urls with settingsPath := withoutSlashes path }

/-- Registers a kind of address. -/
def registerKind (kind : String) (address : UrlKind) (urls : SiteUrls) : SiteUrls :=
  { urls with kinds := urls.kinds.insert (Text.asciiLower (Text.trim kind)) address }

/-- A base and a path. -/
def join (base path : String) : String := base ++ withoutSlashes path

/-- An address below the home page. -/
def home (urls : SiteUrls) (path : String) : String := join urls.homeBase path

/-- An address below the site. -/
def site (urls : SiteUrls) (path : String) : String := join urls.siteBase path

/-- An address below the administration. -/
def admin (urls : SiteUrls) (path : String) : String := join urls.adminBase path

/-- An address with a query, and where to go on from there. -/
def withQuery (url : String) (pairs : List (String × String)) (redirect : String) : String :=
  let redirect := Text.trim redirect
  let pairs := pairs ++ if redirect.isEmpty then [] else [("redirect_to", redirect)]
  if pairs.isEmpty then url else url ++ "?" ++ Url.formQuery pairs

/-- Where to log in. -/
def login (urls : SiteUrls) (redirect : String) : String := withQuery (urls.site "login") [] redirect

/-- Where to log out. -/
def logout (urls : SiteUrls) (redirect : String) : String :=
  withQuery (urls.site "login") [("action", "logout")] redirect

/-- Where to register. -/
def register (urls : SiteUrls) : String :=
  withQuery (urls.site "login") [("action", "register")] ""

/-- Where to ask for a new password. -/
def lostPassword (urls : SiteUrls) : String :=
  withQuery (urls.site "login") [("action", "lostpassword")] ""

/-- Where the viewer's own data are. -/
def profile (urls : SiteUrls) : String := urls.admin "profile"

/-- Where the settings are. -/
def settings (urls : SiteUrls) : String := urls.admin urls.settingsPath

/-- The address of the request. -/
def current (urls : SiteUrls) (request : Request) : String := urls.home request.uri

/-- The address of a kind; `none` if the kind is not known. -/
def ofKind? (urls : SiteUrls) (kind : String) (request : Request) : Option String :=
  match Text.asciiLower (Text.trim kind) with
  | "home" | "front" => some (urls.home "")
  | "site" => some (urls.site "")
  | "admin" => some (urls.admin "")
  | "login" => some (urls.login "")
  | "logout" => some (urls.logout "")
  | "register" => some urls.register
  | "lostpassword" | "lost-password" => some urls.lostPassword
  | "current" => some (urls.current request)
  | other => (urls.kinds.find? other).bind fun address => address request

end SiteUrls

end DynamicContent
