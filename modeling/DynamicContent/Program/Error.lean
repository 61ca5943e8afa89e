/-
# Why the program stops

The causes for which the program gives up, what it reports of them and the code it ends with.
-/

import DynamicContent.Cache.File
import DynamicContent.Text.Blank

namespace DynamicContent.Program

/-- Why the settings could not be made: a source that cannot be read or decoded, or a value that is
refused. -/
inductive SettingsError where
  | unreadable (cause : String)
  | refused (key reason : String)
deriving DecidableEq, Inhabited

/-- What is reported, then its causes. -/
def SettingsError.messages : SettingsError → List String
  | unreadable cause => ["failed to build configuration: " ++ cause, cause]
  | refused key reason => ["invalid configuration for `" ++ key ++ "`: " ++ reason]

/-- Why the program stops: because it gives up, or because the clock overran. -/
inductive ProgramError where
  | settings (cause : SettingsError)
  | io (cause : String)
  | logging (cause : String)
  | setup (cause : String)
  | siteDocument (cause : String)
  | cache (cause : Cache.CacheError)
  | validation (cause : String)
  | unexpected (cause : String)
  | clockOverran
deriving DecidableEq, Inhabited

namespace ProgramError

/-- What is reported, then its causes from the outermost to the innermost. -/
def messages : ProgramError → List String
  | settings cause => "failed to load configuration" :: cause.messages
  | io cause => ["io error: " ++ cause, cause]
  | logging cause => ["telemetry initialization failed: " ++ cause]
  | setup cause => ["configuration error: " ++ cause]
  | siteDocument cause => ["invalid site fixture: " ++ cause]
  | cache cause => "cache unavailable" :: cause.messages
  | validation cause => ["validation failed: " ++ cause]
  | unexpected cause => ["unexpected error: " ++ cause]
  | clockOverran => ["overflow when adding duration to instant"]

/-- What is reported, without the causes. -/
def message (error : ProgramError) : String := error.messages.headD ""

/-- What is reported with all its causes, on one line. -/
def report (error : ProgramError) : String := Text.join ": " error.messages

/-- The code the program ends with. -/
def exitCode : ProgramError → Nat
  | validation _ => 64
  | siteDocument _ => 65
  | io _ | cache _ => 74
  | settings _ | setup _ => 78
  | logging _ | unexpected _ => 70
  | clockOverran => 101

end ProgramError

end DynamicContent.Program
