import Interleave.Diagnostic

/-!
# Settings errors

* `SettingsError`: what can be wrong with the settings file or with a database URL.
-/

namespace Interleave

inductive SettingsError where
  | notFound (path : String)
  /-- `cause` is the operating system's text. -/
  | readFailed (path cause : String)
  | invalidJson (path : String)
  | missingField (field : String)
  | unsupportedUrl (url : String)
deriving DecidableEq

namespace SettingsError

/-- What is said of a text that is not the document it should be. -/
def malformed : String := "malformed document"

def message : SettingsError → String
  | .notFound path => "Configuration file not found: " ++ path
  | .readFailed path cause => "Failed to read " ++ path ++ ": " ++ cause
  | .invalidJson path => "Invalid JSON in " ++ path ++ ": " ++ malformed
  | .missingField field => "Incomplete postgres configuration: missing " ++ field
  | .unsupportedUrl url =>
    "Unsupported database URL '" ++ url ++ "' (expected postgres://, postgresql:// or dry-run:)"

def diagnostic : SettingsError → Diagnostic
  | .notFound path => ⟨"NotFound", [("path", .text path)]⟩
  | .readFailed path cause => ⟨"ReadFailed", [("path", .text path), ("message", .text cause)]⟩
  | .invalidJson path => ⟨"InvalidJson", [("path", .text path), ("message", .text malformed)]⟩
  | .missingField field => ⟨"MissingField", [("field", .text field)]⟩
  | .unsupportedUrl url => ⟨"UnsupportedUrl", [("url", .text url)]⟩

end SettingsError

end Interleave
