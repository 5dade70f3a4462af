/-
What can be wrong with the settings.
-/
import OrderDesk.Text.Quoted

namespace OrderDesk

open OrderDesk.Text

/-- What is wrong with a setting, which is called by its name. -/
inductive SettingsError where
  | missing (name : String)
  | invalid (name reason : String)
  /-- A secret that could be guessed. -/
  | insecure (name reason : String)
  deriving DecidableEq, Repr

namespace SettingsError

/-- The setting that is wrong. -/
def name : SettingsError → String
  | .missing name | .invalid name _ | .insecure name _ => name

/-- The text that reports the fault. -/
def message : SettingsError → String
  | .missing name => "Missing environment variable: " ++ name
  | .invalid name reason => "Invalid environment variable " ++ name ++ ": " ++ reason
  | .insecure name reason => "Insecure secret in " ++ name ++ ": " ++ reason

end SettingsError

end OrderDesk
