import Shortlink.Path
import Shortlink.Settings.File
import Shortlink.Text.Digits

/-!
# Settings

What can be set from outside: where the records are stored, where the service listens, where the
user interface lies, and which server the command line talks to.

## Contents

- `Settings`: the values.
- `Settings.ofEnvironment?`, `Settings.load?`: the values that an environment gives them.
-/

namespace Shortlink

/-- What can be set from outside. -/
structure Settings where
  databaseUrl : String
  apiHost : String
  apiPort : Int
  uiPath : String
  apiServer : String
deriving DecidableEq, Repr

namespace Settings

/-- The values in an environment, with defaults for what is not set; `root` is the directory of the
program. The port has to be a whole number. -/
def ofEnvironment? (root : String) (e : Environment) : Option Settings := do
  let port ← Text.readInteger? ((e.get? "API_PORT").getD "8080").toList
  return {
    databaseUrl := (e.get? "DATABASE_URL").getD ("sqlite://" ++ root ++ "/data/golinks.db")
    apiHost := (e.get? "API_HOST").getD "0.0.0.0"
    apiPort := port
    uiPath := (e.get? "UI_PATH").getD "./public"
    apiServer := (e.get? "GOLINKS_API_SERVER").getD "http://localhost:8080" }

/-- The values in an environment over which a file of settings is laid. -/
def load? (root : String) (e : Environment) (file : String) : Option Settings := do
  let e ← SettingsFile.overlay? e file
  ofEnvironment? root e

/-- The directory of the user interface, in plain form. -/
def uiDirectory (s : Settings) : String :=
  String.ofList (Path.plain s.uiPath.toList)

end Settings

end Shortlink
