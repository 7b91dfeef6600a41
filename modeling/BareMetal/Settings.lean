/-
# Settings

The settings of a connection come from four variables.

| variable | meaning | absent |
| --- | --- | --- |
| `MAAS_URL` | the controller, required | |
| `MAAS_API_VERSION` | the one version to try | the supported versions |
| `VERIFY_SSL` | whether certificates are checked: `true` in any case, or else not | `true` |
| `MAAS_TIMEOUT` | how many seconds to wait, more than none | `30` |

The numeral of the timeout is checked first, then the URL, then the value of the
timeout, then the version.
-/

import BareMetal.Controller.Basic
import BareMetal.Text.Quoted

namespace BareMetal

/-- The variables that settings come from; each may be absent. -/
structure Environment where
  url : Option String := none
  apiVersion : Option String := none
  verify : Option String := none
  timeout : Option String := none
deriving Repr, DecidableEq

/-- The settings of a connection. -/
structure Settings where
  url : String
  apiVersion : Option String
  verify : Bool
  timeout : Binary64
deriving Repr, DecidableEq

namespace Settings

/-- The timeout of a numeral. -/
def readTimeout (numeral : String) : Except Failure Binary64 :=
  match Numeral.float? numeral with
  | some x => .ok x
  | none => .error (.invalid s!"MAAS_TIMEOUT must be a number, got {Text.quoted numeral}")

/-- The settings that an environment gives. -/
def ofEnvironment (env : Environment) : Except Failure Settings := do
  let url := env.url.getD ""
  let apiVersion := env.apiVersion.filter (!·.isEmpty)
  let verify := Text.spells "true" (env.verify.getD "true")
  let timeout ← readTimeout (env.timeout.getD "30")
  require (!url.isEmpty) "MAAS_URL is required"
  require (!timeout.isAtMost 0) "MAAS_TIMEOUT must be positive"
  match apiVersion with
  | some version =>
    let expected := ", ".intercalate supportedVersions
    require (supportedVersions.contains version)
      s!"MAAS_API_VERSION {version} is not supported; expected one of {expected}"
  | none => pure ()
  return { url, apiVersion, verify, timeout }

/-- The versions to try. -/
def apiVersions (s : Settings) : List String :=
  match s.apiVersion with
  | some version => [version]
  | none => supportedVersions

end Settings
end BareMetal
