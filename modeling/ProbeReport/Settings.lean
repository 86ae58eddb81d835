import ProbeReport.Probe
import ProbeReport.Text.Lowercase
import ProbeReport.Text.Utf8
import ProbeReport.Url.Parser

namespace ProbeReport

-- The variables that matter, as bytes. They need not be texts.
structure Environment where
  dashboardUrl : Option (List UInt8)
  logLevel : Option (List UInt8)
  logFilter : Option (List UInt8)
  logFormat : Option (List UInt8)
  serviceName : Option (List UInt8)
  deriving Repr, DecidableEq

-- A variable that holds no text counts as unset.
def Environment.text? (value : Option (List UInt8)) : Option String :=
  value.bind Text.Utf8.decode?

inductive SettingsError where
  | unparsable (key value why : String)
  | invalid (key message : String)
  deriving Repr, DecidableEq

def SettingsError.message : SettingsError → String
  | .unparsable key value why => "failed to parse " ++ key ++ "='" ++ value ++ "': " ++ why
  | .invalid key message => "invalid value for " ++ key ++ ": " ++ message

-- The dashboard and what to ask it for.
structure Target where
  address : String
  probes : List Probe
  deriving Repr, DecidableEq

namespace Target

def addressKey : String := "DASHBOARD_URL"

def defaultAddress : String := "http://localhost:8081"

-- An address has to be an absolute web address. It is kept as it was given.
def validate [Url.Idna] (address : String) : Except SettingsError Unit :=
  match Url.parse address with
  | .error why => .error (.unparsable addressKey address why.message)
  | .ok url =>
    if !url.isWeb then .error (.invalid addressKey ("unsupported scheme '" ++ url.scheme ++ "'"))
    else if url.host.isNone then .error (.invalid addressKey "missing host")
    else .ok ()

def ofAddress [Url.Idna] (address : String) : Except SettingsError Target :=
  (validate address).map fun _ => ⟨address, Probe.standard⟩

-- An empty address is no address.
def ofEnvironment [Url.Idna] (env : Environment) : Except SettingsError Target :=
  match (Environment.text? env.dashboardUrl).filter (· ≠ "") with
  | some address => ofAddress address
  | none => ofAddress defaultAddress

-- What an operator opens by hand.
def dashboardUrl (t : Target) : String := t.address ++ "/admin"

end Target

namespace Log

inductive Format where
  | text
  | json
  deriving Repr, DecidableEq

def Format.name : Format → String
  | .text => "Text"
  | .json => "Json"

-- How the log is written: what is let through, in which form, and under which name.
structure Settings where
  filter : String
  format : Format
  service : String
  deriving Repr, DecidableEq

namespace Settings

def defaultFilter : String := "dashboard_probe=warn"

def defaultService : String := "dashboard_probe"

def levels : List String := ["trace", "debug", "info", "warn", "error"]

def levelWarning (level : String) : String :=
  "Warning: Invalid LOG_LEVEL '" ++ level ++ "', expected: trace, debug, info, warn, error"

-- A plain level goes before a filter of any form; a level that is none is warned about.
def resolveFilter (env : Environment) : String × List String :=
  let fallback := (Environment.text? env.logFilter).getD defaultFilter
  match (Environment.text? env.logLevel).map Text.lowercase with
  | none => (fallback, [])
  | some level =>
    if levels.contains level then ("dashboard_probe=" ++ level, [])
    else (fallback, [levelWarning level])

def resolveFormat (env : Environment) : Format :=
  if Text.lowercase ((Environment.text? env.logFormat).getD "text") = "json" then .json
  else .text

-- The settings, and the warnings that reading them gave.
def ofEnvironment (env : Environment) : Settings × List String :=
  let (filter, warnings) := resolveFilter env
  let service := (Environment.text? env.serviceName).getD defaultService
  (⟨filter, resolveFormat env, service⟩, warnings)

end Settings

end Log

structure Settings where
  target : Target
  log : Log.Settings
  deriving Repr, DecidableEq

-- The address is looked at first. When it is refused, nothing else is read or warned about.
def Settings.ofEnvironment [Url.Idna] (env : Environment) :
    Except SettingsError (Settings × List String) :=
  (Target.ofEnvironment env).map fun target =>
    let (log, warnings) := Log.Settings.ofEnvironment env
    (⟨target, log⟩, warnings)

end ProbeReport
