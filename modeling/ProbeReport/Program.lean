import ProbeReport.Log.Filter
import ProbeReport.Log.Line
import ProbeReport.Run

namespace ProbeReport.Program

def packageVersion : String := "0.1.0"

-- The version that the log tells, with an empty build identifier.
def version : String := packageVersion ++ " ()"

def startEvent : Log.Event :=
  ⟨.info, "dashboard_probe", .shown "Starting dashboard_probe", [("version", .text version)],
    by simp [Log.messageName]⟩

def summaryEvent (text : String) : Log.Event :=
  ⟨.debug, "dashboard_probe::config", .shown text, [], List.not_mem_nil⟩

def summary (s : Settings) : List Log.Event :=
  ["Configuration loaded:",
   "  Dashboard: " ++ s.target.address,
   "  Probes: " ++ toString s.target.probes.length,
   "  Log filter: " ++ s.log.filter,
   "  Log format: " ++ s.log.format.name].map summaryEvent

def filterWarning (text : String) (error : Log.FilterError) : String :=
  "Warning: Invalid log filter '" ++ text ++ "': " ++ error.message ++ ", using '" ++
    Log.Settings.defaultFilter ++ "'"

-- Lets through warnings and worse of this program.
def defaultFilter : Log.Filter := [⟨some "dashboard_probe", [], some .warn⟩]

-- A filter that is refused is warned about and replaced. There is none at all when reading it
-- breaks down.
def filterOf [Log.Patterns] (text : String) : Option (Log.Filter × List String) :=
  match Log.Filter.ofText text with
  | .ok filter => some (filter, [])
  | .error (.refused error) => some (defaultFilter, [filterWarning text error])
  | .error .panicked => none

def endLine (text : String) : String := text ++ "\n"

-- Lines of the log end themselves.
def line (log : Log.Settings) (stamp : String) (e : Log.Event) : String :=
  match log.format with
  | .json => e.jsonLine log.service stamp
  | .text => e.textLine stamp

-- What a process leaves behind.
structure Transcript where
  exitCode : Nat
  output : List UInt8
  diagnostics : List String
  requests : List Http.Request

def errorLine (e : Error) : String := "Error: " ++ (Layout.ofError? e).getD e.message

-- Everything that the program logs, in order.
def events (s : Settings) (journal : Run.Journal) : List Log.Event :=
  startEvent :: summary s ++ journal.events

-- How a process ends that broke down.
def panicCode : Nat := 101

variable [Url.Idna] [Text.Decoders] [Log.Patterns]

-- The program once it has its settings and a filter. All log lines get the same time stamp.
def proceed (network : Http.Network) (s : Settings) (filter : Log.Filter)
    (warnings : List String) (stamp : String) : Transcript :=
  let (result, journal) := run network s.target .unlimited
  let lines := ((events s journal).filter filter.admits).map (line s.log stamp)
  let (exitCode, errorLines) : Nat × List String :=
    match result with
    | .ok () => (0, [])
    | .error error => (1, [errorLine error])
  { exitCode := exitCode, output := journal.sink.bytes
    diagnostics := warnings.map endLine ++ lines ++ errorLines.map endLine
    requests := journal.requests }

-- The program from its environment to its end. What is said where it breaks down tells of places
-- in a library and is left out.
def transcript (network : Http.Network) (env : Environment) (stamp : String) : Transcript :=
  match Settings.ofEnvironment env with
  | .error error => ⟨1, [], [endLine (errorLine (.settings error))], []⟩
  | .ok (settings, warnings) =>
    match filterOf settings.log.filter with
    | none => ⟨panicCode, [], warnings.map endLine, []⟩
    | some (filter, more) => proceed network settings filter (warnings ++ more) stamp

end ProbeReport.Program
