import ProbeReport.Error
import ProbeReport.Http.Fetch
import ProbeReport.Http.MediaType
import ProbeReport.Log.Event
import ProbeReport.Report
import ProbeReport.Text.Charset

namespace ProbeReport

-- The text of a body: in the charset that its content type names, in UTF-8 when that names
-- none or none that is known.
def Http.Answer.text [Text.Decoders] (a : Http.Answer) : String :=
  let declared := do
    let contentType ← a.contentType
    let label ← Http.MediaType.charset? contentType
    Text.Charset.ofLabel? label
  (declared.getD .utf8).decodeMarked a.content

variable [Url.Idna] [Text.Decoders]

-- What a probe did and how it ended.
structure Execution where
  requests : List Http.Request
  result : Except DecodeError Outcome

-- Asks for one probe. A failure to get an answer is an outcome too; only a body that should
-- be JSON and is not has none.
def execute (network : Http.Network) (address : String) (probe : Probe) : Execution :=
  let fetched := Http.fetch network (probe.url address)
  { requests := fetched.requests
    result :=
      match fetched.result with
      | .error failure => .ok (.exception failure.causes.describe)
      | .ok answer =>
        match Body.classify answer.status answer.contentType answer.text with
        | .ok body => .ok (.response answer.status answer.contentType body)
        | .error fault => .error ⟨probe.path, answer.status, fault⟩ }

namespace Run

-- What has happened so far: to the report, on the network, and in the log.
structure Journal where
  sink : Sink
  requests : List Http.Request
  events : List Log.Event

-- A step of a run goes on with what has happened, also when it fails.
abbrev Step := ExceptT Error (StateM Journal)

def logTarget : String := "dashboard_probe::runner"

def event (severity : Log.Severity) (message : String) (fields : List (String × Log.Value))
    (apart : Log.messageName ∉ fields.map Prod.fst := by simp [Log.messageName]) : Log.Event :=
  ⟨severity, logTarget, .shown message, fields, apart⟩

def startEvent (target : Target) : Log.Event :=
  event .info "Starting dashboard probes"
    [("base_url", .shown target.address), ("probes", .uint64 (.ofNat target.probes.length))]

def sendingEvent (address : String) (probe : Probe) : Log.Event :=
  event .debug "Sending probe" [("path", .text probe.path), ("url", .shown (probe.url address))]

def outcomeEvent (probe : Probe) : Outcome → Log.Event
  | .response status _ _ =>
    event .info "Probe completed"
      [("path", .text probe.path), ("status", .uint64 (.ofNat status)), ("duration_ms", .elapsed)]
  | .exception reason =>
    event .warn "Probe failed"
      [("path", .text probe.path), ("error", .shown reason), ("duration_ms", .elapsed)]

def abortEvent (error : DecodeError) : Log.Event :=
  event .error "Aborting probe run"
    [("path", .text error.path), ("error", .shown (Error.decode error).message)]

def finishEvent : Log.Event := event .info "Dashboard probes finished" []

def log (e : Log.Event) : Step Unit :=
  modify fun j => { j with events := j.events ++ [e] }

-- Sink operations change the sink even when they fail.
def onSink (operation : Sink → Except IoError Unit × Sink) : Step Unit := do
  let j ← get
  let (result, sink) := operation j.sink
  set { j with sink := sink }
  match result with
  | .ok () => pure ()
  | .error e => throw (.io e)

def write (text : String) : Step Unit := onSink fun s => s.write text

-- The parts of a text one after another, up to the first that cannot be written.
def writeParts (parts : List String) : Step Unit := parts.forM write

def flush : Step Unit := onSink Sink.flush

-- Puts one entry into the report.
def enter (entry : Report.Entry) : Step Unit := writeParts entry.parts

-- What an entry added to the report, and how writing it ended.
structure Contribution where
  wrote : List UInt8
  result : Except Error Unit

-- Puts entries into the report one after another. Those behind a failure are tried all the same.
def enterEach : List Report.Entry → Journal → List Contribution × Journal
  | [], j => ([], j)
  | entry :: rest, j =>
    let (result, next) := (enter entry).run j
    let (more, last) := enterEach rest next
    (⟨next.sink.bytes.drop j.sink.bytes.length, result⟩ :: more, last)

-- One section of the report. The request is only made when the head of the section is out.
def runProbe (network : Http.Network) (target : Target) (probe : Probe) : Step Unit := do
  writeParts (Report.headerParts probe.title)
  log (sendingEvent target.address probe)
  let execution := execute network target.address probe
  modify fun j => { j with requests := j.requests ++ execution.requests }
  match execution.result with
  | .ok outcome =>
    log (outcomeEvent probe outcome)
    write (Report.outcome outcome)
  | .error error =>
    writeParts (Report.statusParts error.status)
    flush
    log (abortEvent error)
    throw (.decode error)

def runProbes (network : Http.Network) (target : Target) : List Probe → Step Unit
  | [] => pure ()
  | probe :: rest => do
    runProbe network target probe
    runProbes network target rest

def whole (network : Http.Network) (target : Target) : Step Unit := do
  log (startEvent target)
  writeParts Report.startParts
  runProbes network target target.probes
  writeParts (Report.completionParts target.dashboardUrl)
  flush
  log finishEvent

end Run

-- Runs all probes in order and reports on them.
def run (network : Http.Network) (target : Target) (sink : Sink) :
    Except Error Unit × Run.Journal :=
  (Run.whole network target).run ⟨sink, [], []⟩

end ProbeReport
