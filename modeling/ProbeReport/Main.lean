import ProbeReport.Clock
import ProbeReport.Http.Redirect
import ProbeReport.Program
import ProbeReport.Proofs.Url.Mapping
import ProbeReport.StandIns
import Std.Time.DateTime.Timestamp

namespace ProbeReport

def readVariable (name : String) : IO (Option (List UInt8)) := do
  return (← IO.getEnv name).map utf8

def readEnvironment : IO Environment := do
  return {
    dashboardUrl := ← readVariable "DASHBOARD_URL"
    logLevel := ← readVariable "LOG_LEVEL"
    logFilter := ← readVariable "RUST_LOG"
    logFormat := ← readVariable "LOG_FORMAT"
    serviceName := ← readVariable "SERVICE_NAME" }

def readClock : IO Instant := do
  let now ← Std.Time.Timestamp.now
  return Instant.ofClock now.val.second.val now.val.nano.val.toNat

end ProbeReport

open ProbeReport in
-- Runs without sockets: no dashboard can be reached, and the report says so for every probe.
def main : IO UInt32 := do
  let environment ← readEnvironment
  let clock ← readClock
  let result := Program.transcript .unrouted environment clock.stamp
  (← IO.getStdout).write (ByteArray.mk result.output.toArray)
  (← IO.getStdout).flush
  for text in result.diagnostics do
    (← IO.getStderr).putStr text
  return UInt32.ofNat result.exitCode
