import ProbeReport.Probe
import ProbeReport.Json.Printer

namespace ProbeReport.Report

def startBanner : String := "🚀 Testing Gemini Proxy dashboard"

def completionBanner : String := "✅ Testing complete!"

-- A text of the report goes out in parts, in the order of these lists.
def startParts : List String := [startBanner, "\n"]

def start : String := String.join startParts

theorem start_eq : start = startBanner ++ "\n" := by
  rw [start, startParts, String.join_cons, String.join_cons, String.join_nil, String.append_empty]

-- The head of a section, set off by an empty line.
def headerParts (title : String) : List String := ["\n", "=== ", title, " ===\n"]

def header (title : String) : String := String.join (headerParts title)

theorem header_eq (title : String) : header title = "\n" ++ "=== " ++ title ++ " ===\n" := by
  simp only [header, headerParts, String.join_cons, String.join_nil, String.append_empty,
    String.append_assoc]

def statusParts (code : Nat) : List String := ["Status: ", toString code, "\n"]

def status (code : Nat) : String := String.join (statusParts code)

theorem status_eq (code : Nat) : status code = "Status: " ++ toString code ++ "\n" := by
  rw [status, statusParts, String.join_cons, String.join_cons, String.join_cons, String.join_nil,
    String.append_empty, String.append_assoc]

def detail : Body → String
  | .json document => "Response: " ++ document.pretty
  | .length characters => "HTML Response length: " ++ toString characters ++ " chars"
  | .error text => "Error: " ++ text

def outcome : Outcome → String
  | .response code _ body => status code ++ detail body ++ "\n"
  | .exception reason => "Exception: " ++ reason ++ "\n"

def completionParts (dashboard : String) : List String :=
  ["\n", completionBanner, "\n", "🌐 Open the dashboard: ", dashboard, "\n"]

def completion (dashboard : String) : String := String.join (completionParts dashboard)

-- One thing that is put into a report.
inductive Entry where
  | start
  | header (title : String)
  | status (code : Nat)
  | outcome (told : Outcome)
  | completion (dashboard : String)
  deriving Repr

namespace Entry

def parts : Entry → List String
  | .start => startParts
  | .header title => headerParts title
  | .status code => statusParts code
  | .outcome told => [Report.outcome told]
  | .completion dashboard => completionParts dashboard

def text (e : Entry) : String := String.join e.parts

end Entry

end ProbeReport.Report
