import ProbeReport.Json.Reader
import ProbeReport.Text.Search

namespace ProbeReport

-- One request to the dashboard: what is appended to its address, and the title of the
-- section that tells the outcome.
structure Probe where
  path : String
  title : String
  deriving Repr, DecidableEq

namespace Probe

-- Plain concatenation. Nothing is normalised here.
def url (p : Probe) (address : String) : String := address ++ p.path

def standard : List Probe :=
  [⟨"/admin/health", "Health Check"⟩,
   ⟨"/admin/keys", "API Keys List"⟩,
   ⟨"/admin/model-stats", "Model Statistics"⟩,
   ⟨"/admin", "Dashboard HTML"⟩]

end Probe

-- What is told about the body of an answer.
inductive Body where
  | json (document : Json)
  | length (characters : Nat)
  | error (text : String)
  deriving Repr

namespace Body

def jsonType : String := "application/json"

-- Only a successful answer is looked into. It counts as JSON when its content type names
-- the JSON type anywhere, in exactly this spelling.
def classify (status : Nat) (contentType : Option String) (text : String) :
    Except Json.Fault Body :=
  if status ≠ 200 then .ok (.error text)
  else if Text.occursIn jsonType.toList (contentType.getD "").toList then
    (Json.parse text).map .json
  else .ok (.length text.length)

end Body

-- What became of a probe: an answer, or the reason why there is none.
inductive Outcome where
  | response (status : Nat) (contentType : Option String) (body : Body)
  | exception (reason : String)
  deriving Repr

end ProbeReport
