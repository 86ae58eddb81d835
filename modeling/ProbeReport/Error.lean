import ProbeReport.Causes
import ProbeReport.Json.Fault
import ProbeReport.Settings
import ProbeReport.Sink
import ProbeReport.Text.Quoted

namespace ProbeReport

-- A successful answer that claimed to be JSON and was not.
structure DecodeError where
  path : String
  status : Nat
  fault : Json.Fault
  deriving Repr, DecidableEq

-- What ends a run before its time.
inductive Error where
  | settings (error : SettingsError)
  | client (causes : Causes)
  | decode (error : DecodeError)
  | io (error : IoError)
  deriving Repr, DecidableEq

namespace Error

def message : Error → String
  | .settings error => "configuration error: " ++ error.message
  | .client causes => "failed to build HTTP client: " ++ causes.headD ""
  | .decode error => "invalid JSON body from " ++ error.path ++ ": " ++ error.fault.message
  | .io error => "I/O error: " ++ error.message

-- The message and the causes behind it.
def causes (e : Error) : Causes :=
  e.message ::
    match e with
    | .settings error => [error.message]
    | .client causes => causes
    | .decode error => [error.fault.message]
    | .io error => [error.message]

end Error

-- The structure of an error on one line, with its texts in quotes.
namespace Layout

-- A field of a record.
def field (name value : String) : String := name ++ ": " ++ value

def record (name : String) (fields : List String) : String :=
  name ++ " \x7b " ++ ", ".intercalate fields ++ " \x7d"

def ofKind : IoKind → String
  | .notFound => "NotFound"
  | .permissionDenied => "PermissionDenied"
  | .brokenPipe => "BrokenPipe"
  | .wouldBlock => "WouldBlock"
  | .invalidInput => "InvalidInput"
  | .writeZero => "WriteZero"
  | .storageFull => "StorageFull"
  | .fileTooLarge => "FileTooLarge"
  | .other => "Other"
  | .uncategorized => "Uncategorized"

def ofIo : IoError → String
  | .custom kind message =>
    record "Custom" [field "kind" (ofKind kind), field "error" (Text.Quoted.encode message)]
  | .system code kind message =>
    record "Os"
      [field "code" (toString code), field "kind" (ofKind kind),
       field "message" (Text.Quoted.encode message)]
  | .shortWrite =>
    record "Error"
      [field "kind" "WriteZero", field "message" (Text.Quoted.encode IoError.shortWrite.message)]

def ofSettings : SettingsError → String
  | .unparsable key value why =>
    record "Parse"
      [field "key" (Text.Quoted.encode key), field "value" (Text.Quoted.encode value),
       field "error" (Text.Quoted.encode why)]
  | .invalid key message =>
    record "Invalid"
      [field "key" (Text.Quoted.encode key), field "message" (Text.Quoted.encode message)]

def ofFault (f : Json.Fault) : String :=
  "Error(" ++ Text.Quoted.encode f.cause.text ++ ", " ++
    field "line" (toString f.position.line) ++ ", " ++
    field "column" (toString f.position.column) ++ ")"

def ofDecode (e : DecodeError) : String :=
  record "Decode"
    [field "path" (Text.Quoted.encode e.path), field "status" (toString e.status),
     field "source" (ofFault e.fault)]

-- Errors of the client have no layout of their own.
def ofError? : Error → Option String
  | .settings error => some ("Config(" ++ ofSettings error ++ ")")
  | .client _ => none
  | .decode error => some (ofDecode error)
  | .io error => some ("Io(" ++ ofIo error ++ ")")

end Layout

end ProbeReport
