import ProbeReport.Json.Printer
import ProbeReport.Log.Event
import ProbeReport.Log.Float
import ProbeReport.Text.Quoted
import ProbeReport.Text.Search

namespace ProbeReport.Log

-- Stands for a time that passed.
def elapsedMark : String := "<ms>"

namespace Value

def toJson : Value → Json
  | .text value => .string value
  | .shown value => .string value
  | .int64 value => .number (toString value.toInt)
  | .uint64 value => .number (toString value.toNat)
  | .int128 value => .string (toString value.toInt)
  | .uint128 value => .string (toString value.toNat)
  | .float bits =>
    match floatText? bits.toNat with
    | some spelling => .number spelling
    | none => .null
  | .bool value => .bool value
  | .elapsed => .string elapsedMark

def toText : Value → String
  | .text value => Text.Quoted.encode value
  | .shown value => value
  | .int64 value => toString value.toInt
  | .uint64 value => toString value.toNat
  | .int128 value => toString value.toInt
  | .uint128 value => toString value.toNat
  | .float bits => (floatText? bits.toNat).getD "NaN"
  | .bool value => toString value
  | .elapsed => elapsedMark

end Value

namespace Message

-- Formatted messages lose the quotes around them.
def toJson : Message → String
  | .none => ""
  | .text value => value
  | .shown value => String.ofList (Text.trim (· = '"') value.toList)

-- Characters that steer a terminal are spelled out.
def escape (c : Char) : List Char :=
  if c = '\x1b' then ['\\', 'x', '1', 'b']
  else if c = '\x07' then ['\\', 'x', '0', '7']
  else if c = '\x08' then ['\\', 'x', '0', '8']
  else if c = '\x0c' then ['\\', 'x', '0', 'c']
  else if c = '\x7f' then ['\\', 'x', '7', 'f']
  else if 0x80 ≤ c.toNat ∧ c.toNat ≤ 0x9f then
    '\\' :: 'u' :: '\x7b' :: Text.hexDigits c.toNat ++ ['\x7d']
  else [c]

def toText? : Message → Option String
  | .none => .none
  | .text value => some (String.ofList (value.toList.flatMap escape))
  | .shown value => some (String.ofList (value.toList.flatMap escape))

end Message

namespace Event

def jsonLevel : Severity → String
  | .trace | .debug => "debug"
  | .info => "info"
  | .warn => "warn"
  | .error => "error"

def kind : Severity → String
  | .error => "error"
  | _ => "app"

def memberText (member : String × Json) : String :=
  String.ofList (Json.quote member.1 ++ ':' :: member.2.compactChars)

-- The members for the fields, of which a later one takes the place of one with its name.
def members (e : Event) : List (String × Json) :=
  e.fields.foldl (fun done field => Json.put done field.1 field.2.toJson) []

-- The event as one JSON object, with the members for its fields in any order.
def document (e : Event) (data : List (String × Json)) (service stamp : String) : Json :=
  .object
    [("ts", .string stamp),
     ("level", .string (jsonLevel e.severity)),
     ("type", .string (kind e.severity)),
     ("msg", .string e.message.toJson),
     ("ctx", .object [("service", .string service)]),
     ("data", .object data)]

def jsonLineOf (e : Event) (data : List (String × Json)) (service stamp : String) : String :=
  (e.document data service stamp).compact ++ "\n"

-- Of the orders in which the members can stand, that of their texts.
def data (e : Event) : List (String × Json) :=
  e.members.mergeSort fun a b => !(memberText b < memberText a)

def jsonLine (e : Event) (service stamp : String) : String := e.jsonLineOf e.data service stamp

-- The name of a severity in capitals, as wide as the longest.
def textLevel : Severity → String
  | .trace => "TRACE"
  | .debug => "DEBUG"
  | .info => " INFO"
  | .warn => " WARN"
  | .error => "ERROR"

def textLine (e : Event) (stamp : String) : String :=
  let fields := e.fields.map fun field => field.1 ++ "=" ++ field.2.toText
  stamp ++ " " ++ textLevel e.severity ++ " " ++ e.target ++ ": " ++
    " ".intercalate (e.message.toText?.toList ++ fields) ++ "\n"

end Event

end ProbeReport.Log
