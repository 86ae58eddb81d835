namespace ProbeReport

-- A JSON document. A number is its spelling, so that no digit is ever lost, and the
-- members of an object stand in the order in which their keys first appeared.
inductive Json where
  | null
  | bool (value : Bool)
  | number (spelling : String)
  | string (value : String)
  | array (items : List Json)
  | object (members : List (String × Json))
  deriving Repr, BEq, Inhabited

namespace Json

-- A key that is already there keeps its place and takes the new value.
def put (members : List (String × Json)) (key : String) (value : Json) : List (String × Json) :=
  match members with
  | [] => [(key, value)]
  | (k, v) :: rest => if k = key then (k, value) :: rest else (k, v) :: put rest key value

-- Space, line feed, carriage return and tab are the only blanks between tokens.
def isBlank (c : Char) : Bool :=
  c = ' ' || c = '\n' || c = '\r' || c = '\t'

end Json

end ProbeReport
