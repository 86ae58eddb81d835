namespace ProbeReport

-- The texts of an error and of the causes behind it, from the outermost to the innermost.
abbrev Causes := List String

namespace Causes

-- An outer text often ends with its cause already; then the cause is not said again.
def attach (told cause : String) : String :=
  if cause.toList.isSuffixOf told.toList then told else told ++ ": " ++ cause

def describe : Causes → String
  | [] => ""
  | top :: rest => rest.foldl attach top

end Causes

end ProbeReport
