namespace ProbeReport.Text

-- The rest of a text behind so many bytes. There is none when that would cut a character.
def dropBytes? : Nat → List Char → Option (List Char)
  | 0, s => some s
  | _ + 1, [] => none
  | n + 1, c :: s => if c.utf8Size ≤ n + 1 then dropBytes? (n + 1 - c.utf8Size) s else none

-- The first bytes of a text.
def takeBytes? : Nat → List Char → Option (List Char)
  | 0, _ => some []
  | _ + 1, [] => none
  | n + 1, c :: s =>
    if c.utf8Size ≤ n + 1 then (takeBytes? (n + 1 - c.utf8Size) s).map (c :: ·) else none

-- The part of a text between two byte offsets.
def slice? (start stop : Nat) (s : List Char) : Option (List Char) :=
  (dropBytes? start s).bind (takeBytes? (stop - start))

end ProbeReport.Text
