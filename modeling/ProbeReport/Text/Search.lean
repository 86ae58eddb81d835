namespace ProbeReport.Text

-- Whether a part occurs somewhere in a text.
def occursIn (part : List Char) : List Char → Bool
  | [] => part.isEmpty
  | c :: rest => part.isPrefixOf (c :: rest) || occursIn part rest

-- Splits at every occurrence of a separator; there is always one more piece than separators.
def splitAt (separator : Char) : List Char → List (List Char)
  | [] => [[]]
  | c :: rest =>
    if c = separator then [] :: splitAt separator rest
    else
      match splitAt separator rest with
      | [] => [[c]]
      | piece :: more => (c :: piece) :: more

-- Drops the characters of a class from both ends.
def trim (p : Char → Bool) (s : List Char) : List Char :=
  ((s.dropWhile p).reverse.dropWhile p).reverse

end ProbeReport.Text
