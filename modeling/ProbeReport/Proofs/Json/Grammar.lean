import ProbeReport.Json.Reader

-- What a JSON text is and what it stands for, told without a reader.
namespace ProbeReport.Json.Grammar

def Blanks (t : List Char) : Prop := ∀ c ∈ t, c = ' ' ∨ c = '\t' ∨ c = '\n' ∨ c = '\r'

def IsDigit (c : Char) : Prop := '0' ≤ c ∧ c ≤ '9'

instance (c : Char) : Decidable (IsDigit c) := inferInstanceAs (Decidable (_ ∧ _))

-- One digit or more.
def Digits (t : List Char) : Prop := t ≠ [] ∧ ∀ c ∈ t, IsDigit c

inductive Minus : List Char → Prop where
  | absent : Minus []
  | present : Minus ['-']

-- A number starts with a zero only when that is its whole integer part.
inductive Whole : List Char → Prop where
  | zero : Whole ['0']
  | digits {c : Char} {t : List Char} : IsDigit c → c ≠ '0' → (∀ d ∈ t, IsDigit d) → Whole (c :: t)

inductive Fraction : List Char → Prop where
  | absent : Fraction []
  | present {t : List Char} : Digits t → Fraction ('.' :: t)

-- An exponent as it is written, and as it is told: `e` with a sign.
inductive Exponent : List Char → List Char → Prop where
  | absent : Exponent [] []
  | unsigned {mark : Char} {t : List Char} :
      mark = 'e' ∨ mark = 'E' → Digits t → Exponent (mark :: t) ('e' :: '+' :: t)
  | signed {mark sign : Char} {t : List Char} :
      mark = 'e' ∨ mark = 'E' → sign = '+' ∨ sign = '-' → Digits t →
      Exponent (mark :: sign :: t) ('e' :: sign :: t)

-- A number stands for its spelling, digit for digit; only its exponent is told in one way.
inductive Number : List Char → List Char → Prop where
  | mk {minus whole fraction exponent told : List Char} :
      Minus minus → Whole whole → Fraction fraction → Exponent exponent told →
      Number (minus ++ whole ++ fraction ++ exponent) (minus ++ whole ++ fraction ++ told)

inductive HexDigit : Char → Nat → Prop where
  | decimal {c : Char} : '0' ≤ c → c ≤ '9' → HexDigit c (c.toNat - '0'.toNat)
  | lower {c : Char} : 'a' ≤ c → c ≤ 'f' → HexDigit c (c.toNat - 'a'.toNat + 10)
  | upper {c : Char} : 'A' ≤ c → c ≤ 'F' → HexDigit c (c.toNat - 'A'.toNat + 10)

-- Four hexadecimal digits and the code unit that they spell.
inductive Quad : List Char → Nat → Prop where
  | mk {a b c d : Char} {w x y z : Nat} :
      HexDigit a w → HexDigit b x → HexDigit c y → HexDigit d z →
      Quad [a, b, c, d] (((w * 16 + x) * 16 + y) * 16 + z)

def IsHighSurrogate (unit : Nat) : Prop := 0xd800 ≤ unit ∧ unit ≤ 0xdbff

def IsLowSurrogate (unit : Nat) : Prop := 0xdc00 ≤ unit ∧ unit ≤ 0xdfff

-- The letter behind a backslash and the character that both stand for.
inductive ShortEscape : Char → Char → Prop where
  | quote : ShortEscape '"' '"'
  | backslash : ShortEscape '\\' '\\'
  | slash : ShortEscape '/' '/'
  | backspace : ShortEscape 'b' '\x08'
  | formFeed : ShortEscape 'f' '\x0c'
  | lineFeed : ShortEscape 'n' '\n'
  | carriageReturn : ShortEscape 'r' '\r'
  | tab : ShortEscape 't' '\t'

-- The ways to write one character of a string. A surrogate is only ever half of a pair.
inductive Piece : List Char → Char → Prop where
  | plain {c : Char} : c ≠ '"' → c ≠ '\\' → 0x20 ≤ c.toNat → Piece [c] c
  | short {letter c : Char} : ShortEscape letter c → Piece ['\\', letter] c
  | unit {quad : List Char} {n : Nat} {c : Char} :
      Quad quad n → ¬IsHighSurrogate n → ¬IsLowSurrogate n → c.toNat = n →
      Piece ('\\' :: 'u' :: quad) c
  | pair {quad quad' : List Char} {high low : Nat} {c : Char} :
      Quad quad high → IsHighSurrogate high → Quad quad' low → IsLowSurrogate low →
      c.toNat = 0x10000 + (high - 0xd800) * 0x400 + (low - 0xdc00) →
      Piece ('\\' :: 'u' :: quad ++ '\\' :: 'u' :: quad') c

inductive Chars : List Char → List Char → Prop where
  | nil : Chars [] []
  | cons {piece t s : List Char} {c : Char} :
      Piece piece c → Chars t s → Chars (piece ++ t) (c :: s)

-- A string between its quotes.
inductive Quoted : List Char → String → Prop where
  | mk {t s : List Char} : Chars t s → Quoted ('"' :: t ++ ['"']) (String.ofList s)

-- The last value that is given for a key.
def lastValue? (members : List (String × Json)) (key : String) : Option Json :=
  members.reverse.lookup key

-- Each key where it appears first, with the value that it is given last.
def merged (members : List (String × Json)) : List (String × Json) :=
  (members.map Prod.fst).eraseDups.filterMap fun key =>
    (lastValue? members key).map fun value => (key, value)

mutual

-- A value, with at most so many arrays and objects open at once.
inductive Value : Nat → List Char → Json → Prop where
  | null {n : Nat} : Value n ['n', 'u', 'l', 'l'] .null
  | true {n : Nat} : Value n ['t', 'r', 'u', 'e'] (.bool .true)
  | false {n : Nat} : Value n ['f', 'a', 'l', 's', 'e'] (.bool .false)
  | number {n : Nat} {t told : List Char} : Number t told → Value n t (.number (String.ofList told))
  | string {n : Nat} {t : List Char} {s : String} : Quoted t s → Value n t (.string s)
  | emptyArray {n : Nat} {b : List Char} : Blanks b → Value (n + 1) ('[' :: b ++ [']']) (.array [])
  | array {n : Nat} {t : List Char} {items : List Json} :
      Items n t items → Value (n + 1) ('[' :: t ++ [']']) (.array items)
  | emptyObject {n : Nat} {b : List Char} :
      Blanks b → Value (n + 1) ('\x7b' :: b ++ ['\x7d']) (.object [])
  | object {n : Nat} {t : List Char} {members : List (String × Json)} :
      Members n t members → (members.head?.map Prod.fst) ≠ some numberKey →
      Value (n + 1) ('\x7b' :: t ++ ['\x7d']) (.object (merged members))
  -- an object that stands for a number has this member and no other
  | numberObject {n : Nat} {b key b' b'' t b''' told : List Char} {s : String} :
      Blanks b → Quoted key numberKey → Blanks b' → Blanks b'' → Quoted t s → Blanks b''' →
      Number s.toList told →
      Value (n + 1) ('\x7b' :: b ++ key ++ b' ++ ':' :: b'' ++ t ++ b''' ++ ['\x7d'])
        (.number (String.ofList told))

-- A value between blanks.
inductive Padded : Nat → List Char → Json → Prop where
  | mk {n : Nat} {b t b' : List Char} {value : Json} :
      Blanks b → Value n t value → Blanks b' → Padded n (b ++ t ++ b') value

inductive Items : Nat → List Char → List Json → Prop where
  | one {n : Nat} {t : List Char} {item : Json} : Padded n t item → Items n t [item]
  | more {n : Nat} {t u : List Char} {item : Json} {items : List Json} :
      Padded n t item → Items n u items → Items n (t ++ ',' :: u) (item :: items)

inductive Members : Nat → List Char → List (String × Json) → Prop where
  | one {n : Nat} {b k b' t : List Char} {key : String} {value : Json} :
      Blanks b → Quoted k key → Blanks b' → Padded n t value →
      Members n (b ++ k ++ b' ++ ':' :: t) [(key, value)]
  | more {n : Nat} {b k b' t u : List Char} {key : String} {value : Json}
      {members : List (String × Json)} :
      Blanks b → Quoted k key → Blanks b' → Padded n t value → Members n u members →
      Members n (b ++ k ++ b' ++ ':' :: t ++ ',' :: u) ((key, value) :: members)

end

-- A whole text: one value between blanks, in which 127 arrays and objects may be open at once.
def Document (text : String) (value : Json) : Prop := Padded 127 text.toList value

end ProbeReport.Json.Grammar
