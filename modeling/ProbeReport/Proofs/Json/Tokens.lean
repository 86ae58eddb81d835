import ProbeReport.Proofs.Json.Printing

-- The tokens of a text, told without regard to how they fit together.
namespace ProbeReport.Json

-- A number with its exponent told in one way: `e` with a sign.
def signExponent : List Char → List Char
  | [] => []
  | c :: rest =>
    if c = 'e' ∨ c = 'E' then
      if rest.head? = some '+' ∨ rest.head? = some '-' then 'e' :: rest else 'e' :: '+' :: rest
    else c :: signExponent rest

inductive Token where
  | mark (c : Char)
  | word (letters : List Char)
  | number (spelling : List Char)
  | string (value : String)
  deriving Repr, DecidableEq

namespace Token

def signed : Token → Token
  | .number spelling => .number (signExponent spelling)
  | token => token

def marks : List Char := ['[', ']', '\x7b', '\x7d', ',', ':']

-- A run of such characters is one token, as long as it can be.
def isBare (c : Char) : Bool := !isBlank c && !marks.contains c && c ≠ '"'

def words : List (List Char) := [['n', 'u', 'l', 'l'], Json.word true, Json.word false]

def ofBare (run : List Char) : Token := if run ∈ words then .word run else .number run

-- The letters behind a backslash, and what they stand for.
def shorthands : List (Char × Char) :=
  [('"', '"'), ('\\', '\\'), ('/', '/'), ('b', '\x08'), ('f', '\x0c'), ('n', '\n'), ('r', '\r'),
   ('t', '\t')]

-- The code unit that hexadecimal digits spell.
def codeUnit? (digits : List Char) : Option Nat :=
  (digits.mapM Text.hexValue?).map fun values => values.foldl (fun n v => n * 16 + v) 0

instance (unit : Nat) : Decidable (Grammar.IsHighSurrogate unit) :=
  inferInstanceAs (Decidable (_ ∧ _))

instance (unit : Nat) : Decidable (Grammar.IsLowSurrogate unit) :=
  inferInstanceAs (Decidable (_ ∧ _))

-- The character that a code unit completes, if it does. A high surrogate waits for a low one.
def takeUnit (high : Option Nat) (unit : Nat) : Option (Option Nat × List Char) :=
  match high with
  | some high =>
    if Grammar.IsLowSurrogate unit then
      some (none, [Char.ofNat (0x10000 + (high - 0xd800) * 0x400 + (unit - 0xdc00))])
    else none
  | none =>
    if Grammar.IsLowSurrogate unit then none
    else if Grammar.IsHighSurrogate unit then some (some unit, [])
    else some (none, [Char.ofNat unit])

-- The characters that a string stands for.
def unescape? (high : Option Nat) : List Char → Option (List Char)
  | [] => if high.isNone then some [] else none
  | '\\' :: 'u' :: a :: b :: c :: d :: rest =>
    ((codeUnit? [a, b, c, d]).bind (takeUnit high)).bind fun next =>
      (unescape? next.1 rest).map (next.2 ++ ·)
  | '\\' :: letter :: rest =>
    match high, shorthands.lookup letter with
    | none, some c => (unescape? none rest).map (c :: ·)
    | _, _ => none
  | c :: rest => if high.isNone then (unescape? none rest).map (c :: ·) else none

-- Where a text is left off: between two tokens, or within one, whose characters so far stand
-- in reverse.
inductive Place where
  | between
  | bare (seen : List Char)
  | quoted (seen : List Char)
  | escaped (seen : List Char)

-- The first character of a token, or a blank before it.
def opens (c : Char) : Place × List Token :=
  if isBlank c then (.between, [])
  else if c ∈ marks then (.between, [.mark c])
  else if c = '"' then (.quoted [], [])
  else (.bare [c], [])

-- Goes one character further. A run of bare characters ends before one that is not bare.
def step (place : Place) (c : Char) : Option (Place × List Token) :=
  match place with
  | .between => some (opens c)
  | .bare seen =>
    if isBare c then some (.bare (c :: seen), [])
    else some ((opens c).1, .ofBare seen.reverse :: (opens c).2)
  | .quoted seen =>
    if c = '"' then
      (unescape? none seen.reverse).map fun value => (.between, [.string (String.ofList value)])
    else some (if c = '\\' then .escaped (c :: seen) else .quoted (c :: seen), [])
  | .escaped seen => some (.quoted (c :: seen), [])

def finish : Place → Option (List Token)
  | .between => some []
  | .bare seen => some [.ofBare seen.reverse]
  | _ => none

def scan (place : Place) : List Char → Option (List Token)
  | [] => finish place
  | c :: rest => (step place c).bind fun next => (scan next.1 rest).map (next.2 ++ ·)

-- The keys of each object, in the order in which the objects end. A string before a colon is
-- a key of the innermost object that is open.
def keyLists : List (List String) → List Token → List (List String)
  | _, [] => []
  | opened, .mark '\x7b' :: rest => keyLists ([] :: opened) rest
  | keys :: opened, .mark '\x7d' :: rest => keys :: keyLists opened rest
  | opened, .string key :: .mark ':' :: rest =>
    keyLists (opened.modifyHead (· ++ [key])) rest
  | opened, _ :: rest => keyLists opened rest

end Token

def tokens? (text : String) : Option (List Token) := Token.scan .between text.toList

-- An object has plain keys when none of them is repeated and the first does not make it a
-- number.
def PlainKeys (keys : List String) : Prop := keys.Nodup ∧ keys.head? ≠ some numberKey

instance (keys : List String) : Decidable (PlainKeys keys) := inferInstanceAs (Decidable (_ ∧ _))

-- All objects of a text have plain keys.
def HasPlainKeys (text : String) : Prop :=
  ∀ tokens ∈ tokens? text, ∀ keys ∈ Token.keyLists [] tokens, PlainKeys keys

mutual

-- The tokens that a value is told with.
def tokens : Json → List Token
  | .null => [.word ['n', 'u', 'l', 'l']]
  | .bool value => [.word (word value)]
  | .number spelling => [.number spelling.toList]
  | .string value => [.string value]
  | .array [] => [.mark '[', .mark ']']
  | .array (item :: rest) => .mark '[' :: tokens item ++ itemTokens rest
  | .object [] => [.mark '\x7b', .mark '\x7d']
  | .object ((key, value) :: rest) =>
    .mark '\x7b' :: .string key :: .mark ':' :: tokens value ++ memberTokens rest

def itemTokens : List Json → List Token
  | [] => [.mark ']']
  | item :: rest => .mark ',' :: tokens item ++ itemTokens rest

def memberTokens : List (String × Json) → List Token
  | [] => [.mark '\x7d']
  | (key, value) :: rest =>
    .mark ',' :: .string key :: .mark ':' :: tokens value ++ memberTokens rest

end

section Exponents

open Grammar

theorem signExponent_append {first second : List Char} (h : ∀ c ∈ first, c ≠ 'e' ∧ c ≠ 'E') :
    signExponent (first ++ second) = first ++ signExponent second := by
  induction first with
  | nil => rfl
  | cons c rest ih =>
      have hc := h c (by simp)
      have hrest := ih fun d hd => h d (List.mem_cons_of_mem c hd)
      simp [signExponent, hc, hrest]

-- A number without an exponent stays digit for digit.
theorem signExponent_of_plain {spelling : List Char} (he : 'e' ∉ spelling) (hE : 'E' ∉ spelling) :
    signExponent spelling = spelling := by
  have hplain : ∀ c ∈ spelling, c ≠ 'e' ∧ c ≠ 'E' := by
    intro c hc
    exact ⟨fun h => he (h ▸ hc), fun h => hE (h ▸ hc)⟩
  have happend : signExponent (spelling ++ []) = spelling ++ [] := signExponent_append hplain
  rwa [List.append_nil] at happend

theorem plain_of_isDigit {c : Char} (h : IsDigit c) : c ≠ 'e' ∧ c ≠ 'E' :=
  ⟨Numeral.ne_of_isDigit h (by decide), Numeral.ne_of_isDigit h (by decide)⟩

theorem plain_of_whole {t : List Char} (h : Whole t) : ∀ c ∈ t, c ≠ 'e' ∧ c ≠ 'E' := by
  cases h with
  | zero => simp
  | digits hc _ ht =>
      intro d hd
      rcases List.mem_cons.mp hd with rfl | hd
      · exact plain_of_isDigit hc
      · exact plain_of_isDigit (ht d hd)

theorem plain_of_fraction {t : List Char} (h : Fraction t) : ∀ c ∈ t, c ≠ 'e' ∧ c ≠ 'E' := by
  cases h with
  | absent => simp
  | present ht =>
      intro d hd
      rcases List.mem_cons.mp hd with rfl | hd
      · decide
      · exact plain_of_isDigit (ht.2 d hd)

theorem signExponent_exponent {t told : List Char} (h : Exponent t told) :
    signExponent t = told := by
  cases h with
  | absent => rfl
  | @unsigned mark digits hm hd =>
      obtain ⟨c, rest, rfl⟩ := List.exists_cons_of_ne_nil hd.1
      have hc := hd.2 c (by simp)
      have hp : c ≠ '+' := Numeral.ne_of_isDigit hc (by decide)
      have hn : c ≠ '-' := Numeral.ne_of_isDigit hc (by decide)
      simp [signExponent, hm, hp, hn]
  | signed hm hs _ => simp [signExponent, hm, hs]

-- What the grammar tells of a number is its spelling with the exponent told in one way.
theorem signExponent_number {t told : List Char} (h : Number t told) : signExponent t = told := by
  obtain ⟨hm, hw, hf, hx⟩ := h
  rename_i minus whole fraction exponent told
  have hminus : ∀ c ∈ minus, c ≠ 'e' ∧ c ≠ 'E' := by cases hm <;> simp
  have hfront : ∀ c ∈ minus ++ whole ++ fraction, c ≠ 'e' ∧ c ≠ 'E' := by
    intro c hc
    simp only [List.mem_append] at hc
    rcases hc with (hc | hc) | hc
    · exact hminus c hc
    · exact plain_of_whole hw c hc
    · exact plain_of_fraction hf c hc
  rw [signExponent_append hfront, signExponent_exponent hx]

end Exponents

namespace Token

open Grammar

section Strings

theorem codeUnit?_quad {quad : List Char} {n : Nat} (h : Quad quad n) :
    codeUnit? quad = some n := by
  cases h with
  | mk ha hb hc hd =>
      rw [← hexValue?_eq_some_iff] at ha hb hc hd
      simp [codeUnit?, ha, hb, hc, hd]

theorem unescape?_unit {quad : List Char} {n : Nat} (hq : Quad quad n) (high : Option Nat)
    (rest : List Char) :
    unescape? high ('\\' :: 'u' :: quad ++ rest) =
      (takeUnit high n).bind fun next => (unescape? next.1 rest).map (next.2 ++ ·) := by
  have hu := codeUnit?_quad hq
  obtain ⟨-, -, -, -⟩ := hq
  rw [List.cons_append, List.cons_append, List.cons_append, List.cons_append, List.cons_append,
    List.cons_append, List.nil_append, unescape?, hu]
  rfl

-- However a character is written, it is unescaped to itself.
theorem unescape?_piece {piece : List Char} {c : Char} (h : Piece piece c) (rest : List Char) :
    unescape? none (piece ++ rest) = (unescape? none rest).map (c :: ·) := by
  cases h with
  | plain _ hb _ => simp [unescape?, hb]
  | short he => cases he <;> rfl
  | @unit quad n _ hq hh hl hc =>
      have hu : takeUnit none n = some (none, [Char.ofNat n]) := by
        rw [takeUnit, if_neg hl, if_neg hh]
      rw [unescape?_unit hq, hu, ← hc, Char.ofNat_toNat]
      rfl
  | @pair quad quad' high low _ hq hh hq' hl hc =>
      have hnot : ¬IsLowSurrogate high := by
        unfold IsHighSurrogate at hh
        unfold IsLowSurrogate
        omega
      have hu : takeUnit none high = some (some high, []) := by
        rw [takeUnit, if_neg hnot, if_pos hh]
      have hu' : takeUnit (some high) low = some (none, [c]) := by
        rw [takeUnit, if_pos hl, ← hc, Char.ofNat_toNat]
      rw [List.append_assoc, unescape?_unit hq, hu, Option.bind_some, unescape?_unit hq', hu']
      simp [Function.comp_def]

theorem unescape?_chars {t s : List Char} (h : Chars t s) : unescape? none t = some s := by
  induction h with
  | nil => rfl
  | cons hp _ ih => rw [unescape?_piece hp, ih]; rfl

end Strings

section Scanning

open Reader

variable {t : List Char}

theorem scan_cons (place : Place) (c : Char) (rest : List Char) :
    scan place (c :: rest) =
      (step place c).bind fun next => (scan next.1 rest).map (next.2 ++ ·) := rfl

theorem scan_cons_of_step {place next : Place} {c : Char} (h : step place c = some (next, []))
    (rest : List Char) : scan place (c :: rest) = scan next rest := by
  simp [scan_cons, h]

theorem scan_blanks (ht : Blanks t) (rest : List Char) :
    scan .between (t ++ rest) = scan .between rest := by
  induction t with
  | nil => rfl
  | cons c more ih =>
      rw [blanks_cons] at ht
      have hs : step .between c = some (.between, []) := by simp [step, opens, ht.1]
      rw [List.cons_append, scan_cons_of_step hs, ih ht.2]

theorem scan_mark {c : Char} (hc : c ∈ marks) (rest : List Char) :
    scan .between (c :: rest) = (scan .between rest).map (.mark c :: ·) := by
  have hblank : ∀ c ∈ marks, isBlank c = false := by simp [marks, isBlank]
  simp [scan_cons, step, opens, hblank c hc, hc]

section Quoted

variable {seen : List Char}

theorem scan_quoted_plain (ht : ∀ c ∈ t, c ≠ '"' ∧ c ≠ '\\') (rest : List Char) :
    scan (.quoted seen) (t ++ rest) = scan (.quoted (t.reverse ++ seen)) rest := by
  induction t generalizing seen with
  | nil => rfl
  | cons c more ih =>
      obtain ⟨hq, hb⟩ := ht c (by simp)
      have hs : step (.quoted seen) c = some (.quoted (c :: seen), []) := by simp [step, hq, hb]
      rw [List.cons_append, scan_cons_of_step hs, ih fun d hd => ht d (List.mem_cons_of_mem c hd)]
      simp

theorem scan_quoted_escape (c : Char) (rest : List Char) :
    scan (.quoted seen) ('\\' :: c :: rest) = scan (.quoted (c :: '\\' :: seen)) rest := by
  have hs : step (.quoted seen) '\\' = some (.escaped ('\\' :: seen), []) := rfl
  rw [scan_cons_of_step hs, scan_cons_of_step rfl]

theorem plain_of_quad {quad : List Char} {n : Nat} (h : Quad quad n) :
    ∀ c ∈ quad, c ≠ '"' ∧ c ≠ '\\' := by
  have hdigit {c : Char} {v : Nat} (hc : HexDigit c v) : c ≠ '"' ∧ c ≠ '\\' := by
    have hcases := hexDigit_cases hc
    constructor <;> rintro rfl <;> simp at hcases
  obtain ⟨ha, hb, hc, hd⟩ := h
  simpa using ⟨hdigit ha, hdigit hb, hdigit hc, hdigit hd⟩

theorem scan_quoted_piece {piece : List Char} {c : Char} (h : Piece piece c) (rest : List Char) :
    scan (.quoted seen) (piece ++ rest) = scan (.quoted (piece.reverse ++ seen)) rest := by
  cases h with
  | plain hq hb _ => exact scan_quoted_plain (by simp [hq, hb]) rest
  | short _ => exact scan_quoted_escape _ rest
  | unit hq _ _ _ =>
      rw [List.cons_append, List.cons_append, scan_quoted_escape,
        scan_quoted_plain (plain_of_quad hq)]
      simp
  | pair hq _ hq' _ _ =>
      rw [List.append_assoc, List.cons_append, List.cons_append, scan_quoted_escape,
        scan_quoted_plain (plain_of_quad hq), List.cons_append, List.cons_append,
        scan_quoted_escape, scan_quoted_plain (plain_of_quad hq')]
      simp

theorem scan_quoted_chars {s : List Char} (h : Chars t s) (rest : List Char) :
    scan (.quoted seen) (t ++ rest) = scan (.quoted (t.reverse ++ seen)) rest := by
  induction h generalizing seen with
  | nil => rfl
  | cons hp _ ih => rw [List.append_assoc, scan_quoted_piece hp, ih]; simp

end Quoted

theorem scan_string {s : String} (h : Quoted t s) (rest : List Char) :
    scan .between (t ++ rest) = (scan .between rest).map (.string s :: ·) := by
  obtain ⟨ht⟩ := h
  rename_i t s
  have hs : step (.quoted t.reverse) '"' = some (.between, [.string (String.ofList s)]) := by
    simp [step, unescape?_chars ht]
  have ho : step .between '"' = some (.quoted [], []) := rfl
  rw [List.append_assoc, List.cons_append, scan_cons_of_step ho, scan_quoted_chars ht,
    List.append_nil, List.singleton_append, scan_cons, hs]
  rfl

section Bare

theorem not_isBare_of_delimiter {c : Char}
    (h : isBlank c = true ∨ c = ',' ∨ c = ']' ∨ c = '\x7d') : isBare c = false := by
  rcases h with h | rfl | rfl | rfl
  · simp [isBare, h]
  · rfl
  · rfl
  · rfl

-- A run ends where something follows that can stand behind a number.
theorem scan_bare_end {seen rest : List Char} (hr : Delimited rest) :
    scan (.bare seen) rest = (scan .between rest).map (.ofBare seen.reverse :: ·) := by
  cases rest with
  | nil => rfl
  | cons c more =>
      have hc : isBare c = false := not_isBare_of_delimiter (by simpa [Delimited] using hr)
      simp [scan_cons, step, hc, Function.comp_def]

theorem scan_bare (ht : ∀ c ∈ t, isBare c = true) {seen rest : List Char} (hr : Delimited rest) :
    scan (.bare seen) (t ++ rest) =
      (scan .between rest).map (.ofBare (seen.reverse ++ t) :: ·) := by
  induction t generalizing seen with
  | nil => rw [List.nil_append, List.append_nil, scan_bare_end hr]
  | cons c more ih =>
      have hs : step (.bare seen) c = some (.bare (c :: seen), []) := by
        simp [step, ht c (by simp)]
      rw [List.cons_append, scan_cons_of_step hs, ih fun d hd => ht d (List.mem_cons_of_mem c hd)]
      simp

theorem opens_of_isBare {c : Char} (h : isBare c = true) : opens c = (.bare [c], []) := by
  simp only [isBare, Bool.and_eq_true, Bool.not_eq_true', decide_eq_true_eq] at h
  simp_all [opens]

theorem scan_run (hne : t ≠ []) (ht : ∀ c ∈ t, isBare c = true) {rest : List Char}
    (hr : Delimited rest) :
    scan .between (t ++ rest) = (scan .between rest).map (.ofBare t :: ·) := by
  obtain ⟨c, more, rfl⟩ := List.exists_cons_of_ne_nil hne
  have hs : step .between c = some (.bare [c], []) := by
    rw [step, opens_of_isBare (ht c (by simp))]
  rw [List.cons_append, scan_cons_of_step hs,
    scan_bare (fun d hd => ht d (List.mem_cons_of_mem c hd)) hr]
  rfl

theorem scan_word {letters rest : List Char} (h : letters ∈ words) (hr : Delimited rest) :
    scan .between (letters ++ rest) = (scan .between rest).map (.word letters :: ·) := by
  have hne : letters ≠ [] := by
    rintro rfl
    exact absurd h (by decide)
  have hbare : words.all (·.all isBare) = true := by decide
  rw [scan_run hne (List.all_eq_true.1 (List.all_eq_true.1 hbare letters h)) hr, ofBare, if_pos h]

end Bare

end Scanning

end Token

end ProbeReport.Json
