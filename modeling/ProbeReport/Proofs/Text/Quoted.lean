import ProbeReport.Proofs.Text.Digit
import ProbeReport.Text.Quoted

-- A text in quotes stays on its line, and it can be read back from there.
namespace ProbeReport.Text

-- Characters that steer what they are shown on, line feeds and carriage returns among them.
def IsControl (c : Char) : Prop := c.toNat < 0x20 ∨ 0x7f ≤ c.toNat ∧ c.toNat < 0xa0

instance (c : Char) : Decidable (IsControl c) := inferInstanceAs (Decidable (_ ∨ _))

def IsOneLine (s : String) : Prop := ∀ c ∈ s.toList, ¬IsControl c

instance (s : String) : Decidable (IsOneLine s) := List.decidableBAll _ _

@[simp] theorem isOneLine_append {s t : String} :
    IsOneLine (s ++ t) ↔ IsOneLine s ∧ IsOneLine t := by
  simp only [IsOneLine, String.toList_append, List.mem_append, or_imp, forall_and]

theorem not_isControl_of_isLowerHex {c : Char} (h : isLowerHex c = true) : ¬IsControl c :=
  of_isLowerHex (P := fun c => ¬IsControl c) (by decide) h

@[simp] theorem isOneLine_toString (n : Nat) : IsOneLine (toString n) := fun c hc =>
  not_isControl_of_isLowerHex (by rw [isLowerHex, isDigit_of_mem_toString hc, Bool.true_or])

namespace Quoted

-- What two digits behind `\x` stand for.
def ascii? (high low : Char) : Option Char :=
  match hexValue? high, hexValue? low with
  | some high, some low => if high < 8 then some (Char.ofNat (16 * high + low)) else none
  | _, _ => none

-- What stands between the braces behind `\u`: one to six digits of the code point, and any number
-- of low lines behind the first of them.
def scalar? (inside : List Char) : Option Char :=
  let digits := inside.filter (· ≠ '_')
  let code := valueIn 16 digits
  if inside.head? ≠ some '_' ∧ digits ≠ [] ∧ digits.length ≤ 6 ∧
      (digits.all fun c => (hexValue? c).isSome) ∧ code.isValidChar then
    some (Char.ofNat code)
  else none

-- Reads what a backslash stands before, and gives the rest.
def unescape? : List Char → Option (Char × List Char)
  | '0' :: rest => some ('\x00', rest)
  | 't' :: rest => some ('\t', rest)
  | 'r' :: rest => some ('\r', rest)
  | 'n' :: rest => some ('\n', rest)
  | '\\' :: rest => some ('\\', rest)
  | '"' :: rest => some ('"', rest)
  | '\x27' :: rest => some ('\x27', rest)
  | 'x' :: high :: low :: rest => (ascii? high low).map (·, rest)
  | 'u' :: '\x7b' :: rest =>
    match rest.dropWhile (· ≠ '\x7d') with
    | _ :: behind => (scalar? (rest.takeWhile (· ≠ '\x7d'))).map (·, behind)
    | [] => none
  | _ => none

theorem length_of_unescape? {t rest : List Char} {c : Char} (h : unescape? t = some (c, rest)) :
    rest.length < t.length := by
  rw [unescape?.eq_def] at h
  split at h
  case h_8 high low behind =>
    obtain ⟨_, -, h⟩ := Option.map_eq_some_iff.1 h
    cases h
    simp only [List.length_cons]
    omega
  case h_9 behind =>
    split at h
    · rename_i brace behind' hd
      obtain ⟨_, -, h⟩ := Option.map_eq_some_iff.1 h
      cases h
      have hle := (List.dropWhile_suffix (l := behind) (· ≠ '\x7d')).length_le
      rw [hd] at hle
      simp only [List.length_cons] at hle ⊢
      omega
    · cases h
  case h_10 => cases h
  all_goals
    cases h
    simp only [List.length_cons]
    omega

-- Reads up to the closing quote, and gives the rest.
def inside? : List Char → Option (List Char × List Char)
  | [] => none
  | '"' :: rest => some ([], rest)
  | '\\' :: rest =>
    match _h : unescape? rest with
    | some (c, rest) => (inside? rest).map fun (s, rest) => (c :: s, rest)
    | none => none
  | c :: rest => (inside? rest).map fun (s, rest) => (c :: s, rest)
termination_by t => t.length
decreasing_by
  · have := length_of_unescape? _h
    simp only [List.length_cons]
    omega
  · exact Nat.lt_succ_self _

theorem length_of_inside? {t s rest : List Char} (h : inside? t = some (s, rest)) :
    rest.length < t.length := by
  fun_induction inside? t generalizing s with
  | case1 => cases h
  | case2 =>
      cases h
      exact Nat.lt_succ_self _
  | case3 behind c next hu ih =>
      obtain ⟨⟨s', rest'⟩, hs, h⟩ := Option.map_eq_some_iff.1 h
      cases h
      have := length_of_unescape? hu
      have := ih hs
      rw [List.length_cons]
      omega
  | case4 => cases h
  | case5 c next _ _ ih =>
      obtain ⟨⟨s', rest'⟩, hs, h⟩ := Option.map_eq_some_iff.1 h
      cases h
      exact Nat.lt_succ_of_lt (ih hs)

-- Reads a text in quotes, and gives the rest.
def read? : List Char → Option (String × List Char)
  | '"' :: rest => (inside? rest).map fun (s, rest) => (String.ofList s, rest)
  | _ => none

theorem not_isControl_of_not_needsCode {c : Char} (h : needsCode c = false) : ¬IsControl c := by
  simp only [needsCode, Bool.or_eq_false_iff, Bool.and_eq_false_imp, decide_eq_false_iff_not,
    decide_eq_true_eq] at h
  rintro (hc | ⟨hl, hu⟩)
  · exact h.1 hc
  · exact (h.2 hl).1 hu

-- The ways in which a character is written: with a mark of its own, with its code point, or as it
-- is.
theorem escape_cases (c : Char) :
    (∃ mark, escape c = ['\\', mark] ∧ ¬IsControl mark ∧
      ∀ rest, unescape? (mark :: rest) = some (c, rest)) ∨
    escape c = '\\' :: 'u' :: '\x7b' :: hexDigits c.toNat ++ ['\x7d'] ∨
    escape c = [c] ∧ c ≠ '"' ∧ c ≠ '\\' ∧ ¬IsControl c := by
  unfold escape
  (repeat' split) <;> subst_vars
  · exact .inl ⟨'0', rfl, by decide, fun _ => rfl⟩
  · exact .inl ⟨'t', rfl, by decide, fun _ => rfl⟩
  · exact .inl ⟨'r', rfl, by decide, fun _ => rfl⟩
  · exact .inl ⟨'n', rfl, by decide, fun _ => rfl⟩
  · exact .inl ⟨'\\', rfl, by decide, fun _ => rfl⟩
  · exact .inl ⟨'"', rfl, by decide, fun _ => rfl⟩
  · exact .inr (.inl rfl)
  · rename_i hb hq hn
    exact .inr (.inr ⟨rfl, hq, hb, not_isControl_of_not_needsCode (Bool.eq_false_iff.2 hn)⟩)

section Reading

variable {c : Char} {t rest : List Char}

theorem inside?_quote (rest : List Char) : inside? ('"' :: rest) = some ([], rest) := by
  rw [inside?]

theorem inside?_backslash (h : unescape? t = some (c, rest)) :
    inside? ('\\' :: t) = (inside? rest).map fun (s, rest) => (c :: s, rest) := by
  rw [inside?]
  split
  · rename_i heq
    rw [h] at heq
    cases heq
    rfl
  · rename_i heq
    rw [h] at heq
    cases heq

theorem inside?_plain (hq : c ≠ '"') (hb : c ≠ '\\') (rest : List Char) :
    inside? (c :: rest) = (inside? rest).map fun (s, rest) => (c :: s, rest) := by
  rw [inside?]
  · exact hq
  · exact hb

theorem scalar?_hexDigits (c : Char) : scalar? (hexDigits c.toNat) = some c := by
  have hdigit : ∀ d ∈ hexDigits c.toNat, d ≠ '_' ∧ (hexValue? d).isSome = true := fun d hd =>
    of_isLowerHex (P := fun d => d ≠ '_' ∧ (hexValue? d).isSome = true) (by decide)
      (isLowerHex_of_mem_hexDigits hd)
  have hfilter : (hexDigits c.toNat).filter (· ≠ '_') = hexDigits c.toNat :=
    List.filter_eq_self.2 fun d hd => decide_eq_true (hdigit d hd).1
  have hvalid : c.toNat.isValidChar := c.valid
  have hlength : (hexDigits c.toNat).length ≤ 6 := by
    refine length_hexDigits_le (by decide) (Nat.lt_of_lt_of_le ?_ (by decide : 0x110000 ≤ _))
    obtain hv | hv := hvalid <;> omega
  have hhead : (hexDigits c.toNat).head? ≠ some '_' :=
    fun hd => (hdigit '_' (List.mem_of_head? hd)).1 rfl
  have hhex : ((hexDigits c.toNat).all fun d => (hexValue? d).isSome) = true :=
    List.all_eq_true.2 fun d hd => (hdigit d hd).2
  rw [scalar?]
  simp only [hfilter, valueIn_hexDigits, Char.ofNat_toNat]
  exact if_pos ⟨hhead, hexDigits_ne_nil _, hlength, hhex, hvalid⟩

theorem unescape?_code (c : Char) (rest : List Char) :
    unescape? ('u' :: '\x7b' :: (hexDigits c.toNat ++ '\x7d' :: rest)) = some (c, rest) := by
  have hend : ∀ d ∈ hexDigits c.toNat, decide (d ≠ '\x7d') = true := fun d hd =>
    of_isLowerHex (P := fun d => decide (d ≠ '\x7d') = true) (by decide)
      (isLowerHex_of_mem_hexDigits hd)
  rw [unescape?, List.takeWhile_append_of_pos hend, List.dropWhile_append_of_pos hend]
  simp [scalar?_hexDigits]

theorem inside?_escape (c : Char) (rest : List Char) :
    inside? (escape c ++ rest) = (inside? rest).map fun (s, rest) => (c :: s, rest) := by
  obtain ⟨mark, he, -, hr⟩ | he | ⟨he, hq, hb, -⟩ := escape_cases c
  · rw [he]
    exact inside?_backslash (hr rest)
  · rw [he]
    simpa using inside?_backslash (unescape?_code c rest)
  · rw [he]
    exact inside?_plain hq hb rest

theorem inside?_flatMap (s rest : List Char) :
    inside? (s.flatMap escape ++ '"' :: rest) = some (s, rest) := by
  induction s with
  | nil => exact inside?_quote rest
  | cons c s ih => rw [List.flatMap_cons, List.append_assoc, inside?_escape, ih, Option.map_some]

theorem read?_encode (s : String) (rest : List Char) :
    read? ((encode s).toList ++ rest) = some (s, rest) := by
  rw [encode, String.toList_ofList, List.cons_append, List.cons_append, List.append_assoc,
    List.singleton_append, read?, inside?_flatMap]
  simp only [Option.map_some, String.ofList_toList]

theorem not_isControl_of_mem_escape {d : Char} (h : d ∈ escape c) : ¬IsControl d := by
  obtain ⟨mark, he, hm, -⟩ | he | ⟨he, -, -, hc⟩ := escape_cases c
  · rw [he, List.mem_cons, List.mem_singleton] at h
    obtain rfl | rfl := h
    · decide
    · exact hm
  · rw [he] at h
    simp only [List.cons_append, List.mem_cons, List.mem_append, List.not_mem_nil, or_false] at h
    obtain rfl | rfl | rfl | hd | rfl := h
    · decide
    · decide
    · decide
    · exact not_isControl_of_isLowerHex (isLowerHex_of_mem_hexDigits hd)
    · decide
  · rw [he, List.mem_singleton] at h
    rwa [h]

@[simp] theorem isOneLine_encode (s : String) : IsOneLine (encode s) := by
  intro d hd
  rw [encode, String.toList_ofList, List.cons_append, List.mem_cons, List.mem_append,
    List.mem_singleton, List.mem_flatMap] at hd
  obtain rfl | ⟨c, -, hc⟩ | rfl := hd
  · decide
  · exact not_isControl_of_mem_escape hc
  · decide

end Reading

end Quoted

end ProbeReport.Text
