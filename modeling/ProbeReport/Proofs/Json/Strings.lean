import ProbeReport.Proofs.Json.Scan

namespace ProbeReport.Json

open Grammar

theorem le_iff_toNat_le {c d : Char} : c ≤ d ↔ c.toNat ≤ d.toNat := Iff.rfl

theorem toNat_ofNat {n : Nat} (h : n.isValidChar) : (Char.ofNat n).toNat = n := by
  rw [Char.ofNat, dif_pos h]
  rfl

section Hex

variable {c : Char} {v n : Nat} {t : List Char}

theorem hexValue?_eq_some_iff : Text.hexValue? c = some v ↔ HexDigit c v := by
  constructor
  · intro h
    unfold Text.hexValue? at h
    split at h
    · rename_i hc
      cases h
      exact .decimal hc.1 hc.2
    · split at h
      · rename_i hc
        cases h
        exact .lower hc.1 hc.2
      · split at h
        · rename_i hc
          cases h
          exact .upper hc.1 hc.2
        · cases h
  · -- the three ranges do not overlap
    have h9 : '9'.toNat = 57 := rfl
    have ha : 'a'.toNat = 97 := rfl
    have hA : 'A'.toNat = 65 := rfl
    have hF : 'F'.toNat = 70 := rfl
    rintro (⟨hl, hu⟩ | ⟨hl, hu⟩ | ⟨hl, hu⟩)
    · simp [Text.hexValue?, hl, hu]
    · have hd : ¬c ≤ '9' := by rw [le_iff_toNat_le] at hl ⊢; omega
      simp [Text.hexValue?, hl, hu, hd]
    · have hd : ¬c ≤ '9' := by rw [le_iff_toNat_le] at hl ⊢; omega
      have hlow : ¬ 'a' ≤ c := by rw [le_iff_toNat_le] at hu ⊢; omega
      simp [Text.hexValue?, hl, hu, hd, hlow]

theorem hexDigit_cases (h : HexDigit c v) :
    (48 ≤ c.toNat ∧ c.toNat ≤ 57 ∧ v = c.toNat - 48) ∨
      (97 ≤ c.toNat ∧ c.toNat ≤ 102 ∧ v = c.toNat - 97 + 10) ∨
        65 ≤ c.toNat ∧ c.toNat ≤ 70 ∧ v = c.toNat - 65 + 10 := by
  cases h with
  | decimal hl hu => exact .inl ⟨hl, hu, rfl⟩
  | lower hl hu => exact .inr (.inl ⟨hl, hu, rfl⟩)
  | upper hl hu => exact .inr (.inr ⟨hl, hu, rfl⟩)

theorem utf8Size_of_hexDigit (h : HexDigit c v) : c.utf8Size = 1 := by
  have hc := hexDigit_cases h
  have hle : c.toNat ≤ 127 := by omega
  rw [Char.utf8Size_eq_one_iff, UInt32.le_iff_toNat_le]
  exact hle

theorem lt_of_hexDigit (h : HexDigit c v) : v < 16 := by
  have hc := hexDigit_cases h
  omega

theorem lt_of_quad (h : Quad t n) : n < 0x10000 := by
  cases h with
  | mk ha hb hc hd =>
      have := lt_of_hexDigit ha
      have := lt_of_hexDigit hb
      have := lt_of_hexDigit hc
      have := lt_of_hexDigit hd
      omega

@[simp] theorem byteCount_nil : byteCount [] = 0 := rfl

@[simp] theorem byteCount_cons (c : Char) (t : List Char) :
    byteCount (c :: t) = c.utf8Size + byteCount t := rfl

theorem length_le_byteCount (t : List Char) : t.length ≤ byteCount t := by
  induction t with
  | nil => simp
  | cons c rest ih =>
      have hc := c.utf8Size_pos
      simp only [List.length_cons, byteCount_cons]
      omega

theorem byteCount_append (first second : List Char) :
    byteCount (first ++ second) = byteCount first + byteCount second := by
  induction first with
  | nil => simp
  | cons c rest ih => simp only [List.cons_append, byteCount_cons, ih, Nat.add_assoc]

theorem byteCount_reverse (t : List Char) : byteCount t.reverse = byteCount t := by
  induction t with
  | nil => rfl
  | cons c rest ih => simp [byteCount_append, ih, Nat.add_comm]

theorem byteCount_of_mapM {t : List Char} {digits : List Nat}
    (h : t.mapM Text.hexValue? = some digits) : byteCount t = t.length := by
  induction t generalizing digits with
  | nil => rfl
  | cons c rest ih =>
      simp only [List.mapM_cons, Option.bind_eq_bind, Option.bind_eq_some_iff] at h
      obtain ⟨v, hv, vs, hvs, -⟩ := h
      have hc := utf8Size_of_hexDigit (hexValue?_eq_some_iff.mp hv)
      simp only [byteCount_cons, List.length_cons, ih hvs, hc]
      omega

-- Four characters that are all hexadecimal digits spell a code unit.
theorem quad_of_mapM {t : List Char} {digits : List Nat} (hl : t.length = 4)
    (h : t.mapM Text.hexValue? = some digits) :
    Quad t (digits.foldl (fun n d => n * 16 + d) 0) := by
  match t, hl with
  | [a, b, c, d], _ =>
      simp only [List.mapM_cons, List.mapM_nil, Option.bind_eq_bind, Option.bind_eq_some_iff,
        Option.pure_def, Option.some.injEq, hexValue?_eq_some_iff] at h
      obtain ⟨w, hw, _, ⟨x, hx, _, ⟨y, hy, _, ⟨z, hz, _, rfl, rfl⟩, rfl⟩, rfl⟩, rfl⟩ := h
      simpa using Quad.mk hw hx hy hz

end Hex

namespace Reader

variable {frames : List Frame} {role : Role} {c : Char} {chars t : List Char}

theorem isHigh_iff {unit : Nat} : isHigh unit = true ↔ IsHighSurrogate unit := by
  simp [isHigh, IsHighSurrogate]

theorem isLow_iff {unit : Nat} : isLow unit = true ↔ IsLowSurrogate unit := by
  simp [isLow, IsLowSurrogate]

theorem escaped?_eq_some_iff {letter : Char} : escaped? letter = some c ↔ ShortEscape letter c := by
  constructor
  · intro h
    simp only [escaped?, Bool.or_eq_true, decide_eq_true_eq] at h
    split at h
    · rename_i hl
      cases h
      rcases hl with (rfl | rfl) | rfl
      · exact .quote
      · exact .backslash
      · exact .slash
    · (repeat' split at h) <;> cases h <;> subst_vars
      · exact .backspace
      · exact .formFeed
      · exact .lineFeed
      · exact .carriageReturn
      · exact .tab
  · rintro ⟨⟩ <;> rfl

theorem isValidChar_of_not_surrogate {unit : Nat} (hu : unit < 0x10000) (hh : ¬IsHighSurrogate unit)
    (hl : ¬IsLowSurrogate unit) : unit.isValidChar := by
  unfold IsHighSurrogate at hh
  unfold IsLowSurrogate at hl
  unfold Nat.isValidChar
  omega

theorem isValidChar_of_pair {high low : Nat} (hh : IsHighSurrogate high) (hl : IsLowSurrogate low) :
    (0x10000 + (high - 0xd800) * 0x400 + (low - 0xdc00)).isValidChar := by
  unfold IsHighSurrogate at hh
  unfold IsLowSurrogate at hl
  unfold Nat.isValidChar
  omega

section Reading

theorem step_hex_more {high : Option Nat} {seen : List Char}
    (h : byteCount seen + c.utf8Size < 4) :
    step ⟨.text role (.hex high seen) chars, frames⟩ c =
      .ok ⟨.text role (.hex high (c :: seen)) chars, frames⟩ := by
  simp only [step, textStep, hexStep, h, if_true, go]

theorem result?_hex {quad : List Char} {unit : Nat} (hq : Quad quad unit) (high : Option Nat)
    (rest : List Char) :
    result? ⟨.text role (.hex high []) chars, frames⟩ (quad ++ rest) =
      after (closeHex role high unit chars frames) rest := by
  cases hq with
  | @mk a b c d w x y z ha hb hc hd =>
      have sa := utf8Size_of_hexDigit ha
      have sb := utf8Size_of_hexDigit hb
      have sc := utf8Size_of_hexDigit hc
      have sd := utf8Size_of_hexDigit hd
      rw [← hexValue?_eq_some_iff] at ha hb hc hd
      have hs : step ⟨.text role (.hex high [c, b, a]) chars, frames⟩ d =
          closeHex role high (((w * 16 + x) * 16 + y) * 16 + z) chars frames := by
        simp [step, textStep, hexStep, sa, sb, sc, sd, ha, hb, hc, hd]
      rw [List.cons_append, result?_cons_of_ok (step_hex_more (by simp [sa])), List.cons_append,
        result?_cons_of_ok (step_hex_more (by simp [sa, sb])), List.cons_append,
        result?_cons_of_ok (step_hex_more (by simp [sa, sb, sc])), List.cons_append,
        List.nil_append, result?_cons, hs]

theorem result?_backslash (rest : List Char) :
    result? ⟨.text role .plain chars, frames⟩ ('\\' :: rest) =
      result? ⟨.text role .escape chars, frames⟩ rest := rfl

theorem result?_escape_unit (rest : List Char) :
    result? ⟨.text role .escape chars, frames⟩ ('u' :: rest) =
      result? ⟨.text role (.hex none []) chars, frames⟩ rest := rfl

-- However a character is written, it is read as itself.
theorem result?_piece {piece : List Char} (hp : Piece piece c) (rest : List Char) :
    result? ⟨.text role .plain chars, frames⟩ (piece ++ rest) =
      result? ⟨.text role .plain (c :: chars), frames⟩ rest := by
  cases hp with
  | plain hq hb hc =>
      have hs : step ⟨.text role .plain chars, frames⟩ c =
          .ok ⟨.text role .plain (c :: chars), frames⟩ := by
        simp [step, textStep, hq, hb, Nat.not_lt.mpr hc, go]
      exact result?_cons_of_ok hs rest
  | @short letter _ he =>
      have hs : step ⟨.text role .escape chars, frames⟩ letter =
          .ok ⟨.text role .plain (c :: chars), frames⟩ := by
        cases he <;> rfl
      exact result?_cons_of_ok hs rest
  | @unit quad _ _ hq hh hl hc =>
      subst hc
      have hs : closeHex role none c.toNat chars frames =
          .ok ⟨.text role .plain (c :: chars), frames⟩ := by
        simp [closeHex, isLow_iff, isHigh_iff, hh, hl, go]
      rw [List.cons_append, result?_backslash, List.cons_append, result?_escape_unit,
        result?_hex hq, hs]
      rfl
  | @pair quad quad' high low _ hq hh hq' hl hc =>
      have hlow : ¬IsLowSurrogate high := by
        unfold IsHighSurrogate at hh
        unfold IsLowSurrogate
        omega
      have hs : closeHex role none high chars frames =
          .ok ⟨.text role (.surrogate high false) chars, frames⟩ := by
        simp [closeHex, isLow_iff, isHigh_iff, hh, hlow, go]
      have hs' : closeHex role (some high) low chars frames =
          .ok ⟨.text role .plain (c :: chars), frames⟩ := by
        simp [closeHex, isLow_iff, hl, ← hc, go]
      have hr (t : List Char) : result? ⟨.text role (.surrogate high false) chars, frames⟩
          ('\\' :: 'u' :: t) = result? ⟨.text role (.hex (some high) []) chars, frames⟩ t := rfl
      simp only [List.cons_append, List.append_assoc]
      rw [result?_backslash, result?_escape_unit, result?_hex hq, hs, after_ok, hr, result?_hex hq',
        hs', after_ok]

-- A string is read up to its closing quote.
theorem result?_chars {s : List Char} (h : Chars t s) (rest : List Char) :
    result? ⟨.text role .plain chars, frames⟩ (t ++ '"' :: rest) =
      after (closeText role (s.reverse ++ chars) frames) rest := by
  induction h generalizing chars with
  | nil => rfl
  | cons hp _ ih => rw [List.append_assoc, result?_piece hp, ih]; simp

end Reading

-- What completes the text of a string whose reader is in the middle of it. What has been read
-- of an escape counts as if it still stood there.
def PartRest : Part → List Char → List Char → Prop
  | .plain, t, s => Chars t s
  | .escape, t, s => Chars ('\\' :: t) s
  | .hex none seen, t, s =>
    byteCount seen < 4 → Chars ('\\' :: 'u' :: (seen.reverse ++ t)) s
  | .hex (some high) seen, t, s =>
    byteCount seen < 4 → IsHighSurrogate high → ∀ quad, Quad quad high →
      Chars ('\\' :: 'u' :: quad ++ '\\' :: 'u' :: (seen.reverse ++ t)) s
  | .surrogate high false, t, s =>
    IsHighSurrogate high → ∀ quad, Quad quad high → Chars ('\\' :: 'u' :: quad ++ t) s
  | .surrogate high true, t, s =>
    IsHighSurrogate high → ∀ quad, Quad quad high → Chars ('\\' :: 'u' :: quad ++ '\\' :: t) s

-- The characters of an escape are four digits when they are judged.
theorem quad_of_seen {seen : List Char} {digits : List Nat}
    (hs : byteCount seen < 4) (hc : ¬byteCount seen + c.utf8Size < 4)
    (h : (c :: seen).reverse.mapM Text.hexValue? = some digits) :
    Quad (seen.reverse ++ [c]) (digits.foldl (fun n d => n * 16 + d) 0) := by
  rw [List.reverse_cons] at h
  have hsize := byteCount_of_mapM h
  simp only [byteCount_append, byteCount_reverse, byteCount_cons, byteCount_nil,
    List.length_append, List.length_reverse, List.length_cons, List.length_nil] at hsize
  have hseen := length_le_byteCount seen
  have hpos := c.utf8Size_pos
  have hl : (seen.reverse ++ [c]).length = 4 := by
    rw [List.length_append, List.length_reverse, List.length_singleton]
    omega
  exact quad_of_mapM hl h

-- What four digits lead to is completed by what completes their escape.
theorem closeHex_cases {high : Option Nat} {unit : Nat} {r : Reader}
    (h : closeHex role high unit chars frames = .ok r) :
    ∃ next added, r = ⟨.text role next (added.reverse ++ chars), frames⟩ ∧
      ∀ quad t s, Quad quad unit → PartRest next t s →
        match high with
        | none => Chars ('\\' :: 'u' :: (quad ++ t)) (added ++ s)
        | some high => IsHighSurrogate high → ∀ quad', Quad quad' high →
          Chars ('\\' :: 'u' :: quad' ++ '\\' :: 'u' :: (quad ++ t)) (added ++ s) := by
  cases high with
  | none =>
      simp only [closeHex] at h
      split at h
      · cases h
      · rename_i hl
        split at h
        · rename_i hh
          cases h
          exact ⟨.surrogate unit false, [], rfl,
            fun quad t s hq hrest => hrest (isHigh_iff.mp hh) quad hq⟩
        · rename_i hh
          cases h
          refine ⟨.plain, [Char.ofNat unit], rfl, fun quad t s hq hrest => ?_⟩
          rw [isHigh_iff] at hh
          rw [isLow_iff] at hl
          have hc := toNat_ofNat (isValidChar_of_not_surrogate (lt_of_quad hq) hh hl)
          exact .cons (.unit hq hh hl hc) hrest
  | some high =>
      simp only [closeHex] at h
      split at h
      · rename_i hl
        rw [isLow_iff] at hl
        cases h
        refine ⟨.plain, [Char.ofNat _], rfl, fun quad t s hq hrest hh quad' hq' => ?_⟩
        have hc := toNat_ofNat (isValidChar_of_pair hh hl)
        have hp := Chars.cons (.pair hq' hh hq hl hc) hrest
        simpa using hp
      · cases h

-- One character of a string either closes it, or goes on to a part that it completes.
theorem textStep_cases {part : Part} {r : Reader}
    (h : textStep role part chars frames c = .ok r) :
    (part = .plain ∧ c = '"' ∧ closeText role chars frames = .ok r) ∨
      ∃ next added, r = ⟨.text role next (added.reverse ++ chars), frames⟩ ∧
        ∀ t s, PartRest next t s → PartRest part (c :: t) (added ++ s) := by
  cases part with
  | plain =>
      simp only [textStep] at h
      split at h
      · rename_i hc
        exact .inl ⟨rfl, hc, h⟩
      · rename_i hq
        split at h
        · rename_i hc
          subst hc
          cases h
          exact .inr ⟨.escape, [], rfl, fun t s hrest => hrest⟩
        · rename_i hb
          split at h
          · cases h
          · rename_i hlow
            cases h
            exact .inr ⟨.plain, [c], rfl,
              fun t s hrest => .cons (.plain hq hb (Nat.not_lt.mp hlow)) hrest⟩
  | escape =>
      simp only [textStep] at h
      split at h
      · rename_i hc
        subst hc
        cases h
        exact .inr ⟨.hex none [], [], rfl, fun t s hrest => hrest (by simp)⟩
      · cases he : escaped? c with
        | none => simp [he, stop] at h
        | some plain =>
            simp only [he] at h
            cases h
            exact .inr ⟨.plain, [plain], rfl,
              fun t s hrest => .cons (.short (escaped?_eq_some_iff.mp he)) hrest⟩
  | hex high seen =>
      simp only [textStep, hexStep] at h
      split at h
      · rename_i hlt
        cases h
        have hsum : byteCount (c :: seen) < 4 := by
          rwa [byteCount_cons, Nat.add_comm]
        refine .inr ⟨.hex high (c :: seen), [], rfl, fun t s hrest => ?_⟩
        cases high with
        | none => exact fun _ => by simpa using hrest hsum
        | some high => exact fun _ hh quad hq => by simpa using hrest hsum hh quad hq
      · rename_i hge
        split at h
        · rename_i digits hd
          obtain ⟨next, added, hr, hrest⟩ := closeHex_cases h
          refine .inr ⟨next, added, hr, fun t s ht => ?_⟩
          cases high with
          | none =>
              intro hsum
              simpa using hrest _ t s (quad_of_seen hsum hge hd) ht
          | some high =>
              intro hsum hh quad hq
              simpa using hrest _ t s (quad_of_seen hsum hge hd) ht hh quad hq
        · cases h
  | surrogate high slash =>
      cases slash with
      | false =>
          simp only [textStep] at h
          split at h
          · rename_i hc
            subst hc
            cases h
            exact .inr ⟨.surrogate high true, [], rfl, fun t s hrest => hrest⟩
          · cases h
      | true =>
          simp only [textStep] at h
          split at h
          · rename_i hc
            subst hc
            cases h
            exact .inr ⟨.hex (some high) [], [], rfl, fun t s hrest => hrest (by simp)⟩
          · cases h

theorem of_result?_text {part : Part} {x : Json}
    (h : result? ⟨.text role part chars, frames⟩ t = some x) :
    ∃ u s rest, t = u ++ '"' :: rest ∧ PartRest part u s ∧
      after (closeText role (s.reverse ++ chars) frames) rest = some x := by
  induction t generalizing part chars with
  | nil => simp [result?, finish, Except.toOption] at h
  | cons c more ih =>
      rw [result?_cons] at h
      have hs : step ⟨.text role part chars, frames⟩ c = textStep role part chars frames c := rfl
      rw [hs] at h
      cases hr : textStep role part chars frames c with
      | error halt => simp [hr, after, Except.toOption] at h
      | ok r =>
          rw [hr] at h
          rcases textStep_cases hr with ⟨rfl, rfl, hclose⟩ | ⟨next, added, rfl, hpart⟩
          · exact ⟨[], [], more, rfl, .nil, by simpa [hclose] using h⟩
          · obtain ⟨u, s, rest, rfl, hu, hx⟩ := ih h
            exact ⟨c :: u, added ++ s, rest, rfl, hpart u s hu, by simpa using hx⟩

end Reader

end ProbeReport.Json
