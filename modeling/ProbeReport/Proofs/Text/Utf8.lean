import Mathlib.Algebra.Group.Nat.Defs
import ProbeReport.Proofs.Text.Search
import ProbeReport.Sink
import ProbeReport.Text.Utf8

-- Bytes that are read as well formed are the bytes of what was read.
namespace ProbeReport.Text.Utf8

-- The lowest six bits of a number, so many times over, as bytes behind the first.
def tail : Nat → Nat → List UInt8
  | 0, _ => []
  | need + 1, v => UInt8.ofNat (0x80 + v / 64 ^ need % 64) :: tail need v

theorem tail_succ (need v : Nat) :
    tail (need + 1) v = UInt8.ofNat (0x80 + v / 64 ^ need % 64) :: tail need v := rfl

-- Nothing malformed is met, only these characters.
def Reads (state : Pending) (bytes : List UInt8) (s : List Char) : Prop :=
  pieces state bytes = s.map some

section Pending

variable {need bits : Nat} {low high : UInt8} {bytes : List UInt8} {s : List Char}

-- Within a character there is a byte in range, and it is the last one or there are more.
theorem Reads.pending_cases (h : Reads (.some need low high bits) bytes s) :
    ∃ b rest, bytes = b :: rest ∧ low ≤ b ∧ b ≤ high ∧
      if need = 1 then
        ∃ more, s = Char.ofNat (bits * 64 + b.toNat % 64) :: more ∧ Reads .none rest more
      else Reads (.some (need - 1) 0x80 0xbf (bits * 64 + b.toNat % 64)) rest s := by
  cases bytes with
  | nil => cases s <;> simp [Reads, pieces] at h
  | cons b rest =>
      rw [Reads, pieces, step] at h
      by_cases hb : low ≤ b ∧ b ≤ high
      · refine ⟨b, rest, rfl, hb.1, hb.2, ?_⟩
        rw [if_pos hb] at h
        split
        · rename_i hn
          simp only [hn, if_true] at h
          obtain ⟨c, more, rfl, hc, hm⟩ := List.map_eq_cons_iff.1 h.symm
          exact ⟨more, by rw [Option.some.inj hc], hm.symm⟩
        · rename_i hn
          simp only [hn, if_false] at h
          exact h
      · rw [if_neg hb] at h
        cases s <;> simp at h

-- A byte in range holds six bits of a number.
theorem next_eq {b : UInt8} {v : Nat} (hl : 0x80 ≤ low) (hh : high ≤ 0xbf) (hbl : low ≤ b)
    (hbh : b ≤ high) (hv : v % 64 = b.toNat % 64) : 0x80 + v % 64 = b.toNat := by
  have hl' : 0x80 ≤ b.toNat := UInt8.le_iff_toNat_le.1 (UInt8.le_trans hl hbl)
  have hh' : b.toNat ≤ 0xbf := UInt8.le_iff_toNat_le.1 (UInt8.le_trans hbh hh)
  omega

-- What is left of a character. Only the range of the next byte varies, those behind it may hold
-- any six bits.
theorem Reads.pending (h : Reads (.some (need + 1) low high bits) bytes s) (hl : 0x80 ≤ low)
    (hh : high ≤ 0xbf) :
    ∃ v more rest, s = Char.ofNat v :: more ∧ v / 64 ^ (need + 1) = bits ∧
      low.toNat ≤ 0x80 + v / 64 ^ need % 64 ∧ 0x80 + v / 64 ^ need % 64 ≤ high.toNat ∧
      bytes = tail (need + 1) v ++ rest ∧ Reads .none rest more := by
  induction need generalizing low high bits bytes with
  | zero =>
      obtain ⟨b, rest, rfl, hbl, hbh, more, rfl, hr⟩ := h.pending_cases
      have hb := next_eq hl hh hbl hbh (v := bits * 64 + b.toNat % 64) (by omega)
      refine ⟨_, more, rest, rfl, by omega, ?_, ?_, ?_, hr⟩
      · rw [Nat.pow_zero, Nat.div_one, hb]
        exact hbl
      · rw [Nat.pow_zero, Nat.div_one, hb]
        exact hbh
      · rw [tail_succ, Nat.pow_zero, Nat.div_one, hb, UInt8.ofNat_toNat]
        rfl
  | succ need ih =>
      obtain ⟨b, rest, rfl, hbl, hbh, hr⟩ := h.pending_cases
      rw [if_neg (by omega)] at hr
      obtain ⟨v, more, rest, rfl, hv, -, -, rfl, hm⟩ := ih hr (by decide) (by decide)
      have hb := next_eq hl hh hbl hbh (v := v / 64 ^ (need + 1)) (by omega)
      refine ⟨v, more, rest, rfl, ?_, hb ▸ hbl, hb ▸ hbh, ?_, hm⟩
      · rw [Nat.pow_succ, ← Nat.div_div_eq_div_mul, hv]
        omega
      · rw [tail_succ (need + 1), hb, UInt8.ofNat_toNat, List.cons_append]

end Pending

-- A character beyond ASCII is a first byte with the highest bits, and the rest behind it.
section Encode

variable {v : Nat} {b : UInt8}

theorem toNat_ofNat (hv : v.isValidChar) : (Char.ofNat v).val.toNat = v := by
  rw [Char.ofNat, dif_pos hv]
  rfl

theorem utf8EncodeChar_two (h : 0x80 ≤ v) (h' : v < 0x800) (hb : b.toNat = 0xc0 + v / 64) :
    String.utf8EncodeChar (Char.ofNat v) = b :: tail 1 v := by
  have hc : (Char.ofNat v).val.toNat = v := toNat_ofNat (by omega)
  have hb' : b = UInt8.ofNat (v / 64 % 32 + 192) := by
    rw [← UInt8.ofNat_toNat (x := b), hb]
    congr 1
    omega
  simp only [String.utf8EncodeChar, hc, tail, hb']
  rw [if_neg (by omega), if_pos (by omega)]
  simp [Nat.add_comm]

theorem utf8EncodeChar_three (h : 0x800 ≤ v) (h' : v < 0x10000) (hv : v.isValidChar)
    (hb : b.toNat = 0xe0 + v / 64 ^ 2) :
    String.utf8EncodeChar (Char.ofNat v) = b :: tail 2 v := by
  have hc : (Char.ofNat v).val.toNat = v := toNat_ofNat hv
  have hb' : b = UInt8.ofNat (v / 4096 % 16 + 224) := by
    rw [← UInt8.ofNat_toNat (x := b), hb]
    congr 1
    omega
  simp only [String.utf8EncodeChar, hc, tail, hb']
  rw [if_neg (by omega), if_neg (by omega), if_pos (by omega)]
  simp [Nat.add_comm]

theorem utf8EncodeChar_four (h : 0x10000 ≤ v) (h' : v < 0x110000)
    (hb : b.toNat = 0xf0 + v / 64 ^ 3) :
    String.utf8EncodeChar (Char.ofNat v) = b :: tail 3 v := by
  have hc : (Char.ofNat v).val.toNat = v := toNat_ofNat (by omega)
  have hb' : b = UInt8.ofNat (v / 262144 % 8 + 240) := by
    rw [← UInt8.ofNat_toNat (x := b), hb]
    congr 1
    omega
  simp only [String.utf8EncodeChar, hc, tail, hb']
  rw [if_neg (by omega), if_neg (by omega), if_neg (by omega)]
  simp [Nat.add_comm]

end Encode

-- The ranges of first bytes, as numbers.
theorem lead_eq (b : UInt8) :
    lead b =
      if b.toNat < 0x80 then (.none, [some (Char.ofNat b.toNat)])
      else if 0xc2 ≤ b.toNat ∧ b.toNat ≤ 0xdf then (.some 1 0x80 0xbf (b.toNat % 32), [])
      else if b.toNat = 0xe0 then (.some 2 0xa0 0xbf 0, [])
      else if b.toNat = 0xed then (.some 2 0x80 0x9f 13, [])
      else if 0xe1 ≤ b.toNat ∧ b.toNat ≤ 0xef then (.some 2 0x80 0xbf (b.toNat % 16), [])
      else if b.toNat = 0xf0 then (.some 3 0x90 0xbf 0, [])
      else if b.toNat = 0xf4 then (.some 3 0x80 0x8f 4, [])
      else if 0xf1 ≤ b.toNat ∧ b.toNat ≤ 0xf3 then (.some 3 0x80 0xbf (b.toNat % 8), [])
      else (.none, [Option.none]) := by
  simp only [lead, UInt8.lt_iff_toNat_lt, UInt8.le_iff_toNat_le, ← UInt8.toNat_inj]
  rfl

-- The first byte tells how long the character is, and none is longer than it has to be.
theorem Reads.cons {b : UInt8} {bytes : List UInt8} {s : List Char}
    (h : Reads .none (b :: bytes) s) :
    ∃ c more rest, s = c :: more ∧ b :: bytes = String.utf8EncodeChar c ++ rest ∧
      Reads .none rest more := by
  simp only [Reads, pieces, step, lead_eq] at h
  split at h
  · rename_i hb
    obtain ⟨c, more, rfl, hc, hm⟩ := List.map_eq_cons_iff.1 h.symm
    refine ⟨c, more, bytes, rfl, ?_, hm.symm⟩
    rw [Option.some.inj hc, String.utf8EncodeChar, toNat_ofNat (by omega), if_pos (by omega),
      UInt8.ofNat_toNat]
    rfl
  split at h
  · obtain ⟨v, more, rest, rfl, hv, -, -, rfl, hm⟩ := Reads.pending h (by decide) (by decide)
    refine ⟨_, more, rest, rfl, ?_, hm⟩
    rw [utf8EncodeChar_two (b := b) (by omega) (by omega) (by omega), List.cons_append]
  split at h
  · obtain ⟨v, more, rest, rfl, hv, hl, -, rfl, hm⟩ := Reads.pending h (by decide) (by decide)
    have hl : 0xa0 ≤ 0x80 + v / 64 ^ 1 % 64 := hl
    refine ⟨_, more, rest, rfl, ?_, hm⟩
    rw [utf8EncodeChar_three (b := b) (by omega) (by omega) (by omega) (by omega),
      List.cons_append]
  split at h
  · obtain ⟨v, more, rest, rfl, hv, -, hh, rfl, hm⟩ := Reads.pending h (by decide) (by decide)
    have hh : 0x80 + v / 64 ^ 1 % 64 ≤ 0x9f := hh
    refine ⟨_, more, rest, rfl, ?_, hm⟩
    rw [utf8EncodeChar_three (b := b) (by omega) (by omega) (by omega) (by omega),
      List.cons_append]
  split at h
  · obtain ⟨v, more, rest, rfl, hv, -, -, rfl, hm⟩ := Reads.pending h (by decide) (by decide)
    refine ⟨_, more, rest, rfl, ?_, hm⟩
    rw [utf8EncodeChar_three (b := b) (by omega) (by omega) (by omega) (by omega),
      List.cons_append]
  split at h
  · obtain ⟨v, more, rest, rfl, hv, hl, -, rfl, hm⟩ := Reads.pending h (by decide) (by decide)
    have hl : 0x90 ≤ 0x80 + v / 64 ^ 2 % 64 := hl
    refine ⟨_, more, rest, rfl, ?_, hm⟩
    rw [utf8EncodeChar_four (b := b) (by omega) (by omega) (by omega), List.cons_append]
  split at h
  · obtain ⟨v, more, rest, rfl, hv, -, hh, rfl, hm⟩ := Reads.pending h (by decide) (by decide)
    have hh : 0x80 + v / 64 ^ 2 % 64 ≤ 0x8f := hh
    refine ⟨_, more, rest, rfl, ?_, hm⟩
    rw [utf8EncodeChar_four (b := b) (by omega) (by omega) (by omega), List.cons_append]
  split at h
  · obtain ⟨v, more, rest, rfl, hv, -, -, rfl, hm⟩ := Reads.pending h (by decide) (by decide)
    refine ⟨_, more, rest, rfl, ?_, hm⟩
    rw [utf8EncodeChar_four (b := b) (by omega) (by omega) (by omega), List.cons_append]
  · cases s <;> simp at h

-- The bytes of a text are cut where its characters end.
theorem Reads.flatMap_eq {bytes : List UInt8} {s : List Char} (h : Reads .none bytes s) :
    s.flatMap String.utf8EncodeChar = bytes := by
  induction s generalizing bytes with
  | nil =>
      cases bytes with
      | nil => rfl
      | cons b bytes =>
          obtain ⟨c, more, rest, hs, -, -⟩ := h.cons
          cases hs
  | cons c s ih =>
      cases bytes with
      | nil => simp [Reads, pieces] at h
      | cons b bytes =>
          obtain ⟨d, more, rest, hs, hb, hm⟩ := h.cons
          cases hs
          rw [hb, List.flatMap_cons, ih hm]

-- One more byte of a character in progress.
theorem step_pending {need v : Nat} {low high : UInt8}
    (hl : low.toNat ≤ 0x80 + v / 64 ^ need % 64) (hh : 0x80 + v / 64 ^ need % 64 ≤ high.toNat) :
    step (.some (need + 1) low high (v / 64 ^ (need + 1)))
        (UInt8.ofNat (0x80 + v / 64 ^ need % 64)) =
      if need = 0 then (.none, [some (Char.ofNat v)])
      else (.some need 0x80 0xbf (v / 64 ^ need), []) := by
  have hb : (UInt8.ofNat (0x80 + v / 64 ^ need % 64)).toNat = 0x80 + v / 64 ^ need % 64 := by
    rw [UInt8.toNat_ofNat']
    omega
  have hbits : v / 64 ^ (need + 1) * 64 + (0x80 + v / 64 ^ need % 64) % 64 = v / 64 ^ need := by
    rw [Nat.pow_succ, ← Nat.div_div_eq_div_mul]
    omega
  have hr : low ≤ UInt8.ofNat (0x80 + v / 64 ^ need % 64) ∧
      UInt8.ofNat (0x80 + v / 64 ^ need % 64) ≤ high := by
    rw [UInt8.le_iff_toNat_le, UInt8.le_iff_toNat_le, hb]
    exact ⟨hl, hh⟩
  rw [step, if_pos hr, hb, hbits]
  cases need with
  | zero => simp
  | succ need => simp

-- Within a character, the bytes that are left complete it.
theorem pieces_tail {need v : Nat} {low high : UInt8} (rest : List UInt8)
    (hl : low.toNat ≤ 0x80 + v / 64 ^ need % 64) (hh : 0x80 + v / 64 ^ need % 64 ≤ high.toNat) :
    pieces (.some (need + 1) low high (v / 64 ^ (need + 1))) (tail (need + 1) v ++ rest) =
      some (Char.ofNat v) :: pieces .none rest := by
  rw [tail_succ, List.cons_append, pieces, step_pending hl hh]
  induction need generalizing low high with
  | zero => rfl
  | succ need ih =>
      have hl : (0x80 : UInt8).toNat ≤ 0x80 + v / 64 ^ need % 64 := Nat.le_add_right _ _
      have hh : 0x80 + v / 64 ^ need % 64 ≤ (0xbf : UInt8).toNat := by
        show _ ≤ 0xbf
        omega
      rw [if_neg (by omega), List.nil_append, tail_succ, List.cons_append, pieces,
        step_pending hl hh]
      exact ih hl hh

theorem pieces_lead {need v : Nat} {b : UInt8} (low high : UInt8) (rest : List UInt8)
    (hb : lead b = (.some (need + 1) low high (v / 64 ^ (need + 1)), []))
    (hl : low.toNat ≤ 0x80 + v / 64 ^ need % 64) (hh : 0x80 + v / 64 ^ need % 64 ≤ high.toNat) :
    pieces .none (b :: tail (need + 1) v ++ rest) = some (Char.ofNat v) :: pieces .none rest := by
  rw [List.cons_append, pieces, step, hb, List.nil_append, pieces_tail rest hl hh]

theorem low_le (n : Nat) : (0x80 : UInt8).toNat ≤ 0x80 + n := Nat.le_add_right _ _

theorem le_high (n : Nat) : 0x80 + n % 64 ≤ (0xbf : UInt8).toNat := by
  show _ ≤ 0xbf
  omega

theorem toNat_ofNat_of_lt {n : Nat} (h : n < 256) : (UInt8.ofNat n).toNat = n := by
  rw [UInt8.toNat_ofNat', Nat.mod_eq_of_lt h]

-- Whatever the length of a character, reading its bytes gives it back.
theorem pieces_char (c : Char) (rest : List UInt8) :
    pieces .none (String.utf8EncodeChar c ++ rest) = some c :: pieces .none rest := by
  have hv : c.toNat.isValidChar := c.valid
  obtain ⟨v, hc⟩ : ∃ v, c.toNat = v := ⟨_, rfl⟩
  rw [← Char.ofNat_toNat c, hc]
  rw [hc] at hv
  by_cases h : v < 0x80
  · have hb := toNat_ofNat_of_lt (n := v) (by omega)
    rw [String.utf8EncodeChar, toNat_ofNat hv, if_pos (by omega), List.singleton_append, pieces,
      step, lead_eq, hb, if_pos h]
    rfl
  by_cases h' : v < 0x800
  · have hb := toNat_ofNat_of_lt (n := 0xc0 + v / 64) (by omega)
    rw [utf8EncodeChar_two (by omega) h' hb]
    refine pieces_lead 0x80 0xbf rest ?_ (low_le _) (le_high _)
    rw [lead_eq, hb, if_neg (by omega), if_pos (by omega)]
    congr 2
    omega
  by_cases h'' : v < 0x10000
  · have hb := toNat_ofNat_of_lt (n := 0xe0 + v / 64 ^ 2) (by omega)
    rw [utf8EncodeChar_three (by omega) h'' hv hb]
    by_cases hl : v < 0x1000
    · refine pieces_lead 0xa0 0xbf rest ?_ (by show 0xa0 ≤ _; omega) (le_high _)
      rw [lead_eq, hb, if_neg (by omega), if_neg (by omega), if_pos (by omega)]
      congr 2
      omega
    by_cases hs : 0xd000 ≤ v ∧ v < 0xe000
    · refine pieces_lead 0x80 0x9f rest ?_ (low_le _) (by show _ ≤ 0x9f; omega)
      rw [lead_eq, hb, if_neg (by omega), if_neg (by omega), if_neg (by omega), if_pos (by omega)]
      congr 2
      omega
    · refine pieces_lead 0x80 0xbf rest ?_ (low_le _) (le_high _)
      rw [lead_eq, hb, if_neg (by omega), if_neg (by omega), if_neg (by omega), if_neg (by omega),
        if_pos (by omega)]
      congr 2
      omega
  · have hb := toNat_ofNat_of_lt (n := 0xf0 + v / 64 ^ 3) (by omega)
    rw [utf8EncodeChar_four (by omega) (by omega) hb]
    by_cases hl : v < 0x40000
    · refine pieces_lead 0x90 0xbf rest ?_ (by show 0x90 ≤ _; omega) (le_high _)
      rw [lead_eq, hb, if_neg (by omega), if_neg (by omega), if_neg (by omega), if_neg (by omega),
        if_neg (by omega), if_pos (by omega)]
      congr 2
      omega
    by_cases hh : 0x100000 ≤ v
    · refine pieces_lead 0x80 0x8f rest ?_ (low_le _) (by show _ ≤ 0x8f; omega)
      rw [lead_eq, hb, if_neg (by omega), if_neg (by omega), if_neg (by omega), if_neg (by omega),
        if_neg (by omega), if_neg (by omega), if_pos (by omega)]
      congr 2
      omega
    · refine pieces_lead 0x80 0xbf rest ?_ (low_le _) (le_high _)
      rw [lead_eq, hb, if_neg (by omega), if_neg (by omega), if_neg (by omega), if_neg (by omega),
        if_neg (by omega), if_neg (by omega), if_neg (by omega), if_pos (by omega)]
      congr 2
      omega

theorem pieces_flatMap (s : List Char) :
    pieces .none (s.flatMap String.utf8EncodeChar) = s.map some := by
  induction s with
  | nil => rfl
  | cons c s ih => rw [List.flatMap_cons, pieces_char, ih, List.map_cons]

-- Reading succeeds on the bytes of texts and on nothing else.
theorem decode?_eq_some_iff {bytes : List UInt8} {s : String} :
    decode? bytes = some s ↔ utf8 s = bytes := by
  simp only [decode?, Option.map_eq_some_iff, mapM_eq_some_iff, List.map_id]
  constructor
  · rintro ⟨chars, hc, rfl⟩
    rw [utf8, String.toList_ofList, Reads.flatMap_eq hc]
  · rintro rfl
    exact ⟨s.toList, pieces_flatMap s.toList, String.ofList_toList⟩

-- No byte below 0x80 is part of a longer character.
theorem le_of_mem_utf8EncodeChar {d : Char} (hd : 0x80 ≤ d.toNat) {b : UInt8}
    (h : b ∈ String.utf8EncodeChar d) : 0x80 ≤ b.toNat := by
  have hv : d.val.toNat = d.toNat := rfl
  have hn : d.toNat < 0x110000 := by
    have := d.valid
    simp only [UInt32.isValidChar, Nat.isValidChar] at this
    omega
  simp only [String.utf8EncodeChar, hv] at h
  rw [if_neg (by omega)] at h
  split at h
  · simp only [List.mem_cons, List.not_mem_nil, or_false] at h
    obtain rfl | rfl := h <;> rw [toNat_ofNat_of_lt] <;> omega
  · split at h
    · simp only [List.mem_cons, List.not_mem_nil, or_false] at h
      obtain rfl | rfl | rfl := h <;> rw [toNat_ofNat_of_lt] <;> omega
    · simp only [List.mem_cons, List.not_mem_nil, or_false] at h
      obtain rfl | rfl | rfl | rfl := h <;> rw [toNat_ofNat_of_lt] <;> omega

theorem utf8EncodeChar_one {c : Char} (hc : c.toNat < 0x80) :
    String.utf8EncodeChar c = [UInt8.ofNat c.toNat] := by
  rw [String.utf8EncodeChar]
  exact if_pos (Nat.le_of_lt_succ hc)

theorem eq_of_mem_utf8EncodeChar {c d : Char} (hc : c.toNat < 0x80)
    (h : UInt8.ofNat c.toNat ∈ String.utf8EncodeChar d) : d = c := by
  have hb : (UInt8.ofNat c.toNat).toNat = c.toNat := toNat_ofNat_of_lt (by omega)
  by_cases hd : 0x80 ≤ d.toNat
  · have := le_of_mem_utf8EncodeChar hd h
    omega
  · rw [utf8EncodeChar_one (by omega), List.mem_singleton] at h
    have he := congrArg UInt8.toNat h
    rw [hb, toNat_ofNat_of_lt (by omega)] at he
    rw [← Char.ofNat_toNat d, ← Char.ofNat_toNat c, he]

end ProbeReport.Text.Utf8
