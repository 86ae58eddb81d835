import ProbeReport.Proofs.Text.Search
import ProbeReport.Proofs.Text.Utf8
import ProbeReport.Text.Charset

-- The ways to write a text in bytes, told without a reader, and that reading undoes them.
namespace ProbeReport.Text

namespace Utf16

-- A character beyond the first plane takes two units, neither of which is a character.
def unitsOf (c : Char) : List Nat :=
  if c.toNat < 0x10000 then [c.toNat]
  else [0xd800 + (c.toNat - 0x10000) / 0x400, 0xdc00 + (c.toNat - 0x10000) % 0x400]

def Order.bytesOf (order : Order) (unit : Nat) : List UInt8 :=
  match order with
  | .little => [UInt8.ofNat (unit % 256), UInt8.ofNat (unit / 256)]
  | .big => [UInt8.ofNat (unit / 256), UInt8.ofNat (unit % 256)]

def encode (order : Order) (s : List Char) : List UInt8 :=
  (s.flatMap unitsOf).flatMap order.bytesOf

section Reading

variable {order : Order} {c : Char}

-- Characters leave out the numbers of the surrogates.
theorem toNat_cases (c : Char) : c.toNat < 0xd800 ∨ 0xdfff < c.toNat ∧ c.toNat < 0x110000 :=
  c.valid

theorem unitsOf_lt {u : Nat} (h : u ∈ unitsOf c) : u < 0x10000 := by
  have hc := toNat_cases c
  rw [unitsOf] at h
  split at h
  · rename_i hl
    rw [List.mem_singleton.1 h]
    exact hl
  · rw [List.mem_cons, List.mem_singleton] at h
    omega

theorem units_bytesOf {u : Nat} (h : u < 0x10000) (rest : List UInt8) :
    units order (order.bytesOf u ++ rest) = some u :: units order rest := by
  have hl : (UInt8.ofNat (u % 256)).toNat = u % 256 := Utf8.toNat_ofNat_of_lt (by omega)
  have hh : (UInt8.ofNat (u / 256)).toNat = u / 256 := Utf8.toNat_ofNat_of_lt (by omega)
  cases order with
  | little =>
      simp only [Order.bytesOf, List.cons_append, List.nil_append, units, hl, hh]
      congr 2
      omega
  | big =>
      simp only [Order.bytesOf, List.cons_append, List.nil_append, units, hl, hh]
      congr 2
      omega

theorem units_flatMap {l : List Nat} (h : ∀ u ∈ l, u < 0x10000) :
    units order (l.flatMap order.bytesOf) = l.map some := by
  induction l with
  | nil => rfl
  | cons u rest ih =>
      obtain ⟨hu, hr⟩ := List.forall_mem_cons.1 h
      rw [List.flatMap_cons, units_bytesOf hu, ih hr, List.map_cons]

theorem scalars_single {u : Nat} (h : u < 0xd800 ∨ 0xdfff < u) (rest : List (Option Nat)) :
    scalars (some u :: rest) = some (Char.ofNat u) :: scalars rest := by
  have hlow : isLow u = false := by
    simp only [isLow, Bool.and_eq_false_iff, decide_eq_false_iff_not]
    omega
  have hhigh : isHigh u = false := by
    simp only [isHigh, Bool.and_eq_false_iff, decide_eq_false_iff_not]
    omega
  rw [scalars.eq_def]
  simp only [hlow, hhigh, Bool.false_eq_true, if_false]

theorem scalars_pair {high low : Nat} (hh : high < 0x400) (hl : low < 0x400)
    (rest : List (Option Nat)) :
    scalars (some (0xd800 + high) :: some (0xdc00 + low) :: rest) =
      some (Char.ofNat (0x10000 + high * 0x400 + low)) :: scalars rest := by
  have hlow : isLow (0xd800 + high) = false := by
    simp only [isLow, Bool.and_eq_false_iff, decide_eq_false_iff_not]
    omega
  have hhigh : isHigh (0xd800 + high) = true := by
    simp only [isHigh, Bool.and_eq_true, decide_eq_true_eq]
    omega
  have hlow' : isLow (0xdc00 + low) = true := by
    simp only [isLow, Bool.and_eq_true, decide_eq_true_eq]
    omega
  rw [scalars.eq_def]
  simp only [hlow, hhigh, hlow', Bool.false_eq_true, if_false, if_true, combine,
    Nat.add_sub_cancel_left]

theorem scalars_unitsOf (c : Char) (rest : List (Option Nat)) :
    scalars ((unitsOf c).map some ++ rest) = some c :: scalars rest := by
  have hc := toNat_cases c
  rw [unitsOf]
  by_cases hl : c.toNat < 0x10000
  · rw [if_pos hl, List.map_singleton, List.singleton_append, scalars_single (by omega),
      Char.ofNat_toNat]
  · have hn : 0x10000 + (c.toNat - 0x10000) / 0x400 * 0x400 + (c.toNat - 0x10000) % 0x400 =
        c.toNat := by omega
    rw [if_neg hl, List.map_cons, List.map_singleton, List.cons_append, List.singleton_append,
      scalars_pair (by omega) (by omega), hn, Char.ofNat_toNat]

theorem scalars_flatMap (s : List Char) : scalars ((s.flatMap unitsOf).map some) = s.map some := by
  induction s with
  | nil => rfl
  | cons c rest ih => rw [List.flatMap_cons, List.map_append, scalars_unitsOf, ih, List.map_cons]

theorem decodeLossy_encode (order : Order) (s : List Char) :
    decodeLossy order (encode order s) = s := by
  have hu : ∀ u ∈ s.flatMap unitsOf, u < 0x10000 := by
    intro u hu
    obtain ⟨c, -, hc⟩ := List.mem_flatMap.1 hu
    exact unitsOf_lt hc
  rw [decodeLossy, encode, units_flatMap hu, scalars_flatMap, List.map_map]
  exact List.map_id s

end Reading

end Utf16

namespace SingleByte

-- The characters of the bytes from 0x80 to 0x9f in this encoding.
def windowsChars : List Char :=
  "€\x81‚ƒ„…†‡ˆ‰Š‹Œ\x8dŽ\x8f\x90‘’“”•–—˜™š›œ\x9džŸ".toList

def encodeWindows? (c : Char) : Option UInt8 :=
  if c.toNat < 0x80 ∨ 0xa0 ≤ c.toNat ∧ c.toNat ≤ 0xff then some (UInt8.ofNat c.toNat)
  else (windowsChars.idxOf? c).map fun i => UInt8.ofNat (0x80 + i)

def encodeUserDefined? (c : Char) : Option UInt8 :=
  if c.toNat < 0x80 then some (UInt8.ofNat c.toNat)
  else if 0xf780 ≤ c.toNat ∧ c.toNat ≤ 0xf7ff then some (UInt8.ofNat (c.toNat - 0xf700))
  else none

theorem windows1252_encode {c : Char} {b : UInt8} (h : encodeWindows? c = some b) :
    windows1252 b = c := by
  have hsame : ∀ n : Fin 256, n.val < 0x80 ∨ 0xa0 ≤ n.val →
      windows1252 (UInt8.ofNat n) = Char.ofNat n := by
    decide +kernel
  have htable : windowsChars =
      (List.range 32).map fun i => windows1252 (UInt8.ofNat (0x80 + i)) := by
    decide +kernel
  rw [encodeWindows?] at h
  split at h
  · rename_i hc
    cases h
    have hs := hsame ⟨c.toNat, by omega⟩ (by dsimp only; omega)
    rwa [Char.ofNat_toNat] at hs
  · obtain ⟨i, hi, rfl⟩ := Option.map_eq_some_iff.1 h
    obtain ⟨hl, hc, -⟩ := List.idxOf?_eq_some_iff.1 hi
    have hg : windowsChars[i]? = some c := List.getElem?_eq_some_iff.2 ⟨hl, hc⟩
    rw [htable, List.getElem?_map, Option.map_eq_some_iff] at hg
    obtain ⟨k, hk, rfl⟩ := hg
    obtain ⟨hr, hk⟩ := List.getElem?_eq_some_iff.1 hk
    rw [List.getElem_range] at hk
    rw [hk]

theorem userDefined_encode {c : Char} {b : UInt8} (h : encodeUserDefined? c = some b) :
    userDefined b = c := by
  have hlow : ∀ n : Fin 128, userDefined (UInt8.ofNat n) = Char.ofNat n := by decide +kernel
  have hhigh : ∀ n : Fin 128, userDefined (UInt8.ofNat (0x80 + n)) = Char.ofNat (0xf780 + n) := by
    decide +kernel
  rw [encodeUserDefined?] at h
  split at h
  · rename_i hc
    cases h
    have hs := hlow ⟨c.toNat, hc⟩
    rwa [Char.ofNat_toNat] at hs
  · split at h
    · rename_i hc
      have hs := hhigh ⟨c.toNat - 0xf780, by omega⟩
      have hn : 0xf780 + (c.toNat - 0xf780) = c.toNat := by omega
      have hb : 0x80 + (c.toNat - 0xf780) = c.toNat - 0xf700 := by omega
      rw [hn, hb, Char.ofNat_toNat] at hs
      exact (congrArg userDefined (Option.some.inj h)).symm.trans hs
    · cases h

end SingleByte

namespace Charset

-- The bytes of a text, if this is an encoding for it that needs no table.
def encode? : Charset → List Char → Option (List UInt8)
  | .utf8, s => some (s.flatMap String.utf8EncodeChar)
  | .utf16 order, s => some (Utf16.encode order s)
  | .windows1252, s => s.mapM SingleByte.encodeWindows?
  | .userDefined, s => s.mapM SingleByte.encodeUserDefined?
  | .replacement, _ => none
  | .legacy _, _ => none

-- The byte order marks with what they tell.
def marks : List (Charset × List UInt8) :=
  [(.utf8, [0xef, 0xbb, 0xbf]), (.utf16 .little, [0xff, 0xfe]), (.utf16 .big, [0xfe, 0xff])]

section Decoding

variable {charset : Charset} {s : List Char} {bytes : List UInt8}

theorem map_eq_of_mapM {encode : Char → Option UInt8} {decode : UInt8 → Char}
    (he : ∀ c b, encode c = some b → decode b = c) (h : s.mapM encode = some bytes) :
    bytes.map decode = s := by
  induction s generalizing bytes with
  | nil =>
      rw [mapM_eq_some_iff] at h
      rw [List.map_eq_nil_iff.1 h.symm]
      rfl
  | cons c rest ih =>
      simp only [List.mapM_cons, Option.bind_eq_bind, Option.bind_eq_some_iff, Option.pure_def,
        Option.some.injEq] at h
      obtain ⟨b, hb, more, hm, rfl⟩ := h
      rw [List.map_cons, he c b hb, ih hm]

theorem decode_encode? [Decoders] (h : charset.encode? s = some bytes) :
    charset.decode bytes = s := by
  cases charset with
  | utf8 =>
      cases h
      rw [decode, Utf8.decodeLossy, Utf8.pieces_flatMap, List.map_map]
      exact List.map_id s
  | utf16 order =>
      cases h
      exact Utf16.decodeLossy_encode order s
  | windows1252 => exact map_eq_of_mapM (fun _ _ => SingleByte.windows1252_encode) h
  | userDefined => exact map_eq_of_mapM (fun _ _ => SingleByte.userDefined_encode) h
  | replacement => cases h
  | legacy => cases h

theorem ofMark?_append {mark : List UInt8} (h : (charset, mark) ∈ marks) (bytes : List UInt8) :
    ofMark? (mark ++ bytes) = some (charset, bytes) := by
  simp only [marks, List.mem_cons, Prod.mk.injEq, List.not_mem_nil, or_false] at h
  obtain ⟨rfl, rfl⟩ | ⟨rfl, rfl⟩ | ⟨rfl, rfl⟩ := h <;> rfl

theorem ofMark?_eq_none (h : ∀ m ∈ marks, ¬m.2 <+: bytes) : ofMark? bytes = none := by
  rw [ofMark?.eq_def]
  split
  · exact absurd ⟨_, rfl⟩ (h (.utf8, [0xef, 0xbb, 0xbf]) (by decide))
  · exact absurd ⟨_, rfl⟩ (h (.utf16 .little, [0xff, 0xfe]) (by decide))
  · exact absurd ⟨_, rfl⟩ (h (.utf16 .big, [0xfe, 0xff]) (by decide))
  · rfl

-- What was written is read: behind a mark, whatever was declared, and without one as it was
-- declared.
theorem decodeMarked_mark [Decoders] {mark : List UInt8} (hm : (charset, mark) ∈ marks)
    (he : charset.encode? s = some bytes) (declared : Charset) :
    declared.decodeMarked (mark ++ bytes) = String.ofList s := by
  rw [decodeMarked, ofMark?_append hm]
  exact congrArg String.ofList (decode_encode? he)

theorem decodeMarked_plain [Decoders] (he : charset.encode? s = some bytes)
    (hn : ∀ m ∈ marks, ¬m.2 <+: bytes) : charset.decodeMarked bytes = String.ofList s := by
  rw [decodeMarked, ofMark?_eq_none hn]
  exact congrArg String.ofList (decode_encode? he)

end Decoding

end Charset

end ProbeReport.Text
