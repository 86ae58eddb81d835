import ProbeReport.Proofs.Text.Utf8
import ProbeReport.Url.Basic

namespace ProbeReport.Url

namespace Percent

theorem decode_eq_nil_iff {s : List Char} : decode s = [] ↔ s = [] := by
  constructor
  · intro h
    unfold decode at h
    split at h
    · rfl
    · split at h <;> cases h
    · exact absurd (List.append_eq_nil_iff.1 h).1 String.utf8EncodeChar_ne_nil
  · rintro rfl
    rfl

theorem hexValue?_of_blank {c : Char} (hc : c.toNat ≤ 0x20) : Text.hexValue? c = Option.none := by
  have hn {d e : Char} (hd : 0x20 < d.toNat) : ¬(d ≤ c ∧ c ≤ e) := by
    rintro ⟨h, -⟩
    have h : d.toNat ≤ c.toNat := h
    omega
  rw [Text.hexValue?, if_neg (hn (by decide)), if_neg (hn (by decide)), if_neg (hn (by decide))]

-- A blank is no part of what is percent-encoded.
theorem mem_decode {c : Char} (hc : c.toNat ≤ 0x20) {s : List Char} (h : c ∈ s) :
    UInt8.ofNat c.toNat ∈ decode s := by
  have hp : c ≠ '%' := by
    rintro rfl
    revert hc
    decide
  induction s using decode.induct with
  | case1 => cases h
  | case2 a b rest high low hb ha ih =>
      have hr : c ∈ rest := by
        rw [List.mem_cons, List.mem_cons, List.mem_cons] at h
        obtain rfl | rfl | rfl | hr := h
        · exact absurd rfl hp
        · rw [hexValue?_of_blank hc] at ha
          cases ha
        · rw [hexValue?_of_blank hc] at hb
          cases hb
        · exact hr
      simp only [decode, ha, hb]
      exact List.mem_cons_of_mem _ (ih hr)
  | case3 a b rest hn ih =>
      rw [decode]
      split
      · rename_i ha hb
        exact absurd hb (hn _ _ ha)
      · exact List.mem_cons_of_mem _ (ih ((List.mem_cons.1 h).resolve_left hp))
  | case4 d rest hn ih =>
      rw [decode]
      · rw [List.mem_append]
        obtain rfl | hr := List.mem_cons.1 h
        · left
          rw [Text.Utf8.utf8EncodeChar_one (by omega), List.mem_singleton]
        · exact .inr (ih hr)
      · exact hn

-- What holds of percent signs, of hexadecimal digits and of the characters that a part can hold as they
-- are holds of all that is encoded.
theorem forall_mem_encode {P : Char → Prop} {set : Char → Bool} (hp : P '%')
    (hhex : ∀ n : Fin 16, P (Text.hexDigitUpper n))
    (hplain : ∀ n : Fin 128, isControl (Char.ofNat n) = false → set (Char.ofNat n) = false →
      P (Char.ofNat n)) {s : List Char} {c : Char} (h : c ∈ encode set s) : P c := by
  obtain ⟨d, -, hc⟩ := List.mem_flatMap.1 h
  rw [encodeChar] at hc
  split at hc
  · obtain ⟨b, -, hb⟩ := List.mem_flatMap.1 hc
    have hlt := b.toNat_lt
    rw [encodeByte, List.mem_cons, List.mem_cons, List.mem_singleton] at hb
    obtain rfl | rfl | rfl := hb
    · exact hp
    · exact hhex ⟨b.toNat / 16, by omega⟩
    · exact hhex ⟨b.toNat % 16, by omega⟩
  · rename_i hn
    rw [Bool.or_eq_true, not_or, Bool.not_eq_true, Bool.not_eq_true] at hn
    rw [List.mem_singleton.1 hc]
    have hlt : d.toNat < 128 := by
      have hi := hn.1
      simp only [isControl, Bool.or_eq_false_iff, decide_eq_false_iff_not] at hi
      omega
    obtain ⟨n, rfl⟩ := Text.exists_ofNat hlt
    exact hplain n hn.1 hn.2

end Percent

-- A part of an address is this text behind its percent-encoding.
def Encodes (part text : String) : Prop := utf8 text = Percent.decode part.toList

instance (part text : String) : Decidable (Encodes part text) := inferInstanceAs (Decidable (_ = _))

def IsReadable (part : String) : Prop := ∃ text, Encodes part text

section Encodes

variable {part text : String}

theorem decode?_eq_some_iff :
    Text.Utf8.decode? (Percent.decode part.toList) = some text ↔ Encodes part text :=
  Text.Utf8.decode?_eq_some_iff

theorem isSome_decode?_iff :
    (Text.Utf8.decode? (Percent.decode part.toList)).isSome ↔ IsReadable part := by
  simp only [Option.isSome_iff_exists, decode?_eq_some_iff, IsReadable]

theorem Encodes.eq_empty_iff (h : Encodes part text) : text = "" ↔ part = "" := by
  have hn : utf8 text = [] ↔ text.toList = [] := by
    rw [utf8]
    cases text.toList with
    | nil => simp
    | cons c rest => simp [String.utf8EncodeChar_ne_nil]
  rw [← String.toList_eq_nil_iff, ← hn, h, Percent.decode_eq_nil_iff, String.toList_eq_nil_iff]

end Encodes

end ProbeReport.Url
