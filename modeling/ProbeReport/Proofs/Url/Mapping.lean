import ProbeReport.Proofs.Text.Compose
import ProbeReport.Proofs.Url.Domain
import ProbeReport.Url.Mapping

-- The forms for the wire that names are mapped to are ASCII, and blanks and controls are never
-- lost on the way.
namespace ProbeReport.Url

section Punycode

open Punycode

theorem isAscii_digit {n : Nat} (h : n < 36) : (digit n).toNat < 0x80 := by
  revert n
  decide

theorem isAscii_digits (bias place n : Nat) : IsAscii (digits bias place n) := by
  have hlow := threshold_le bias
  induction place, n using digits.induct bias with
  | case1 place n low hn =>
      rw [digits, if_pos hn]
      intro c hc
      rw [List.mem_singleton] at hc
      subst hc
      have := hlow place
      exact isAscii_digit (by omega)
  | case2 place n low hn ih =>
      rw [digits, if_neg hn]
      intro c hc
      obtain rfl | hc := List.mem_cons.1 hc
      · have hp := hlow place
        have hm : (n - threshold bias place) % (36 - threshold bias place) <
            36 - threshold bias place := Nat.mod_lt _ (by omega)
        exact isAscii_digit (by omega)
      · exact ih c hc

-- Only digits are ever written, whichever characters are passed.
theorem isAscii_pass {basic code : Nat} {w : Writer} (hw : IsAscii w.written) (c : Char) :
    IsAscii (pass basic code w c).written := by
  unfold Punycode.pass
  split
  · exact hw
  · split
    · intro d hd
      obtain hd | hd := List.mem_append.1 hd
      · exact hw d hd
      · exact isAscii_digits _ _ _ d hd
    · exact hw

theorem isAscii_place {s : List Char} {basic reached : Nat} {w : Writer} {codes : List Nat}
    (hw : IsAscii w.written) : IsAscii (place s basic reached w codes).written := by
  induction codes generalizing reached w with
  | nil => exact hw
  | cons code rest ih =>
      apply ih
      dsimp only
      apply List.foldlRecOn s (motive := fun w : Writer => IsAscii w.written) (pass basic code)
      · exact hw
      · intro w hw c _
        exact isAscii_pass hw c

theorem isAscii_punycode (s : List Char) : IsAscii (Punycode.encode s) := by
  intro c hc
  obtain hc | hc := List.mem_append.1 hc
  · split at hc
    · cases hc
    · obtain hc | hc := List.mem_append.1 hc
      · exact of_decide_eq_true (List.mem_filter.1 hc).2
      · rw [List.mem_singleton.1 hc]
        decide
  · exact isAscii_place (by simp [IsAscii]) c hc

end Punycode

namespace Mapping

open Domain (encodedMark isForbidden ne_of_blank toLower_of_blank)
open Text

section Ascii

theorem isAscii_encodedMark : IsAscii encodedMark := Text.forall_mem_of_all (by decide)

theorem isAscii_encodeLabel (s : List Char) : IsAscii (encodeLabel s) := by
  intro c hc
  obtain hc | hc := List.mem_append.1 hc
  · exact isAscii_encodedMark c hc
  · exact isAscii_punycode s c hc

theorem label?_cases {s wire : List Char} (h : label? s = some wire) :
    (wire = s ∧ IsAscii s) ∨ wire = encodeLabel s ∨
      ∃ decoded, decodeLabel? s = some decoded ∧ wire = encodeLabel decoded := by
  rw [label?] at h
  split at h
  · obtain ⟨decoded, hd, rfl⟩ := Option.map_eq_some_iff.1 h
    exact .inr (.inr ⟨decoded, hd, rfl⟩)
  · split at h
    · rename_i hs
      cases h
      exact .inl ⟨rfl, Domain.isAscii_iff.1 hs⟩
    · obtain ⟨-, hw⟩ := Option.ite_none_right_eq_some.1 h
      exact .inr (.inl (Option.some.inj hw).symm)

-- A label that has its form already keeps it.
theorem encodeLabel_of_decodeLabel? {s decoded : List Char} (h : decodeLabel? s = some decoded) :
    encodeLabel decoded = s := by
  simp only [decodeLabel?, Option.bind_eq_bind, Option.bind_eq_some_iff,
    Option.ite_none_right_eq_some, Option.some.injEq] at h
  obtain ⟨decoded, -, mapped, -, hv, rfl⟩ := h
  simp only [Bool.and_eq_true, decide_eq_true_eq] at hv
  exact hv.2

theorem isAscii_label? {s wire : List Char} (h : label? s = some wire) : IsAscii wire := by
  obtain ⟨rfl, hs⟩ | rfl | ⟨decoded, -, rfl⟩ := label?_cases h
  · exact hs
  · exact isAscii_encodeLabel s
  · exact isAscii_encodeLabel decoded

theorem isAscii_encode? {name wire : List Char} (h : encode? name = some wire) :
    IsAscii wire := by
  simp only [encode?, Option.bind_eq_bind, Option.bind_eq_some_iff, Option.some.injEq] at h
  obtain ⟨mapped, -, labels, hl, rfl⟩ := h
  apply Text.forall_mem_intercalate (p := fun c : Char => c.toNat < 0x80)
  · exact Text.forall_mem_of_all (by decide)
  · intro label hm
    have hi : some label ∈ labels.map some := List.mem_map_of_mem hm
    rw [← Text.mapM_eq_some_iff.1 hl] at hi
    obtain ⟨piece, -, hp⟩ := List.mem_map.1 hi
    exact isAscii_label? hp

end Ascii

section Blank

variable {c : Char}

-- A set that begins behind the blanks.
theorem contains_eq_false_of_blank {s : CodeSet} (hc : c.toNat ≤ 0x20)
    (h : ∀ range ∈ s.ranges, isBehindBlanks range.1 = true) : s.contains c = false := by
  rw [CodeSet.contains, List.any_eq_false]
  intro range hr
  have hb := h range hr
  simp only [isBehindBlanks, decide_eq_true_eq] at hb
  simp only [Bool.and_eq_true, decide_eq_true_eq]
  omega

theorem ignored_behindBlanks : ∀ range ∈ ignored.ranges, isBehindBlanks range.1 = true := by
  dsimp only [ignored, CodeSet.ofRows]
  apply forall_mem_map_entries fun range : Nat × Nat => isBehindBlanks range.1
  exact allEntries_cons (by decide +kernel) allEntries_nil

theorem dots_behindBlanks : ∀ range ∈ dots.ranges, isBehindBlanks range.1 = true := by
  dsimp only [dots, CodeSet.ofRows]
  apply forall_mem_map_entries fun range : Nat × Nat => isBehindBlanks range.1
  exact allEntries_cons (by decide +kernel) allEntries_nil

theorem mapChar?_of_blank (hc : c.toNat ≤ 0x20) : mapChar? c = some [c] := by
  have hf : fold c = [c] := by
    rw [fold, if_pos (by omega), toLower_of_blank hc]
  rw [mapChar?, contains_eq_false_of_blank hc ignored_behindBlanks,
    contains_eq_false_of_blank hc dots_behindBlanks, hf,
    if_neg (ne_of_blank hc (by decide : 0x20 < 'ẞ'.toNat))]
  have hd : c ≠ '.' := ne_of_blank hc (by decide)
  simp [hd.symm]

theorem mem_punycode (hc : c.toNat ≤ 0x20) {s : List Char} (hs : c ∈ s) :
    c ∈ Punycode.encode s := by
  have hb : c ∈ s.filter (·.toNat < 0x80) := List.mem_filter.2 ⟨hs, by simp; omega⟩
  simp only [Punycode.encode]
  rw [if_neg (List.ne_nil_of_mem hb)]
  exact List.mem_append_left _ (List.mem_append_left _ hb)

theorem mem_label? (hc : c.toNat ≤ 0x20) {s wire : List Char} (h : label? s = some wire)
    (hs : c ∈ s) : c ∈ wire := by
  obtain ⟨rfl, -⟩ | rfl | ⟨decoded, hd, rfl⟩ := label?_cases h
  · exact hs
  · exact List.mem_append_right _ (mem_punycode hc hs)
  · rw [encodeLabel_of_decodeLabel? hd]
    exact hs

theorem mem_encode? (hc : c.toNat ≤ 0x20) {name wire : List Char} (h : encode? name = some wire)
    (hn : c ∈ name) : c ∈ wire := by
  simp only [encode?, Option.bind_eq_bind, Option.bind_eq_some_iff, Option.some.injEq] at h
  obtain ⟨mapped, hm, labels, hl, rfl⟩ := h
  obtain ⟨image, hi, he⟩ := exists_of_mapM hm hn
  rw [mapChar?_of_blank hc] at he
  cases he
  have hf : c ∈ mapped.flatten := List.mem_flatten.2 ⟨[c], hi, List.mem_singleton_self c⟩
  have hd : c ≠ '.' := ne_of_blank hc (by decide)
  obtain ⟨piece, hp, hcp⟩ := mem_splitAt hd (mem_compose hc hf)
  obtain ⟨label, hmem, he⟩ := exists_of_mapM hl hp
  exact mem_intercalate hmem (mem_label? hc he hcp)

end Blank

theorem isAscii_toAscii? {name wire : List Char} (h : toAscii? name = some wire) :
    IsAscii wire := isAscii_encode? (Option.filter_eq_some_iff.1 h).1

theorem isClear_of_toAscii? {name wire : List Char} (h : toAscii? name = some wire) :
    ∀ c ∈ name, 0x20 < c.toNat := by
  obtain ⟨he, hf⟩ := Option.filter_eq_some_iff.1 h
  rw [Bool.not_eq_true', List.any_eq_false] at hf
  intro c hc
  apply Nat.lt_of_not_le
  intro hb
  have hm := hf c (mem_encode? hb he hc)
  simp [isForbidden, hb] at hm

end Mapping

instance : Idna where
  toAscii? := Mapping.toAscii?
  isAscii := Mapping.isAscii_toAscii?
  isClear := Mapping.isClear_of_toAscii?

end ProbeReport.Url
