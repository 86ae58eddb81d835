import ProbeReport.Proofs.Text.Digit
import ProbeReport.Proofs.Text.Search
import ProbeReport.Url.Domain

-- What a name has to be like to have a form for the wire, and what that form is like.
namespace ProbeReport.Url

def IsAscii (s : List Char) : Prop := ∀ c ∈ s, c.toNat < 0x80

theorem isAscii_map_toLower {s : List Char} (h : IsAscii s) : IsAscii (s.map Char.toLower) := by
  have hall : ∀ n : Fin 128, (Char.ofNat n).toLower.toNat < 0x80 := by decide +kernel
  intro c hc
  obtain ⟨d, hd, rfl⟩ := List.mem_map.1 hc
  obtain ⟨n, rfl⟩ := Text.exists_ofNat (h d hd)
  exact hall n

namespace Domain

section Blank

variable {c : Char}

theorem toLower_of_blank (hc : c.toNat ≤ 0x20) : c.toLower = c := by
  have hn : ¬(c.val ≥ 'A'.val ∧ c.val ≤ 'Z'.val) := by
    rintro ⟨ha, -⟩
    have ha : 0x41 ≤ c.toNat := ha
    omega
  exact dif_neg hn

theorem ne_of_blank {d : Char} (hc : c.toNat ≤ 0x20) (hd : 0x20 < d.toNat) : c ≠ d := by
  rintro rfl
  omega

end Blank

theorem isAscii_iff {s : List Char} : isAscii s = true ↔ IsAscii s := by
  simp [isAscii, IsAscii]

theorem isAscii_of_isPlain {name : List Char} (h : isPlain name = true) : IsAscii name := by
  rw [isPlain, Bool.and_eq_true] at h
  exact isAscii_iff.1 h.1

-- Characters that a name can hold on the wire.
def IsNameChar (c : Char) : Prop := c.toNat < 0x80 ∧ isForbidden c = false

section Wire

variable [Idna] {name wire : List Char}

-- A name is plain or not, and then nothing forbidden is left.
theorem toAscii?_eq_some_iff :
    toAscii? name = some wire ↔
      (if isPlain name then some (name.map Char.toLower) else Idna.toAscii? name) = some wire ∧
        ∀ c ∈ wire, isForbidden c = false := by
  have hb : toAscii? name =
      (if isPlain name then some (name.map Char.toLower) else Idna.toAscii? name).bind
        fun wire => if wire.any isForbidden then none else some wire := by
    unfold toAscii?
    split <;> rfl
  rw [hb, Option.bind_eq_some_iff]
  simp only [Option.ite_none_left_eq_some, Bool.not_eq_true, List.any_eq_false,
    Option.some.injEq]
  constructor
  · rintro ⟨_, h, hf, rfl⟩
    exact ⟨h, hf⟩
  · rintro ⟨h, hf⟩
    exact ⟨wire, h, hf, rfl⟩

theorem isNameChar_of_toAscii? (h : toAscii? name = some wire) : ∀ c ∈ wire, IsNameChar c := by
  obtain ⟨h, hf⟩ := toAscii?_eq_some_iff.1 h
  refine fun c hc => ⟨?_, hf c hc⟩
  split at h
  · rename_i hp
    cases h
    exact isAscii_map_toLower (isAscii_of_isPlain hp) c hc
  · exact Idna.isAscii h c hc

-- A blank or a control in a name stays there, and so there is no form of such a name.
theorem toAscii?_of_blank {c : Char} (hc : c.toNat ≤ 0x20) (hn : c ∈ name) :
    toAscii? name = none := by
  rw [Option.eq_none_iff_forall_ne_some]
  intro wire h
  obtain ⟨h, hf⟩ := toAscii?_eq_some_iff.1 h
  split at h
  · cases h
    have hm := hf c (List.mem_map.2 ⟨c, hn, toLower_of_blank hc⟩)
    simp [isForbidden, hc] at hm
  · exact absurd (Idna.isClear h c hn) (Nat.not_lt.2 hc)

end Wire

end Domain

end ProbeReport.Url
