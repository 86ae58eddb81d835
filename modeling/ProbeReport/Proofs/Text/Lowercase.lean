import ProbeReport.Proofs.Text.Search
import ProbeReport.Text.Lowercase

-- In ASCII the small form of a text is made letter by letter.
namespace ProbeReport.Text

variable {c : Char} {s before : List Char}

theorem isAscii_of_toLower (h : c.toLower.toNat < 0x80) : c.toNat < 0x80 := by
  by_cases hu : c.val ≥ 'A'.val ∧ c.val ≤ 'Z'.val
  · have hz : c.toNat ≤ 'Z'.toNat := hu.2
    exact Nat.lt_of_le_of_lt hz (by decide)
  · have hl : c.toLower = c := dif_neg hu
    rwa [hl] at h

theorem lowerChar_of_isAscii (h : c.toNat < 0x80) : lowerChar c = [c.toLower] := by
  obtain ⟨n, rfl⟩ := exists_ofNat h
  revert n
  decide +kernel

-- Only a capital sigma depends on its place.
theorem lowerFrom_of_isAscii (h : ∀ c ∈ s, c.toNat < 0x80) :
    lowerFrom before s = s.map Char.toLower := by
  induction s generalizing before with
  | nil => rfl
  | cons c rest ih =>
      obtain ⟨hc, hrest⟩ := List.forall_mem_cons.1 h
      have hsigma : c ≠ capitalSigma := by
        rintro rfl
        exact absurd hc (by decide)
      rw [lowerFrom, if_neg hsigma, lowerChar_of_isAscii hc, ih hrest]
      rfl

-- A word in small letters of ASCII is the small form of all its spellings.
theorem lowercase_of_map_toLower {text word : String}
    (h : text.toList.map Char.toLower = word.toList) (hw : ∀ c ∈ word.toList, c.toNat < 0x80) :
    lowercase text = word := by
  have hascii : ∀ c ∈ text.toList, c.toNat < 0x80 := fun c hc =>
    isAscii_of_toLower (hw c.toLower (h ▸ List.mem_map_of_mem hc))
  rw [lowercase, lowerFrom_of_isAscii hascii, h, String.ofList_toList]

end ProbeReport.Text
