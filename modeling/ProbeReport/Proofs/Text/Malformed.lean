import ProbeReport.Proofs.Text.Utf8

-- Bytes that are no text are read in pieces. A character among them is always a piece of its own,
-- and what stands before and behind it is read as if it stood alone.
namespace ProbeReport.Text.Utf8

-- Bytes that only stand within a character.
def IsContinuation (b : UInt8) : Prop := 0x80 ≤ b ∧ b ≤ 0xbf

instance (b : UInt8) : Decidable (IsContinuation b) := inferInstanceAs (Decidable (_ ∧ _))

namespace Pending

-- Within a character only such bytes are waited for.
def IsNarrow : Pending → Prop
  | .none => True
  | .some _ low high _ => 0x80 ≤ low ∧ high ≤ 0xbf

-- How many pieces are still to come of what has been read.
def owed (state : Pending) : Nat := if state = .none then 0 else 1

@[simp] theorem owed_none : owed .none = 0 := rfl

@[simp] theorem owed_some (need : Nat) (low high : UInt8) (bits : Nat) :
    owed (.some need low high bits) = 1 := rfl

end Pending

section Steps

variable {state : Pending} {b : UInt8}

theorem isNarrow_lead (b : UInt8) : (lead b).1.IsNarrow := by
  unfold lead
  (repeat' split) <;> trivial

theorem isNarrow_step (b : UInt8) (h : state.IsNarrow) : (step state b).1.IsNarrow := by
  cases state with
  | none => exact isNarrow_lead b
  | some need low high bits =>
      simp only [step]
      split
      · split
        · trivial
        · exact ⟨by decide, by decide⟩
      · exact isNarrow_lead b

-- A byte that is no continuation ends what was begun and is read afresh.
theorem step_of_not_isContinuation (hs : state.IsNarrow) (hb : ¬IsContinuation b) :
    step state b = ((lead b).1, pieces state [] ++ (lead b).2) := by
  cases state with
  | none => rfl
  | some need low high bits =>
      have hout : ¬(low ≤ b ∧ b ≤ high) := fun hr =>
        hb ⟨UInt8.le_trans hs.1 hr.1, UInt8.le_trans hr.2 hs.2⟩
      simp only [step, if_neg hout]
      rfl

theorem length_lead (b : UInt8) : (lead b).2.length + (lead b).1.owed = 1 := by
  unfold lead
  (repeat' split) <;> rfl

-- A byte makes for one piece at most, together with what was owed before it.
theorem length_step (state : Pending) (b : UInt8) :
    0 < (step state b).2.length + (step state b).1.owed ∧
      (step state b).2.length + (step state b).1.owed ≤ state.owed + 1 := by
  have hl := length_lead b
  cases state with
  | none =>
      simp only [step, Pending.owed_none]
      omega
  | some need low high bits =>
      simp only [step, Pending.owed_some]
      split
      · split <;> simp
      · simp only [List.length_cons]
        omega

end Steps

section Pieces

variable {state : Pending} {bytes : List UInt8}

theorem pieces_cons (state : Pending) (b : UInt8) (rest : List UInt8) :
    pieces state (b :: rest) = (step state b).2 ++ pieces (step state b).1 rest := rfl

theorem length_pieces_le (state : Pending) (bytes : List UInt8) :
    (pieces state bytes).length ≤ bytes.length + state.owed := by
  induction bytes generalizing state with
  | nil => cases state <;> simp [pieces]
  | cons b rest ih =>
      have hstep := (length_step state b).2
      have hrest := ih (step state b).1
      rw [pieces_cons, List.length_append, List.length_cons]
      omega

theorem length_pieces_pos (h : 0 < bytes.length + state.owed) :
    0 < (pieces state bytes).length := by
  induction bytes generalizing state with
  | nil =>
      cases state with
      | none => simp at h
      | some need low high bits => simp [pieces]
  | cons b rest ih =>
      have hstep := (length_step state b).1
      rw [pieces_cons, List.length_append]
      by_cases hp : 0 < (step state b).2.length
      · omega
      · have hrest : 0 < (pieces (step state b).1 rest).length := ih (by omega)
        omega

-- Where a character may begin, the bytes can be cut.
theorem pieces_append_of_not_isContinuation {before rest : List UInt8} {b : UInt8}
    (hs : state.IsNarrow) (hb : ¬IsContinuation b) :
    pieces state (before ++ b :: rest) = pieces state before ++ pieces .none (b :: rest) := by
  induction before generalizing state with
  | nil =>
      rw [List.nil_append, pieces_cons, step_of_not_isContinuation hs hb, List.append_assoc]
      rfl
  | cons c before ih =>
      rw [List.cons_append, pieces_cons, ih (isNarrow_step c hs), pieces_cons state c before,
        List.append_assoc]

-- The first byte of a character does not stand within another one.
theorem exists_utf8EncodeChar (c : Char) :
    ∃ b rest, String.utf8EncodeChar c = b :: rest ∧ ¬IsContinuation b := by
  have hn : c.val.toNat < 0x110000 := by
    have := c.valid
    simp only [UInt32.isValidChar, Nat.isValidChar] at this
    omega
  have hfirst {n : Nat} (hn : n < 256) (hc : n < 0x80 ∨ 0xc0 ≤ n) :
      ¬IsContinuation (UInt8.ofNat n) := by
    rw [IsContinuation, UInt8.le_iff_toNat_le, UInt8.le_iff_toNat_le, toNat_ofNat_of_lt hn]
    show ¬(0x80 ≤ n ∧ n ≤ 0xbf)
    omega
  unfold String.utf8EncodeChar
  by_cases h : c.val.toNat ≤ 0x7f
  · exact ⟨_, _, if_pos h, hfirst (by omega) (by omega)⟩
  by_cases h' : c.val.toNat ≤ 0x7ff
  · exact ⟨_, _, (if_neg h).trans (if_pos h'), hfirst (by omega) (by omega)⟩
  by_cases h'' : c.val.toNat ≤ 0xffff
  · exact ⟨_, _, (if_neg h).trans ((if_neg h').trans (if_pos h'')), hfirst (by omega) (by omega)⟩
  · exact ⟨_, _, (if_neg h).trans ((if_neg h').trans (if_neg h'')), hfirst (by omega) (by omega)⟩

theorem pieces_flatMap_append (s : List Char) (rest : List UInt8) :
    pieces .none (s.flatMap String.utf8EncodeChar ++ rest) = s.map some ++ pieces .none rest := by
  induction s with
  | nil => rfl
  | cons c s ih => rw [List.flatMap_cons, List.append_assoc, pieces_char, ih, List.map_cons,
      List.cons_append]

end Pieces

section Reading

variable {bytes : List UInt8}

-- Malformed bytes neither swallow nor change the text between them.
theorem decodeLossy_append {text : String} (ht : text ≠ "") (before after : List UInt8) :
    decodeLossy (before ++ utf8 text ++ after) =
      decodeLossy before ++ text.toList ++ decodeLossy after := by
  obtain ⟨c, s, hs⟩ : ∃ c s, text.toList = c :: s := by
    cases hl : text.toList with
    | nil => exact absurd (String.toList_eq_nil_iff.1 hl) ht
    | cons c s => exact ⟨c, s, rfl⟩
  obtain ⟨b, more, hb, hcut⟩ := exists_utf8EncodeChar c
  have hfirst : utf8 text ++ after =
      b :: (more ++ s.flatMap String.utf8EncodeChar ++ after) := by
    rw [utf8, hs, List.flatMap_cons, hb]
    rfl
  have hread : pieces .none (utf8 text ++ after) = text.toList.map some ++ pieces .none after :=
    pieces_flatMap_append text.toList after
  have hnarrow : Pending.none.IsNarrow := trivial
  have htext : (text.toList.map some).map (·.getD '\ufffd') = text.toList := by
    rw [List.map_map]
    exact List.map_id text.toList
  rw [List.append_assoc, decodeLossy, hfirst, pieces_append_of_not_isContinuation hnarrow hcut,
    ← hfirst, hread, List.map_append, List.map_append, htext, ← List.append_assoc]
  rfl

theorem decodeLossy_utf8 (text : String) : decodeLossy (utf8 text) = text.toList := by
  rw [decodeLossy, utf8, pieces_flatMap, List.map_map]
  exact List.map_id _

theorem length_decodeLossy_le (bytes : List UInt8) :
    (decodeLossy bytes).length ≤ bytes.length := by
  rw [decodeLossy, List.length_map]
  exact length_pieces_le .none bytes

theorem length_decodeLossy_pos (h : bytes ≠ []) : 0 < (decodeLossy bytes).length := by
  rw [decodeLossy, List.length_map]
  exact length_pieces_pos (List.length_pos_iff.2 h)

-- The bytes of texts are those that are valid.
theorem validateUTF8_iff : bytes.toByteArray.validateUTF8 = true ↔ ∃ text, utf8 text = bytes := by
  rw [ByteArray.validateUTF8_eq_true_iff]
  constructor
  · rintro ⟨s, hs⟩
    refine ⟨String.ofList s, ?_⟩
    rw [utf8, String.toList_ofList]
    exact (List.toByteArray_inj.1 hs).symm
  · rintro ⟨text, rfl⟩
    exact ⟨text.toList, rfl⟩

-- Only of valid bytes nothing is replaced.
theorem utf8_decodeLossy_iff :
    utf8 (String.ofList (decodeLossy bytes)) = bytes ↔ bytes.toByteArray.validateUTF8 = true := by
  rw [validateUTF8_iff]
  constructor
  · exact fun h => ⟨_, h⟩
  · rintro ⟨text, rfl⟩
    rw [decodeLossy_utf8, String.ofList_toList]

end Reading

end ProbeReport.Text.Utf8
