import Mathlib.Data.List.Induction
import ProbeReport.Proofs.Json.Strings
import ProbeReport.Proofs.Text.Malformed

-- Offsets in the bytes of a text, and the lines and columns that are told for them.
namespace ProbeReport

section Bytes

theorem loop_toList (bytes : ByteArray) (i : Nat) (before : List UInt8) :
    ByteArray.toList.loop bytes i before = before.reverse ++ bytes.data.toList.drop i := by
  fun_induction ByteArray.toList.loop bytes i before with
  | case1 i before h ih =>
      have hi : i < bytes.data.toList.length := h
      have hget : bytes.get! i = bytes.data.toList[i] := by
        simp [ByteArray.get!, getElem!_pos bytes.data i h]
      rw [ih, hget, List.drop_eq_getElem_cons hi, List.reverse_cons, List.append_assoc,
        List.singleton_append]
  | case2 i before h =>
      rw [List.drop_eq_nil_of_le (Nat.le_of_not_lt h), List.append_nil]

theorem toUTF8_toList (text : String) : text.toUTF8.toList = utf8 text := by
  have hb : text.toUTF8 = (utf8 text).toByteArray := by
    conv => lhs; rw [← String.ofList_toList (s := text)]
    exact String.toByteArray_ofList
  rw [ByteArray.toList, loop_toList, hb, List.toList_data_toByteArray]
  rfl

end Bytes

namespace Text.Utf8

-- Bytes that begin like those of a text are those of a text that begins like it.
theorem exists_append_of_bytes {front s : List Char} {rest : List UInt8}
    (h : s.flatMap String.utf8EncodeChar = front.flatMap String.utf8EncodeChar ++ rest) :
    ∃ back, s = front ++ back ∧ back.flatMap String.utf8EncodeChar = rest := by
  have hp := congrArg (pieces .none) h
  rw [pieces_flatMap, pieces_flatMap_append] at hp
  obtain ⟨first, back, rfl, hf, hb⟩ := List.map_eq_append_iff.1 hp
  have he : first = front := (List.map_inj_right fun _ _ => Option.some.inj).1 hf
  exact ⟨back, by rw [he], Reads.flatMap_eq hb.symm⟩

-- How long a character is can be told from its first byte.
theorem utf8Size_eq {c : Char} {b : UInt8} (h : (String.utf8EncodeChar c).head? = some b) :
    c.utf8Size =
      if b.toNat < 0x80 then 1 else if b.toNat < 0xe0 then 2 else if b.toNat < 0xf0 then 3 else 4 := by
  rw [← String.length_utf8EncodeChar]
  simp only [String.utf8EncodeChar] at h ⊢
  split at h
  · cases h
    rename_i hv
    rw [if_pos hv, toNat_ofNat_of_lt (by omega), if_pos (by omega)]
    rfl
  rename_i hone
  rw [if_neg hone]
  split at h
  · cases h
    rename_i hv
    rw [if_pos hv, toNat_ofNat_of_lt (by omega), if_neg (by omega), if_pos (by omega)]
    rfl
  rename_i htwo
  rw [if_neg htwo]
  split at h
  · cases h
    rename_i hv
    rw [if_pos hv, toNat_ofNat_of_lt (by omega), if_neg (by omega), if_neg (by omega),
      if_pos (by omega)]
    rfl
  · cases h
    rename_i hv
    rw [if_neg hv, toNat_ofNat_of_lt (by omega), if_neg (by omega), if_neg (by omega),
      if_neg (by omega)]
    rfl

end Text.Utf8

namespace Position

theorem after_concat (bytes : List UInt8) (b : UInt8) :
    after (bytes ++ [b]) = (after bytes).advance b :=
  List.foldl_append

theorem line_after (bytes : List UInt8) : (after bytes).line = 1 + bytes.count 10 := by
  induction bytes using List.reverseRecOn with
  | nil => rfl
  | append_singleton bytes b ih =>
      rw [after_concat, advance, List.count_append]
      split
      · rename_i hb
        subst hb
        rw [ih, List.count_singleton_self, Nat.add_assoc]
      · rename_i hb
        rw [ih, List.count_singleton, if_neg (by simpa using hb), Nat.add_zero]

theorem column_after (bytes : List UInt8) :
    (after bytes).column = (bytes.reverse.takeWhile (· ≠ 10)).length := by
  induction bytes using List.reverseRecOn with
  | nil => rfl
  | append_singleton bytes b ih =>
      rw [after_concat, advance, List.reverse_concat]
      split
      · rename_i hb
        rw [List.takeWhile_cons_of_neg (by simpa using hb)]
        rfl
      · rename_i hb
        rw [ih, List.takeWhile_cons_of_pos (by simpa using hb), List.length_cons]

end Position

namespace Json

-- Characters that begin with the same byte are the same one, or both are beyond ASCII and of the
-- same length.
def BeginAlike (c d : Char) : Prop :=
  c = d ∨ 0x80 ≤ c.toNat ∧ 0x80 ≤ d.toNat ∧ c.utf8Size = d.utf8Size

theorem beginAlike_of_head? {c d : Char}
    (h : (String.utf8EncodeChar c).head? = (String.utf8EncodeChar d).head?) : BeginAlike c d := by
  have hascii {c d : Char} (h : (String.utf8EncodeChar c).head? = (String.utf8EncodeChar d).head?)
      (hc : c.toNat < 0x80) : d = c := by
    rw [Text.Utf8.utf8EncodeChar_one hc] at h
    exact Text.Utf8.eq_of_mem_utf8EncodeChar hc (List.mem_of_mem_head? h.symm)
  by_cases hc : c.toNat < 0x80
  · exact .inl (hascii h hc).symm
  by_cases hd : d.toNat < 0x80
  · exact .inl (hascii h.symm hd)
  · refine .inr ⟨Nat.le_of_not_lt hc, Nat.le_of_not_lt hd, ?_⟩
    obtain ⟨b, hb⟩ := Option.isSome_iff_exists.1
      (List.isSome_head?.2 (String.utf8EncodeChar_ne_nil (c := c)))
    rw [Text.Utf8.utf8Size_eq hb, Text.Utf8.utf8Size_eq (h ▸ hb)]

theorem length_flatMap (t : List Char) :
    (t.flatMap String.utf8EncodeChar).length = byteCount t := by
  induction t with
  | nil => rfl
  | cons c rest ih =>
      rw [List.flatMap_cons, List.length_append, ih, String.length_utf8EncodeChar]
      rfl

-- A text with the same bytes up to somewhere in a character has the same characters before it,
-- and there one that begins alike.
theorem exists_beginAlike {front back s : List Char} {c : Char} {n : Nat} (hn : 0 < n)
    (hc : n ≤ c.utf8Size)
    (h : (s.flatMap String.utf8EncodeChar).take (byteCount front + n) =
      ((front ++ c :: back).flatMap String.utf8EncodeChar).take (byteCount front + n)) :
    ∃ d rest, s = front ++ d :: rest ∧ BeginAlike c d := by
  have hlen : n ≤ (String.utf8EncodeChar c).length := by rwa [String.length_utf8EncodeChar]
  have htake : ((front ++ c :: back).flatMap String.utf8EncodeChar).take (byteCount front + n) =
      front.flatMap String.utf8EncodeChar ++ (String.utf8EncodeChar c).take n := by
    rw [List.flatMap_append, List.flatMap_cons, ← length_flatMap, List.take_length_add_append,
      List.take_append_of_le_length hlen]
  have hbytes : s.flatMap String.utf8EncodeChar = front.flatMap String.utf8EncodeChar ++
      ((String.utf8EncodeChar c).take n ++
        (s.flatMap String.utf8EncodeChar).drop (byteCount front + n)) := by
    rw [← List.append_assoc, ← htake, ← h, List.take_append_drop]
  obtain ⟨more, rfl, hmore⟩ := Text.Utf8.exists_append_of_bytes hbytes
  have hhead : (more.flatMap String.utf8EncodeChar).head? = (String.utf8EncodeChar c).head? := by
    obtain ⟨b, bytes, hb⟩ := List.exists_cons_of_ne_nil (String.utf8EncodeChar_ne_nil (c := c))
    obtain ⟨m, rfl⟩ := Nat.exists_eq_succ_of_ne_zero (Nat.ne_of_gt hn)
    rw [hmore, hb]
    rfl
  cases more with
  | nil =>
      have hs := List.isSome_head?.2 (String.utf8EncodeChar_ne_nil (c := c))
      rw [← hhead] at hs
      cases hs
  | cons d rest =>
      refine ⟨d, rest, rfl, beginAlike_of_head? ?_⟩
      rw [← hhead, List.flatMap_cons, List.head?_append, Option.or_of_isSome]
      exact List.isSome_head?.2 String.utf8EncodeChar_ne_nil

end Json

end ProbeReport
