import ProbeReport.Proofs.Text.Digit
import ProbeReport.Proofs.Url.Authority

-- What the hosts of web addresses look like once they are in the form for the wire.
namespace ProbeReport

namespace Url

section Ipv6

open Ipv6

-- Between the pieces of an address stands a colon, and nowhere else.
theorem count_colon_join (pieces : List Nat) : (join pieces).count ':' = pieces.length - 1 := by
  have hd (n : Nat) : (Text.hexDigits n).count ':' = 0 := by
    rw [List.count_eq_zero]
    intro h
    exact absurd (Text.isLowerHex_of_mem_hexDigits h) (by decide)
  rw [join]
  induction pieces with
  | nil => rfl
  | cons first more ih =>
      cases more with
      | nil => simp [hd]
      | cons next rest =>
          rw [List.map_cons, List.map_cons, List.intercalate_cons_cons, List.count_append,
            List.count_append, hd, ← List.map_cons, ih]
          simp [Nat.add_comm]

theorem zeroRun_le (pieces : List Nat) : zeroRun pieces ≤ pieces.length :=
  (List.takeWhile_prefix _).length_le

theorem longestRun_le (index : Nat) (pieces : List Nat) (h : (longestRun index pieces).2 ≠ 0) :
    (longestRun index pieces).1 + (longestRun index pieces).2 ≤ index + pieces.length := by
  induction pieces generalizing index with
  | nil => exact absurd rfl h
  | cons piece rest ih =>
      rw [longestRun] at h ⊢
      have hz := zeroRun_le (piece :: rest)
      split
      · exact Nat.add_le_add_left hz index
      · rename_i hn
        have := ih (index + 1) (by omega)
        rw [List.length_cons]
        omega

theorem text_eq (pieces : List Nat) :
    Ipv6.text pieces =
      if (longestRun 0 pieces).2 < 2 then join pieces
      else join (pieces.take (longestRun 0 pieces).1) ++ ':' :: ':' ::
        join (pieces.drop ((longestRun 0 pieces).1 + (longestRun 0 pieces).2)) := rfl

theorem count_colon_text {pieces : List Nat} (h : pieces.length = 8) :
    (Ipv6.text pieces).count ':' ≤ 7 := by
  rw [text_eq]
  split
  · calc (join pieces).count ':' = pieces.length - 1 := count_colon_join pieces
      _ ≤ 7 := by omega
  · rename_i hn
    have hr := longestRun_le 0 pieces (by omega)
    rw [List.count_append, List.count_cons_self, List.count_cons_self, count_colon_join,
      count_colon_join, List.length_take, List.length_drop]
    omega

theorem isLowerHex_of_mem_text {pieces : List Nat} {c : Char} (h : c ∈ Ipv6.text pieces) :
    c = ':' ∨ Text.isLowerHex c = true := by
  have hj {pieces : List Nat} : ∀ c ∈ join pieces, c = ':' ∨ Text.isLowerHex c = true := by
    apply Text.forall_mem_intercalate
    · intro c hc
      exact .inl (List.mem_singleton.1 hc)
    · intro digits hm c hc
      obtain ⟨n, -, rfl⟩ := List.mem_map.1 hm
      exact .inr (Text.isLowerHex_of_mem_hexDigits hc)
  rw [text_eq] at h
  split at h
  · exact hj c h
  · rw [List.mem_append, List.mem_cons, List.mem_cons] at h
    obtain h | rfl | rfl | h := h
    · exact hj c h
    · exact .inl rfl
    · exact .inl rfl
    · exact hj c h

theorem length_of_parse? {s : List Char} {pieces : List Nat} (h : parse? s = some pieces) :
    pieces.length = 8 := by
  rw [parse?] at h
  split at h
  · simp only [Option.bind_eq_bind, Option.bind_eq_some_iff,
      Option.ite_none_right_eq_some] at h
    obtain ⟨_, -, hl, he⟩ := h
    cases he
    exact hl
  · simp only [Option.bind_eq_bind, Option.bind_eq_some_iff,
      Option.ite_none_right_eq_some] at h
    obtain ⟨front, -, back, -, hl, he⟩ := h
    cases he
    rw [List.length_append, List.length_append, List.length_replicate]
    omega

end Ipv6

theorem isDigit_of_mem_ipv4 {address : Nat} {c : Char} (h : c ∈ Ipv4.text address) :
    c = '.' ∨ c.isDigit = true := by
  simp only [Ipv4.text, List.mem_append, List.mem_cons, or_assoc] at h
  obtain h | rfl | h | rfl | h | rfl | h := h
  · exact .inr (Text.isDigit_of_mem_toString h)
  · exact .inl rfl
  · exact .inr (Text.isDigit_of_mem_toString h)
  · exact .inl rfl
  · exact .inr (Text.isDigit_of_mem_toString h)
  · exact .inl rfl
  · exact .inr (Text.isDigit_of_mem_toString h)

-- The hosts of web addresses.
inductive Host.IsWire : Host → Prop where
  | domain {name : String} :
      name ≠ "" → (∀ c ∈ name.toList, Domain.IsNameChar c) → IsWire (.domain name)
  | ipv4 {address : Nat} : IsWire (.ipv4 address)
  | ipv6 {pieces : List Nat} : pieces.length = 8 → IsWire (.ipv6 pieces)

theorem Host.isWire_of_parse [Idna] {s : List Char} {host : Host} (h : Host.parse s = .ok host) :
    host.IsWire := by
  rw [Host.parse] at h
  split at h
  · rw [Host.ofBracketed?] at h
    split at h
    · split at h
      · rename_i pieces hp
        cases h
        exact .ipv6 (length_of_parse? hp)
      · cases h
    · cases h
  · split at h
    · cases h
    · cases h
    · rename_i name hn hname
      rw [Option.bind_eq_some_iff] at hname
      obtain ⟨decoded, -, hwire⟩ := hname
      split at h
      · split at h
        · cases h
          exact .ipv4
        · cases h
      · cases h
        refine .domain ?_ ?_
        · intro he
          apply hn
          rw [← String.toList_ofList (l := name), he]
          rfl
        · rw [String.toList_ofList]
          exact Domain.isNameChar_of_toAscii? hwire

theorem Host.IsWire.text_ne_empty {host : Host} (h : host.IsWire) : host.text ≠ "" := by
  cases h with
  | domain hn _ => exact hn
  | ipv4 =>
      intro he
      have hl := congrArg String.toList he
      rw [Host.text, String.toList_ofList] at hl
      simp [Ipv4.text] at hl
  | ipv6 _ =>
      intro he
      have hl := congrArg String.toList he
      rw [Host.text, String.toList_ofList] at hl
      cases hl

end Url

end ProbeReport
