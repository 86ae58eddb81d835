import Mathlib
import ProbeReport.Log.Line
import ProbeReport.Proofs.Json.Printing
import ProbeReport.Proofs.Log.Amount
import ProbeReport.Proofs.Text.Search

-- A line of the log tells its event, the whole of it and nothing else.
namespace ProbeReport.Log

-- How a whole number is written: in digits, without zeros in front, and with a minus if need be.
inductive Digital : List Char → Int → Prop where
  | natural {t : List Char} : Json.Grammar.Whole t → Digital t (count t)
  | negative {t : List Char} : Json.Grammar.Whole t → 0 < count t → Digital ('-' :: t) (-count t)

-- How a recorded value is told. Integers that are wider than a machine word are told as texts.
inductive Value.Told : Value → Json → Prop where
  | text {s : String} : Told (.text s) (.string s)
  | shown {s : String} : Told (.shown s) (.string s)
  | int64 {n : Int64} {s : String} : Digital s.toList n.toInt → Told (.int64 n) (.number s)
  | uint64 {n : UInt64} {s : String} : Digital s.toList n.toNat → Told (.uint64 n) (.number s)
  | int128 {n : BitVec 128} {s : String} : Digital s.toList n.toInt → Told (.int128 n) (.string s)
  | uint128 {n : BitVec 128} {s : String} :
      Digital s.toList n.toNat → Told (.uint128 n) (.string s)
  | float {bits : UInt64} {s : String} {t : List Char} :
      Decimal.IsFinite bits.toNat →
      s.toList = (if bits.toNat / Nat.pow 2 63 % 2 = 1 then ['-'] else []) ++ t →
      Spells (bits.toNat % Nat.pow 2 63) t → Told (.float bits) (.number s)
  | notFinite {bits : UInt64} : ¬Decimal.IsFinite bits.toNat → Told (.float bits) .null
  | bool {b : Bool} : Told (.bool b) (.bool b)
  | elapsed : Told .elapsed (.string elapsedMark)

-- How a message is told. One that is formatted loses all quotes around it.
inductive Message.Told : Message → String → Prop where
  | none : Told .none ""
  | text {s : String} : Told (.text s) s
  | shown {s told : String} {front back : List Char} :
      s.toList = front ++ told.toList ++ back → (∀ c ∈ front, c = '"') → (∀ c ∈ back, c = '"') →
      told.toList.head? ≠ some '"' → told.toList.getLast? ≠ some '"' → Told (.shown s) told

section Told

theorem digital_toString (n : Int) : Digital (toString n).toList n := by
  cases n with
  | ofNat n =>
      have h := Digital.natural (whole_toString n)
      rwa [count_toString] at h
  | negSucc n =>
      have ht : (toString (Int.negSucc n)).toList = '-' :: (toString (n + 1)).toList :=
        String.toList_append
      have h := Digital.negative (whole_toString (n + 1))
      rw [count_toString] at h
      rw [ht]
      exact h (Nat.succ_pos n)

theorem Value.told_toJson (value : Value) : value.Told value.toJson := by
  cases value with
  | text s => exact .text
  | shown s => exact .shown
  | int64 n => exact .int64 (digital_toString n.toInt)
  | uint64 n => exact .uint64 (digital_toString n.toNat)
  | int128 n => exact .int128 (digital_toString n.toInt)
  | uint128 n => exact .uint128 (digital_toString n.toNat)
  | float bits =>
      rw [toJson]
      by_cases h : Decimal.IsFinite bits.toNat
      · obtain ⟨t, ht, -, hs⟩ := floatText?_of_isFinite h
        rw [ht]
        refine .float h ?_ hs
        split <;> simp
      · rw [floatText?_of_not_isFinite h]
        exact .notFinite h
  | bool b => exact .bool
  | elapsed => exact .elapsed

theorem Message.told_toJson (message : Message) : message.Told message.toJson := by
  cases message with
  | none => exact .none
  | text s => exact .text
  | shown s =>
      obtain ⟨front, back, hs, hf, hb, hh, hl⟩ :=
        Text.exists_trim (fun c => decide (c = '"')) s.toList
      have hf : ∀ c ∈ front, c = '"' := fun c hc => of_decide_eq_true (hf c hc)
      have hb : ∀ c ∈ back, c = '"' := fun c hc => of_decide_eq_true (hb c hc)
      rw [toJson]
      refine .shown ?_ hf hb ?_ ?_
      · rw [String.toList_ofList]
        exact hs
      · rw [String.toList_ofList]
        exact fun he => absurd (hh _ he) (by decide)
      · rw [String.toList_ofList]
        exact fun he => absurd (hl _ he) (by decide)

end Told

section Document

open Json (Canonical)

theorem canonical_toJson (value : Value) (n : Nat) : Canonical n value.toJson := by
  have hnumber {spelling : String} (h : Json.Grammar.Number spelling.toList spelling.toList) :
      Canonical n (.number spelling) := by
    have hc := Canonical.number (n := n) h
    rwa [String.ofList_toList] at hc
  cases value with
  | text s => exact .string
  | shown s => exact .string
  | int64 n => exact hnumber (number_toString n.toInt)
  | uint64 n => exact hnumber (number_toString n.toNat)
  | int128 n => exact .string
  | uint128 n => exact .string
  | float bits =>
      rw [Value.toJson]
      by_cases h : Decimal.IsFinite bits.toNat
      · obtain ⟨t, ht, hu, -⟩ := floatText?_of_isFinite h
        have hn := hu.signed (decide (bits.toNat / Nat.pow 2 63 % 2 = 1))
        simp only [decide_eq_true_eq] at hn
        rw [ht]
        exact hnumber hn
      · rw [floatText?_of_not_isFinite h]
        exact .null
  | bool b => exact .bool
  | elapsed => exact .string

variable {e : Event} {data : List (String × Json)}

-- The members of the data are those of the event.
theorem members_eq (hn : (e.fields.map Prod.fst).Nodup) :
    e.members = e.fields.map fun field => (field.1, field.2.toJson) := by
  have hkeys : ((e.fields.map fun field => (field.1, field.2.toJson)).map Prod.fst).Nodup := by
    rwa [List.map_map]
  have hm := Json.Grammar.merged_of_nodup hkeys
  rwa [← Json.Grammar.foldl_put, List.foldl_map] at hm

theorem perm_data (e : Event) : e.data.Perm e.members := List.mergeSort_perm _ _

theorem perm_names (hn : (e.fields.map Prod.fst).Nodup) (hd : data.Perm e.members) :
    (data.map Prod.fst).Perm (e.fields.map Prod.fst) := by
  have hp := hd.map Prod.fst
  rwa [members_eq hn, List.map_map] at hp

theorem mem_data_iff (hn : (e.fields.map Prod.fst).Nodup) (hd : data.Perm e.members)
    {name : String} {json : Json} :
    (name, json) ∈ data ↔ ∃ value, (name, value) ∈ e.fields ∧ value.toJson = json := by
  rw [hd.mem_iff, members_eq hn, List.mem_map]
  constructor
  · rintro ⟨⟨_, value⟩, hm, rfl, rfl⟩
    exact ⟨value, hm, rfl⟩
  · rintro ⟨value, hm, rfl⟩
    exact ⟨(name, value), hm, rfl⟩

theorem canonical_document (hn : (e.fields.map Prod.fst).Nodup)
    (hk : Json.numberKey ∉ e.fields.map Prod.fst) (hd : data.Perm e.members)
    (service stamp : String) : Canonical Json.maxOpen (e.document data service stamp) := by
  have hp := perm_names hn hd
  have hdata : Canonical 126 (.object data) := by
    refine .object (hp.nodup_iff.2 hn) (fun hh => hk (hp.mem_iff.1 ?_)) fun member hm => ?_
    · rw [← List.head?_map] at hh
      exact List.mem_of_head? hh
    · obtain ⟨value, -, hv⟩ := (mem_data_iff hn hd).1 hm
      rw [← hv]
      exact canonical_toJson value 125
  have hctx : Canonical 126 (.object [("service", .string service)]) :=
    .object (by simp) (by simp [Json.numberKey]) (by simpa using .string)
  refine .object (by simp) (by simp [Json.numberKey]) ?_
  simpa using ⟨.string, .string, .string, .string, hctx, hdata⟩

theorem parse_document (hn : (e.fields.map Prod.fst).Nodup)
    (hk : Json.numberKey ∉ e.fields.map Prod.fst) (hd : data.Perm e.members)
    (service stamp : String) :
    Json.parse (e.document data service stamp).compact = .ok (e.document data service stamp) :=
  Json.parse_eq_ok_iff.2
    (Json.document_ofList (Json.value_compact (canonical_document hn hk hd service stamp)))

-- Whatever a line is made of, and in whatever order its members stand, it ends where it should, and
-- it can be read again as a document that tells the message and the fields of its event, each under
-- its own name.
theorem Event.jsonLine_tells (e : Event) (service stamp : String) (data : List (String × Json))
    (hn : (e.fields.map Prod.fst).Nodup) (hk : Json.numberKey ∉ e.fields.map Prod.fst)
    (hd : data.Perm e.members) :
    let line := (e.jsonLineOf data service stamp).toList
    (line.count '\n' = 1 ∧ line.getLast? = some '\n' ∧ ∀ c ∈ line, c.toNat < 0x20 → c = '\n') ∧
    (∃ text msg, e.jsonLineOf data service stamp = text ++ "\n" ∧
      Json.parse text =
        .ok (.object
          [("ts", .string stamp),
           ("level", .string (jsonLevel e.severity)),
           ("type", .string (kind e.severity)),
           ("msg", .string msg),
           ("ctx", .object [("service", .string service)]),
           ("data", .object data)]) ∧
      e.message.Told msg) ∧
    (data.map Prod.fst).Perm (e.fields.map Prod.fst) ∧
    (∀ name value, (name, value) ∈ e.fields → ∃ json, (name, json) ∈ data ∧ value.Told json) ∧
    e.data.Perm e.members := by
  intro line
  have hc : ∀ c ∈ (e.document data service stamp).compact.toList, 0x20 ≤ c.toNat := by
    rw [Json.compact, String.toList_ofList]
    exact Json.not_control_of_mem_compact (canonical_document hn hk hd service stamp)
  have hline : line = (e.document data service stamp).compact.toList ++ ['\n'] :=
    String.toList_append
  refine ⟨⟨?_, ?_, ?_⟩,
    ⟨_, e.message.toJson, rfl, parse_document hn hk hd service stamp, e.message.told_toJson⟩,
    perm_names hn hd, ?_, perm_data e⟩
  · have hz : (e.document data service stamp).compact.toList.count '\n' = 0 :=
      List.count_eq_zero.2 fun hm => absurd (hc _ hm) (by decide)
    rw [hline, List.count_append, hz]
    rfl
  · rw [hline, List.getLast?_append]
    rfl
  · intro c hm hl
    rw [hline, List.mem_append, List.mem_singleton] at hm
    obtain hm | hm := hm
    · exact absurd (hc c hm) (Nat.not_le.2 hl)
    · exact hm
  · intro name value hm
    exact ⟨value.toJson, (mem_data_iff hn hd).2 ⟨value, hm, rfl⟩, value.told_toJson⟩

-- Line ends, quotes and backslashes wherever they can stand, and the members in another order.
theorem Event.jsonLine_tells_escaped :
    let e : Event := ⟨.warn, "t", .shown "\"a\nb\"",
      [("z\\", .text "\"\r\n"), ("wide", .int128 (BitVec.ofInt 128 (-(2 ^ 100)))),
       ("n", .int64 (-7)), ("f", .float 0x7ff0000000000000)], by decide⟩
    let data := e.members.reverse
    (e.jsonLineOf data "s\n" "t\x0b").toList.count '\n' = 1 ∧
      ∃ text msg, e.jsonLineOf data "s\n" "t\x0b" = text ++ "\n" ∧ e.message.Told msg ∧
        (data.map Prod.fst).Perm ["z\\", "wide", "n", "f"] ∧
        Json.parse text =
          .ok (.object
            [("ts", .string "t\x0b"),
             ("level", .string "warn"),
             ("type", .string "app"),
             ("msg", .string msg),
             ("ctx", .object [("service", .string "s\n")]),
             ("data", .object data)]) := by
  intro e data
  obtain ⟨⟨hl, -⟩, ⟨text, msg, ht, hp, hm⟩, hd, -⟩ :=
    Event.jsonLine_tells e "s\n" "t\x0b" data (by decide) (by decide) e.members.reverse_perm
  exact ⟨hl, text, msg, ht, hm, hd, hp⟩

end Document

end ProbeReport.Log
