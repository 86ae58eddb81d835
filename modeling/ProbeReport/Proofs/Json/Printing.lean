import ProbeReport.Report
import ProbeReport.Proofs.Json.Acceptance
import ProbeReport.Proofs.Text.Digit

namespace ProbeReport

namespace Json

open Grammar

section Strings

theorem hexDigit_hexDigit {k : Nat} (hk : k < 16) : HexDigit (Text.hexDigit k) k :=
  hexValue?_eq_some_iff.mp (Text.hexValue?_hexDigit hk)

theorem piece_control {c : Char} (hc : c.toNat < 0x20) :
    Piece ['\\', 'u', '0', '0', Text.hexDigit (c.toNat / 16), Text.hexDigit (c.toNat % 16)] c := by
  have hzero : HexDigit '0' 0 := hexDigit_hexDigit (k := 0) (by omega)
  have hq := Quad.mk hzero hzero (hexDigit_hexDigit (k := c.toNat / 16) (by omega))
    (hexDigit_hexDigit (k := c.toNat % 16) (by omega))
  refine .unit hq ?_ ?_ (by omega)
  · unfold IsHighSurrogate
    omega
  · unfold IsLowSurrogate
    omega

-- Every character is written in one of the ways in which it can be read.
theorem piece_escape (c : Char) : Piece (escape c) c := by
  unfold escape
  (repeat' split) <;> subst_vars
  · exact .short .quote
  · exact .short .backslash
  · exact .short .backspace
  · exact .short .formFeed
  · exact .short .lineFeed
  · exact .short .carriageReturn
  · exact .short .tab
  · rename_i hlow
    exact piece_control hlow
  · rename_i hq hb _ _ _ _ _ hlow
    exact .plain hq hb (Nat.not_lt.mp hlow)

theorem chars_escape (s : List Char) : Chars (s.flatMap escape) s := by
  induction s with
  | nil => exact .nil
  | cons c rest ih => exact .cons (piece_escape c) ih

theorem quoted_quote (s : String) : Quoted (quote s) s := by
  have h := Quoted.mk (chars_escape s.toList)
  rwa [String.ofList_toList] at h

end Strings

-- The values that texts stand for, with at most so many levels of arrays and objects: numbers
-- are told as they are printed, keys are different, and no object passes for a number.
inductive Canonical : Nat → Json → Prop where
  | null {n : Nat} : Canonical n .null
  | bool {n : Nat} {b : Bool} : Canonical n (.bool b)
  | number {n : Nat} {t : List Char} : Number t t → Canonical n (.number (String.ofList t))
  | string {n : Nat} {s : String} : Canonical n (.string s)
  | array {n : Nat} {items : List Json} :
      (∀ item ∈ items, Canonical n item) → Canonical (n + 1) (.array items)
  | object {n : Nat} {members : List (String × Json)} :
      (members.map Prod.fst).Nodup → members.head?.map Prod.fst ≠ some numberKey →
      (∀ member ∈ members, Canonical n member.2) → Canonical (n + 1) (.object members)

section Reading

-- A number that is told is spelled as it is told.
theorem number_told {t told : List Char} (h : Number t told) : Number told told := by
  obtain ⟨hm, hw, hf, hx⟩ := h
  cases hx with
  | absent => exact .mk hm hw hf .absent
  | unsigned _ hd => exact .mk hm hw hf (.signed (.inl rfl) (.inl rfl) hd)
  | signed _ hs hd => exact .mk hm hw hf (.signed (.inl rfl) hs hd)

mutual

theorem canonical_of_value {n : Nat} {t : List Char} {value : Json} (h : Value n t value) :
    Canonical n value := by
  match h with
  | .null => exact .null
  | .true | .false => exact .bool
  | .number hd => exact .number (number_told hd)
  | .string _ => exact .string
  | .emptyArray _ => exact .array (by simp)
  | .array hi => exact .array (canonical_of_items hi)
  | .emptyObject _ => exact .object (by simp) (by simp) (by simp)
  | .object hm hk =>
      exact .object nodup_keys_merged (by rwa [head?_keys_merged])
        fun member hmem => canonical_of_members hm member (mem_of_mem_merged hmem)
  | .numberObject _ _ _ _ _ _ hd => exact .number (number_told hd)

theorem canonical_of_padded {n : Nat} {t : List Char} {value : Json} (h : Padded n t value) :
    Canonical n value := by
  match h with
  | .mk _ hv _ => exact canonical_of_value hv

theorem canonical_of_items {n : Nat} {t : List Char} {items : List Json} (h : Items n t items) :
    ∀ item ∈ items, Canonical n item := by
  match h with
  | .one hp => simpa using canonical_of_padded hp
  | .more hp hmore => simpa using ⟨canonical_of_padded hp, canonical_of_items hmore⟩

theorem canonical_of_members {n : Nat} {t : List Char} {members : List (String × Json)}
    (h : Members n t members) : ∀ member ∈ members, Canonical n member.2 := by
  match h with
  | .one _ _ _ hp => simpa using canonical_of_padded hp
  | .more _ _ _ hp hmore =>
      rw [List.forall_mem_cons]
      exact ⟨canonical_of_padded hp, canonical_of_members hmore⟩

end

end Reading

section Writing

variable {n : Nat} {lead last gap : List Char} (print : Json → List Char)

-- Items in a row, each behind the same blanks, make up an array, whichever they are.
theorem exists_items (tail : List Json → List Char) (hlead : Blanks lead) (hlast : Blanks last)
    (hnil : tail [] = last ++ [']'])
    (hcons : ∀ item rest, tail (item :: rest) = ',' :: lead ++ print item ++ tail rest)
    (item : Json) (rest : List Json) (hp : ∀ i ∈ item :: rest, Value n (print i) i) :
    ∃ t, lead ++ print item ++ tail rest = t ++ [']'] ∧ Items n t (item :: rest) := by
  have hitem := hp item (by simp)
  induction rest generalizing item with
  | nil =>
      exact ⟨lead ++ print item ++ last, by simp [hnil], .one (.mk hlead hitem hlast)⟩
  | cons next rest ih =>
      obtain ⟨t, ht, hi⟩ :=
        ih next (fun i hi => hp i (List.mem_cons_of_mem _ hi)) (hp next (by simp))
      refine ⟨lead ++ print item ++ [] ++ ',' :: t, ?_, .more (.mk hlead hitem .nil) hi⟩
      rw [hcons, List.cons_append, List.cons_append, ht]
      simp

theorem exists_members (tail : List (String × Json) → List Char) (hlead : Blanks lead)
    (hgap : Blanks gap) (hlast : Blanks last) (hnil : tail [] = last ++ ['\x7d'])
    (hcons : ∀ key value rest, tail ((key, value) :: rest) =
      ',' :: lead ++ quote key ++ ':' :: gap ++ print value ++ tail rest)
    (key : String) (value : Json) (rest : List (String × Json))
    (hp : ∀ m ∈ (key, value) :: rest, Value n (print m.2) m.2) :
    ∃ t, lead ++ quote key ++ ':' :: gap ++ print value ++ tail rest = t ++ ['\x7d'] ∧
      Members n t ((key, value) :: rest) := by
  have hvalue := hp (key, value) (by simp)
  induction rest generalizing key value with
  | nil =>
      have hm := Members.one hlead (quoted_quote key) .nil (.mk hgap hvalue hlast)
      exact ⟨_, by simp [hnil], hm⟩
  | cons next rest ih =>
      obtain ⟨t, ht, hmore⟩ :=
        ih next.1 next.2 (fun m hm => hp m (List.mem_cons_of_mem _ hm)) (hp next (by simp))
      have hm := Members.more hlead (quoted_quote key) .nil (.mk hgap hvalue .nil) hmore
      refine ⟨_, ?_, hm⟩
      rw [hcons next.1 next.2]
      simp only [List.append_assoc, List.cons_append, List.nil_append] at ht ⊢
      rw [ht]

-- Without any blank.
theorem value_compact {value : Json} (h : Canonical n value) :
    Value n value.compactChars value := by
  induction h with
  | null => exact .null
  | @bool _ b => cases b with
    | true => exact .true
    | false => exact .false
  | number hd =>
      rw [compactChars, String.toList_ofList]
      exact .number hd
  | string => exact .string (quoted_quote _)
  | @array _ items _ ih =>
      cases items with
      | nil => exact .emptyArray .nil
      | cons item rest =>
          obtain ⟨t, ht, hi⟩ :=
            exists_items compactChars compactItems .nil .nil rfl (fun _ _ => rfl) item rest ih
          have htext : compactChars (.array (item :: rest)) = '[' :: t ++ [']'] := by
            simpa [compactChars] using ht
          rw [htext]
          exact .array hi
  | @object _ members hn hk _ ih =>
      cases members with
      | nil => exact .emptyObject .nil
      | cons member rest =>
          obtain ⟨key, value⟩ := member
          obtain ⟨t, ht, hm⟩ :=
            exists_members compactChars compactMembers .nil .nil .nil rfl
              (by simp [compactMembers]) key value rest ih
          have htext : compactChars (.object ((key, value) :: rest)) = '\x7b' :: t ++ ['\x7d'] := by
            simpa [compactChars] using ht
          have hobject := Value.object hm hk
          rw [merged_of_nodup hn] at hobject
          rw [htext]
          exact hobject

theorem blanks_newline (level : Nat) : Blanks (newline level) := by
  intro c hc
  simp only [newline, List.mem_cons, List.mem_replicate] at hc
  rcases hc with rfl | ⟨-, rfl⟩ <;> simp

-- With an item or a member a line, at whatever level it starts.
theorem value_pretty {value : Json} (h : Canonical n value) (level : Nat) :
    Value n (value.prettyChars level) value := by
  induction h generalizing level with
  | null => exact .null
  | @bool _ b => cases b with
    | true => exact .true
    | false => exact .false
  | number hd =>
      rw [prettyChars, String.toList_ofList]
      exact .number hd
  | string => exact .string (quoted_quote _)
  | @array _ items _ ih =>
      cases items with
      | nil => exact .emptyArray .nil
      | cons item rest =>
          obtain ⟨t, ht, hi⟩ :=
            exists_items (prettyChars (level + 1)) (prettyItems level) (blanks_newline (level + 1))
              (blanks_newline level) rfl (fun _ _ => rfl) item rest fun i hi => ih i hi (level + 1)
          have htext : prettyChars level (.array (item :: rest)) = '[' :: t ++ [']'] := by
            simpa [prettyChars] using ht
          rw [htext]
          exact .array hi
  | @object _ members hn hk _ ih =>
      cases members with
      | nil => exact .emptyObject .nil
      | cons member rest =>
          obtain ⟨key, value⟩ := member
          have hgap : Blanks [' '] := blanks_cons.mpr ⟨rfl, .nil⟩
          obtain ⟨t, ht, hm⟩ :=
            exists_members (prettyChars (level + 1)) (prettyMembers level)
              (blanks_newline (level + 1)) hgap (blanks_newline level) rfl
              (by simp [prettyMembers]) key value rest
              fun m hm => ih m hm (level + 1)
          have htext : prettyChars level (.object ((key, value) :: rest)) =
              '\x7b' :: t ++ ['\x7d'] := by
            simpa [prettyChars] using ht
          have hobject := Value.object hm hk
          rw [merged_of_nodup hn] at hobject
          rw [htext]
          exact hobject

end Writing

section Controls

theorem not_control_of_digit {c : Char} (h : IsDigit c) : 0x20 ≤ c.toNat := by
  have hl : '0'.toNat ≤ c.toNat := h.1
  exact Nat.le_trans (by decide) hl

theorem not_control_of_number {t told : List Char} (h : Number t told) :
    ∀ c ∈ told, 0x20 ≤ c.toNat := by
  have hdigits {t : List Char} (ht : ∀ c ∈ t, IsDigit c) : ∀ c ∈ t, 0x20 ≤ c.toNat :=
    fun c hc => not_control_of_digit (ht c hc)
  obtain ⟨hm, hw, hf, hx⟩ := h
  simp only [List.forall_mem_append]
  refine ⟨⟨⟨?_, ?_⟩, ?_⟩, ?_⟩
  · cases hm <;> exact Text.forall_mem_of_all (by decide)
  · cases hw with
    | zero => exact Text.forall_mem_of_all (by decide)
    | digits hc _ ht => exact List.forall_mem_cons.2 ⟨not_control_of_digit hc, hdigits ht⟩
  · cases hf with
    | absent => nofun
    | present ht => exact List.forall_mem_cons.2 ⟨by decide, hdigits ht.2⟩
  · cases hx with
    | absent => nofun
    | unsigned _ ht =>
        exact List.forall_mem_cons.2 ⟨by decide, List.forall_mem_cons.2 ⟨by decide, hdigits ht.2⟩⟩
    | signed _ hs ht =>
        refine List.forall_mem_cons.2 ⟨by decide, List.forall_mem_cons.2 ⟨?_, hdigits ht.2⟩⟩
        obtain rfl | rfl := hs <;> decide

theorem not_control_of_mem_escape {c d : Char} (h : d ∈ escape c) : 0x20 ≤ d.toNat := by
  have hdigit : ∀ k : Fin 16, 0x20 ≤ (Text.hexDigit k).toNat := by decide
  have hshort {letter : Char} (hl : 0x20 ≤ letter.toNat) (h : d ∈ ['\\', letter]) :
      0x20 ≤ d.toNat := by
    rw [List.mem_cons, List.mem_singleton] at h
    obtain rfl | rfl := h
    · decide
    · exact hl
  unfold escape at h
  (repeat' split at h)
  · exact hshort (by decide) h
  · exact hshort (by decide) h
  · exact hshort (by decide) h
  · exact hshort (by decide) h
  · exact hshort (by decide) h
  · exact hshort (by decide) h
  · exact hshort (by decide) h
  · rename_i hc
    simp only [List.mem_cons, List.not_mem_nil, or_false] at h
    obtain rfl | rfl | rfl | rfl | rfl | rfl := h
    · decide
    · decide
    · decide
    · decide
    · exact hdigit ⟨c.toNat / 16, by omega⟩
    · exact hdigit ⟨c.toNat % 16, by omega⟩
  · rename_i hc
    rw [List.mem_singleton.1 h]
    exact Nat.not_lt.1 hc

theorem not_control_of_mem_quote {s : String} {c : Char} (h : c ∈ quote s) : 0x20 ≤ c.toNat := by
  rw [quote, List.mem_append, List.mem_cons, List.mem_singleton] at h
  obtain (rfl | h) | rfl := h
  · decide
  · obtain ⟨d, -, hd⟩ := List.mem_flatMap.1 h
    exact not_control_of_mem_escape hd
  · decide

theorem not_control_of_mem_items {items : List Json}
    (h : ∀ item ∈ items, ∀ c ∈ item.compactChars, 0x20 ≤ c.toNat) :
    ∀ c ∈ compactItems items, 0x20 ≤ c.toNat := by
  induction items with
  | nil => exact Text.forall_mem_of_all (by decide)
  | cons item rest ih =>
      obtain ⟨hi, hr⟩ := List.forall_mem_cons.1 h
      rw [compactItems]
      exact List.forall_mem_cons.2 ⟨by decide, List.forall_mem_append.2 ⟨hi, ih hr⟩⟩

theorem not_control_of_mem_members {members : List (String × Json)}
    (h : ∀ member ∈ members, ∀ c ∈ member.2.compactChars, 0x20 ≤ c.toNat) :
    ∀ c ∈ compactMembers members, 0x20 ≤ c.toNat := by
  induction members with
  | nil => exact Text.forall_mem_of_all (by decide)
  | cons member rest ih =>
      obtain ⟨key, value⟩ := member
      obtain ⟨hv, hr⟩ := List.forall_mem_cons.1 h
      rw [compactMembers]
      simp only [List.forall_mem_append, List.forall_mem_cons]
      exact ⟨⟨⟨by decide, fun c hc => not_control_of_mem_quote hc⟩, by decide, hv⟩, ih hr⟩

-- Nothing that steers a terminal or ends a line is ever printed as it is.
theorem not_control_of_mem_compact {n : Nat} {value : Json} (h : Canonical n value) :
    ∀ c ∈ value.compactChars, 0x20 ≤ c.toNat := by
  induction h with
  | null => exact Text.forall_mem_of_all (by decide)
  | @bool _ b => cases b <;> exact Text.forall_mem_of_all (by decide)
  | number ht =>
      rw [compactChars, String.toList_ofList]
      exact not_control_of_number ht
  | string => exact fun c hc => not_control_of_mem_quote hc
  | @array _ items _ ih =>
      cases items with
      | nil => exact Text.forall_mem_of_all (by decide)
      | cons item rest =>
          have hall := not_control_of_mem_items ih
          rw [compactItems] at hall
          rw [compactChars]
          exact List.forall_mem_cons.2 ⟨by decide, (List.forall_mem_cons.1 hall).2⟩
  | @object _ members _ _ _ ih =>
      cases members with
      | nil => exact Text.forall_mem_of_all (by decide)
      | cons member rest =>
          obtain ⟨key, value⟩ := member
          have hall := not_control_of_mem_members ih
          rw [compactMembers] at hall
          rw [compactChars]
          exact List.forall_mem_cons.2 ⟨by decide, (List.forall_mem_cons.1 hall).2⟩

end Controls

theorem canonical_of_document {text : String} {value : Json} (h : Document text value) :
    Canonical maxOpen value :=
  canonical_of_padded h

-- Whatever is printed of a canonical value is a document that stands for it.
theorem document_ofList {t : List Char} {value : Json} (h : Value maxOpen t value) :
    Document (String.ofList t) value := by
  have hp := Padded.mk .nil h .nil
  rw [List.nil_append, List.append_nil] at hp
  rwa [Document, String.toList_ofList]

end Json

namespace Body

open Json Json.Grammar

-- Only a body of the JSON type is ever a document.
theorem document_of_classify {contentType text : String} {value : Json}
    (h : classify 200 (some contentType) text = .ok (.json value)) : Document text value := by
  by_cases hj : jsonType.toList <:+: contentType.toList
  · exact (classify_eq_json_iff hj).mp h
  · rw [← Text.occursIn_iff] at hj
    simp [classify, hj] at h

-- A document that is printed, in either way, and served again is the same document, and so it
-- is printed as it was served.
theorem classify_printed (served again text : String) (value : Json)
    (hj : jsonType.toList <:+: again.toList)
    (h : classify 200 (some served) text = .ok (.json value)) :
    Report.outcome (.response 200 (some served) (.json value)) =
        Report.status 200 ++ ("Response: " ++ value.pretty) ++ "\n" ∧
      classify 200 (some again) value.pretty = .ok (.json value) ∧
      classify 200 (some again) value.compact = .ok (.json value) ∧
      ∀ body, classify 200 (some again) value.pretty = .ok body →
        Report.outcome (.response 200 (some again) body) =
          Report.outcome (.response 200 (some served) (.json value)) := by
  have hc := canonical_of_document (document_of_classify h)
  have hpretty : classify 200 (some again) value.pretty = .ok (.json value) :=
    (classify_eq_json_iff hj).mpr (document_ofList (value_pretty hc 0))
  have hcompact : classify 200 (some again) value.compact = .ok (.json value) :=
    (classify_eq_json_iff hj).mpr (document_ofList (value_compact hc))
  refine ⟨rfl, hpretty, hcompact, fun body hbody => ?_⟩
  rw [hpretty] at hbody
  cases hbody
  rfl

theorem classify_printed_object :
    jsonType.toList <:+: "application/json; charset=utf-8".toList ∧
      classify 200 (some jsonType) "\x7b\"b\":1E5,\"a\":[-0]\x7d" =
        .ok (.json (.object [("b", .number "1e+5"), ("a", .array [.number "-0"])])) ∧
      classify 200 (some "application/json; charset=utf-8")
          "\x7b\n  \"b\": 1e+5,\n  \"a\": [\n    -0\n  ]\n\x7d" =
        .ok (.json (.object [("b", .number "1e+5"), ("a", .array [.number "-0"])])) := by
  have hj : jsonType.toList <:+: "application/json; charset=utf-8".toList := by decide
  have h : classify 200 (some jsonType) "\x7b\"b\":1E5,\"a\":[-0]\x7d" =
      .ok (.json (.object [("b", .number "1e+5"), ("a", .array [.number "-0"])])) := rfl
  exact ⟨hj, h, (classify_printed _ _ _ _ hj h).2.1⟩

end Body

end ProbeReport
