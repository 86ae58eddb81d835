import ProbeReport.Proofs.Json.Rejection

-- Where a text goes wrong. What has been read up to the place that a fault names decides that there is
-- one, and which it is.
namespace ProbeReport

namespace Json

open Grammar

section Beyond

variable {c d a : Char}

theorem ne_of_beyond (hc : 0x80 ≤ c.toNat) (ha : a.toNat < 0x80) : c ≠ a := by
  rintro rfl
  exact absurd ha (Nat.not_lt.2 hc)

theorem isBlank_of_beyond (hc : 0x80 ≤ c.toNat) : isBlank c = false := by
  simp (disch := decide) [isBlank, ne_of_beyond hc]

theorem isDigit_of_beyond (hc : 0x80 ≤ c.toNat) : Text.isDigit c = false := by
  have h9 : ¬c ≤ '9' := Nat.not_le.2 (Nat.lt_of_lt_of_le (by decide) hc)
  simp [Text.isDigit, h9]

theorem hexValue?_of_beyond (hc : 0x80 ≤ c.toNat) : Text.hexValue? c = none := by
  rw [Option.eq_none_iff_forall_ne_some]
  intro v hv
  have := hexDigit_cases (hexValue?_eq_some_iff.1 hv)
  omega

theorem Numeral.step_of_beyond (n : Numeral) (hc : 0x80 ≤ c.toNat) (hd : 0x80 ≤ d.toNat) :
    n.step c = n.step d := by
  obtain ⟨phase, spelling⟩ := n
  cases phase <;>
    simp (disch := decide) [Numeral.step, isDigit_of_beyond hc, isDigit_of_beyond hd,
      ne_of_beyond hc, ne_of_beyond hd]

end Beyond

namespace Reader

section Beyond

variable {r : Reader} {c d : Char} {role : Role} {part : Part} {chars seen : List Char}
  {high : Option Nat} {frames : List Frame} {halt : Halt}

theorem escaped?_of_beyond (hc : 0x80 ≤ c.toNat) : escaped? c = none := by
  simp (disch := decide) [escaped?, ne_of_beyond hc]

theorem finished_of_beyond (value : Json) (hc : 0x80 ≤ c.toNat) :
    finished value c = stop .trailingCharacters 1 := by
  simp [finished, isBlank_of_beyond hc]

theorem afterItem_of_beyond (items : List Json) (frames : List Frame) (hc : 0x80 ≤ c.toNat) :
    afterItem items frames c = stop .expectedListEnd 1 := by
  simp (disch := decide) [afterItem, isBlank_of_beyond hc, ne_of_beyond hc]

theorem afterMember_of_beyond (members : List (String × Json)) (frames : List Frame)
    (hc : 0x80 ≤ c.toNat) : afterMember members frames c = stop .expectedObjectEnd 1 := by
  simp (disch := decide) [afterMember, isBlank_of_beyond hc, ne_of_beyond hc]

theorem settle_of_beyond (value : Json) (frames : List Frame) (hc : 0x80 ≤ c.toNat)
    (hd : 0x80 ≤ d.toNat) : settle value frames c = settle value frames d := by
  rcases frames with _ | ⟨_ | _, _⟩
  · rw [settle, settle, finished_of_beyond _ hc, finished_of_beyond _ hd]
  · rw [settle, settle, afterItem_of_beyond _ _ hc, afterItem_of_beyond _ _ hd]
  · rw [settle, settle, afterMember_of_beyond _ _ hc, afterMember_of_beyond _ _ hd]

theorem beginValue_of_beyond (frames : List Frame) (hc : 0x80 ≤ c.toNat) :
    beginValue frames c = stop .expectedValue 1 := by
  simp (disch := decide) [beginValue, isBlank_of_beyond hc, ne_of_beyond hc, Numeral.step,
    Numeral.empty, isDigit_of_beyond hc]

theorem wordStep_of_beyond {letters : List Char} (ha : ∀ a ∈ letters, a.toNat < 0x80) (value : Json)
    (frames : List Frame) (hc : 0x80 ≤ c.toNat) :
    wordStep letters value frames c = stop .expectedWord 1 := by
  rcases letters with _ | ⟨a, _ | ⟨b, more⟩⟩
  · rfl
  all_goals exact if_neg (ne_of_beyond hc (ha a List.mem_cons_self))

-- To the grammar all characters beyond ASCII are one, wherever they are not in a string.
theorem step_of_beyond (ha : r.mode.IsAscii) (hn : ¬r.mode.InNumber)
    (ht : ∀ role part chars, r.mode ≠ .text role part chars) (hc : 0x80 ≤ c.toNat)
    (hd : 0x80 ≤ d.toNat) : r.step c = r.step d := by
  obtain ⟨mode, frames⟩ := r
  cases mode with
  | value => simp only [step, beginValue_of_beyond _ hc, beginValue_of_beyond _ hd]
  | itemOrEnd | nextItem _ =>
      simp (disch := decide) only [step, isBlank_of_beyond hc, isBlank_of_beyond hd,
        ne_of_beyond hc, ne_of_beyond hd, beginValue_of_beyond _ hc, beginValue_of_beyond _ hd]
  | afterItem items => simp only [step, afterItem_of_beyond _ _ hc, afterItem_of_beyond _ _ hd]
  | keyOrEnd | nextKey _ | colon _ _ =>
      simp (disch := decide) only [step, keyStep, isBlank_of_beyond hc, isBlank_of_beyond hd,
        ne_of_beyond hc, ne_of_beyond hd]
  | afterMember members =>
      simp only [step, afterMember_of_beyond _ _ hc, afterMember_of_beyond _ _ hd]
  | finished value => simp only [step, finished_of_beyond _ hc, finished_of_beyond _ hd]
  | word letters value =>
      exact (wordStep_of_beyond ha _ _ hc).trans (wordStep_of_beyond ha _ _ hd).symm
  | numeral begun =>
      simp only [step, Numeral.step_of_beyond begun hc hd, settle_of_beyond _ _ hc hd]
  | text role part chars => exact absurd rfl (ht role part chars)
  | _ => exact absurd trivial hn

theorem hexStep_of_beyond (hs : ¬byteCount seen + c.utf8Size < 4) (hc : 0x80 ≤ c.toNat) :
    hexStep role high seen chars frames c = stop .invalidEscape (4 - byteCount seen) := by
  have hnone : (c :: seen).reverse.mapM Text.hexValue? = none := by
    rw [List.reverse_cons, List.mapM_append]
    simp [hexValue?_of_beyond hc]
  simp only [hexStep, if_neg hs, hnone]

-- In a string a character beyond ASCII is at fault only where an escape is expected to go on, and there
-- no other one is right.
theorem textStep_of_beyond (hc : 0x80 ≤ c.toNat) (hd : 0x80 ≤ d.toNat)
    (hs : c.utf8Size = d.utf8Size) (h : textStep role part chars frames c = .error halt) :
    textStep role part chars frames d = .error halt := by
  cases part with
  | plain =>
      have hlow : ¬c.toNat < 0x20 := by omega
      simp (disch := decide) only [textStep, ne_of_beyond hc, hlow, if_false] at h
      cases h
  | escape =>
      rw [← h]
      simp (disch := decide) only [textStep, ne_of_beyond hc, ne_of_beyond hd,
        escaped?_of_beyond hc, escaped?_of_beyond hd]
  | hex high seen =>
      simp only [textStep] at h ⊢
      by_cases hlt : byteCount seen + c.utf8Size < 4
      · rw [hexStep, if_pos hlt] at h
        cases h
      · rw [hexStep_of_beyond hlt hc] at h
        rw [hexStep_of_beyond (hs ▸ hlt) hd, h]
  | surrogate high slash =>
      rw [← h]
      cases slash <;>
        simp (disch := decide) only [textStep, ne_of_beyond hc, ne_of_beyond hd]

-- How the character begins at which a reader stops is all that the fault depends on.
theorem step_of_beginAlike {t : List Char} (hp : start.Passes t r) (hk : ¬MeetsNumberKey t)
    (hcd : BeginAlike c d) (h : r.step c = .error halt) : r.step d = .error halt := by
  obtain rfl | ⟨hc, hd, hs⟩ := hcd
  · exact h
  have htracks := tracks_of_passes hp
  by_cases htext : ∃ role part chars, r.mode = .text role part chars
  · obtain ⟨mode, frames⟩ := r
    obtain ⟨role, part, chars, rfl⟩ := htext
    exact textStep_of_beyond hc hd hs h
  · rw [← h]
    have hn : ¬r.mode.InNumber := fun hn => hk (htracks.number (.inl hn))
    exact (step_of_beyond htracks.word hn
      (fun role part chars hm => htext ⟨role, part, chars, hm⟩) hc hd).symm

end Beyond

end Reader

-- A text at a character of which a reader stops is judged there.
theorem parse_of_stop {text : String} {front back : List Char} {c : Char} {mid : Reader} {halt : Halt}
    (ht : text.toList = front ++ c :: back) (hp : Reader.start.Passes front mid)
    (hs : mid.step c = .error halt) :
    parse text =
      .error ⟨halt.cause, placeOf text halt.cause (byteCount front + halt.seen)⟩ := by
  rw [parse, ht, hp.run_append, Reader.run, hs, Nat.zero_add]
  rfl

-- A string is at least as long as what it spells.
theorem Grammar.Chars.length_le {t s : List Char} (h : Chars t s) : s.length ≤ t.length := by
  induction h with
  | nil => exact Nat.le_refl _
  | cons hp _ ih =>
      rw [List.length_cons, List.length_append]
      cases hp <;> simp only [List.length_cons, List.length_append] <;> omega

theorem MeetsNumberKey.length_lt {t : List Char} (h : MeetsNumberKey t) :
    numberKey.length < t.length := by
  obtain ⟨before, key, back, frames, rfl, -, hq⟩ := h
  generalize hkey : numberKey = name at hq ⊢
  cases hq with
  | mk hs =>
      have hle := hs.length_le
      simp only [String.length_ofList, List.length_append, List.length_cons]
      omega

end Json

namespace Body

open Json

-- A text that is refused is wrong up to a place in it, for which the line and the column are told: a
-- document could not go on behind it, or the text ends there.
theorem classify_error_located {contentType text : String} {fault : Fault}
    (hc : jsonType.toList <:+: contentType.toList)
    (h : classify 200 (some contentType) text = .error fault)
    (hk : ¬MeetsNumberKey text.toList) :
    ∃ k ≤ (utf8 text).length,
      fault.position.line = 1 + ((utf8 text).take k).count 10 ∧
      fault.position.column = (((utf8 text).take k).reverse.takeWhile (· ≠ 10)).length ∧
      (" at line " ++ toString fault.position.line ++ " column " ++
        toString fault.position.column).toList <:+ fault.message.toList ∧
      ((fault.cause.category = .truncated ∧ k = (utf8 text).length) ∨
        fault.cause.category = .syntactic ∧
          ∀ other : String, (utf8 other).take k = (utf8 text).take k →
            classify 200 (some contentType) other = .error fault) := by
  rw [classify_of_json hc] at h
  obtain ⟨last, hp⟩ | ⟨front, c, back, mid, halt, ht, hp, hs⟩ :=
    Reader.passes_or_stops Reader.start text.toList
  · rw [parse_of_passes hp] at h
    have hnumber (begun : Numeral) : last.mode ≠ .numberNumeral begun := fun hm =>
      hk ((Reader.tracks_of_passes hp).number (.inl (by rw [hm]; trivial)))
    cases hf : last.finish with
    | ok value =>
        rw [hf] at h
        cases h
    | error cause =>
        have hcat := Reader.category_of_finish hnumber hf
        have hplace := placeOf_eq (by rw [hcat]; decide) text (byteCount text.toList)
        rw [hf] at h
        cases h
        refine ⟨byteCount text.toList, Nat.le_of_eq (length_flatMap _).symm, ?_, ?_,
          Fault.suffix_message _, .inl ⟨hcat, (length_flatMap _).symm⟩⟩
        · dsimp only
          rw [hplace, Position.line_after]
        · dsimp only
          rw [hplace, Position.column_after]
  · have hfront : ¬MeetsNumberKey front := fun hm => hk (by rw [ht]; exact hm.append _)
    have hg := Reader.isGrammatical_of_step hp hfront hs
    have hplace := placeOf_eq (by rw [hg.category]; decide) text (byteCount front + halt.seen)
    rw [parse_of_stop ht hp hs, hplace] at h
    cases h
    refine ⟨byteCount front + halt.seen, ?_, Position.line_after _, Position.column_after _,
      Fault.suffix_message _, .inr ⟨hg.category, fun other ho => ?_⟩⟩
    · rw [utf8, length_flatMap, ht, byteCount_append, byteCount_cons]
      have := hg.le
      omega
    · rw [utf8, utf8, ht] at ho
      obtain ⟨d, rest, hd, hcd⟩ := exists_beginAlike hg.pos hg.le ho
      have hstop := Reader.step_of_beginAlike hp hfront hcd hs
      have hother := placeOf_eq (by rw [hg.category]; decide) other (byteCount front + halt.seen)
      rw [classify_of_json hc, parse_of_stop hd hp hstop, hother, utf8, ho, utf8, ht]
      rfl

-- Behind a line feed and a character of two bytes, where nothing that follows makes it right.
theorem classify_error_located_second_line :
    ∃ fault, ∃ k ≤ 9, classify 200 (some "application/json") "[\n\"é\" x]" = .error fault ∧
      fault.message = "expected `,` or `]` at line 2 column 6" ∧
      fault.position.column =
        (((utf8 "[\n\"é\" x]").take k).reverse.takeWhile (· ≠ 10)).length ∧
      ∀ other : String, (utf8 other).take k = (utf8 "[\n\"é\" x]").take k →
        classify 200 (some "application/json") other = .error fault := by
  obtain ⟨fault, h⟩ : ∃ fault, classify 200 (some "application/json") "[\n\"é\" x]" = .error fault :=
    ⟨_, rfl⟩
  have hk : ¬MeetsNumberKey "[\n\"é\" x]".toList := fun hm => absurd hm.length_lt (by decide +kernel)
  obtain ⟨k, hle, -, hcolumn, -, hcat⟩ := classify_error_located (by decide +kernel) h hk
  refine ⟨fault, k, hle, h, ?_, hcolumn, ?_⟩
  · cases h
    decide +kernel
  · obtain ⟨hcat, -⟩ | ⟨-, hother⟩ := hcat
    · cases h
      cases hcat
    · exact hother

end Body

end ProbeReport
