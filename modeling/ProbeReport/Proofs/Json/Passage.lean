import ProbeReport.Proofs.Json.Acceptance
import ProbeReport.Proofs.Json.Place

-- How far a reader comes in a text. Where a document is cut off, nothing is wrong with what is left
-- of it but its end.
namespace ProbeReport

namespace Json

namespace Reader

-- A reader goes through a text without stopping, and is the other one behind it.
inductive Passes : Reader → List Char → Reader → Prop where
  | nil {r : Reader} : Passes r [] r
  | cons {r next last : Reader} {c : Char} {t : List Char} :
      r.step c = .ok next → Passes next t last → Passes r (c :: t) last

section Passes

variable {r mid : Reader} {front t : List Char}

theorem Passes.result?_append (h : Passes r front mid) (t : List Char) :
    r.result? (front ++ t) = mid.result? t := by
  induction h with
  | nil => rfl
  | cons hc _ ih => rw [List.cons_append, result?_cons_of_ok hc, ih]

theorem Passes.run_append (h : Passes r front mid) (offset : Nat) (t : List Char) :
    r.run offset (front ++ t) = mid.run (offset + byteCount front) t := by
  induction h generalizing offset with
  | nil => rfl
  | cons hc _ ih =>
      rw [List.cons_append, run, hc]
      dsimp only
      rw [ih, byteCount_cons, Nat.add_assoc]

-- A text is read to its end, or there is a character at which the reader stops.
theorem passes_or_stops (r : Reader) (t : List Char) :
    (∃ last, Passes r t last) ∨
      ∃ front c back mid halt, t = front ++ c :: back ∧ Passes r front mid ∧
        mid.step c = .error halt := by
  induction t generalizing r with
  | nil => exact .inl ⟨r, .nil⟩
  | cons c rest ih =>
      cases hs : r.step c with
      | error halt => exact .inr ⟨[], c, rest, r, halt, rfl, .nil, hs⟩
      | ok next =>
          obtain ⟨last, hl⟩ | ⟨front, d, back, mid, halt, rfl, hp, hd⟩ := ih next
          · exact .inl ⟨last, .cons hs hl⟩
          · exact .inr ⟨c :: front, d, back, mid, halt, rfl, .cons hs hp, hd⟩

-- The front of a text with a result is read to its end.
theorem exists_passes {back : List Char} {x : Json} (h : r.result? (front ++ back) = some x) :
    ∃ mid, Passes r front mid ∧ mid.result? back = some x := by
  obtain ⟨mid, hp⟩ | ⟨first, c, rest, mid, halt, rfl, hp, hs⟩ := passes_or_stops r front
  · rw [hp.result?_append] at h
    exact ⟨mid, hp, h⟩
  · rw [List.append_assoc, hp.result?_append, List.cons_append, result?_cons, hs, after_error] at h
    cases h

-- At the end of a text nothing but more of it is missing, unless a number stands in the place of its
-- text, which is refused.
theorem category_of_finish {cause : Cause} (hm : ∀ begun, r.mode ≠ .numberNumeral begun)
    (h : r.finish = .error cause) : cause.category = .truncated := by
  obtain ⟨mode, frames⟩ := r
  cases mode with
  | finished value => cases h
  | numeral begun =>
      simp only [finish] at h
      split at h
      · rcases frames with _ | ⟨_ | _, _⟩ <;> cases h <;> rfl
      · cases h
        rfl
  | numberNumeral begun => exact absurd rfl (hm begun)
  | _ =>
      cases h
      rfl

theorem ne_numberNumeral_of_result? {x : Json} (h : r.result? t = some x) (begun : Numeral) :
    r.mode ≠ .numberNumeral begun := by
  obtain ⟨mode, frames⟩ := r
  rintro rfl
  rw [result?_numberNumeral] at h
  cases h

end Passes

end Reader

theorem Cause.prefix_text {cause : Cause} (h : cause.category = .truncated) :
    "EOF while parsing".toList <+: cause.text.toList := by
  cases cause with
  | endInValue | endInString | endInList | endInObject => decide +kernel
  | _ => cases h

theorem Fault.prefix_message {fault : Fault} (h : fault.cause.category = .truncated) :
    "EOF while parsing".toList <+: fault.message.toList := by
  simp only [Fault.message, String.toList_append, List.append_assoc]
  exact (Cause.prefix_text h).trans (List.prefix_append _ _)

theorem Fault.suffix_message (fault : Fault) :
    (" at line " ++ toString fault.position.line ++ " column " ++
      toString fault.position.column).toList <:+ fault.message.toList := by
  simp only [Fault.message, String.toList_append, List.append_assoc]
  exact List.suffix_append _ _

theorem placeOf_eq {cause : Cause} (h : cause.category ≠ .data) (text : String) (offset : Nat) :
    placeOf text cause offset = Position.after ((utf8 text).take offset) := by
  rw [← toUTF8_toList]
  cases cause with
  | badNumberText => exact absurd rfl h
  | _ => rfl

-- A text that is read to its end is judged there.
theorem parse_of_passes {text : String} {last : Reader}
    (h : Reader.start.Passes text.toList last) :
    parse text = last.finish.mapError fun cause =>
      ⟨cause, placeOf text cause (byteCount text.toList)⟩ := by
  have hrun := h.run_append 0 []
  rw [List.append_nil, Nat.zero_add] at hrun
  rw [parse, hrun, Reader.run]
  cases last.finish <;> rfl

end Json

namespace Body

open Json

-- The front of a document is itself a document, or it ends too early, which is told for the place
-- where it ends.
theorem classify_front {contentType text front : String} {body : Body}
    (hc : jsonType.toList <:+: contentType.toList)
    (h : classify 200 (some contentType) text = .ok body) (hp : front.toList <+: text.toList) :
    (∃ value, classify 200 (some contentType) front = .ok (.json value)) ∨
      ∃ fault, classify 200 (some contentType) front = .error fault ∧
        fault.cause.category = .truncated ∧
        "EOF while parsing".toList <+: fault.message.toList ∧
        fault.position = Position.after (utf8 front) := by
  obtain ⟨back, hback⟩ := hp
  rw [classify_of_json hc] at h ⊢
  obtain ⟨value, hv⟩ : ∃ value, Reader.start.result? text.toList = some value := by
    cases hparse : parse text with
    | ok value => exact ⟨value, Reader.result?_start_iff.2 (parse_eq_ok_iff.1 hparse)⟩
    | error fault =>
        rw [hparse] at h
        cases h
  rw [← hback] at hv
  obtain ⟨last, hpass, hresult⟩ := Reader.exists_passes hv
  rw [parse_of_passes hpass]
  cases hf : last.finish with
  | ok value => exact .inl ⟨value, rfl⟩
  | error cause =>
      have ht := Reader.category_of_finish (Reader.ne_numberNumeral_of_result? hresult) hf
      refine .inr ⟨_, rfl, ht, Fault.prefix_message ht, ?_⟩
      have hplace : placeOf front cause (byteCount front.toList) = Position.after (utf8 front) := by
        rw [placeOf_eq (by rw [ht]; decide), utf8, ← length_flatMap, List.take_length]
      exact hplace

-- Between the two halves of a surrogate pair.
theorem classify_front_surrogate :
    ∃ body fault, classify 200 (some "application/json") "[\"\\ud83d\\ude00\"]" = .ok body ∧
      "[\"\\ud83d\\u".toList <+: "[\"\\ud83d\\ude00\"]".toList ∧
      classify 200 (some "application/json") "[\"\\ud83d\\u" = .error fault ∧
      fault.message = "EOF while parsing a string at line 1 column 10" ∧
      "EOF while parsing".toList <+: fault.message.toList ∧
      fault.position = Position.after (utf8 "[\"\\ud83d\\u") := by
  have h : classify 200 (some "application/json") "[\"\\ud83d\\ude00\"]" =
      .ok (.json (.array [.string "😀"])) := rfl
  have hp : "[\"\\ud83d\\u".toList <+: "[\"\\ud83d\\ude00\"]".toList := by decide +kernel
  obtain ⟨value, hv⟩ | ⟨fault, hf, -, hm, hplace⟩ := classify_front (by decide +kernel) h hp
  · cases hv
  · refine ⟨_, fault, h, hp, hf, ?_, hm, hplace⟩
    cases hf
    decide +kernel

end Body

end ProbeReport
