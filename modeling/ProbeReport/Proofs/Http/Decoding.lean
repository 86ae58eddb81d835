import ProbeReport.Http.Redirect
import ProbeReport.Proofs.Http.MediaType
import ProbeReport.Proofs.Json.Acceptance
import ProbeReport.Proofs.Text.Encoding
import ProbeReport.Proofs.Text.Label
import ProbeReport.Proofs.Url.Mapping
import ProbeReport.Run
import ProbeReport.StandIns

-- The text of an answer is the one that was sent.
namespace ProbeReport

open Text (Charset)

namespace Http

-- The charset of a body: the one that its content type labels, and the usual one when there is
-- no content type, no label, or none that stands for an encoding.
inductive Declares (contentType : Option String) : Charset → Prop where
  | labelled {value label : String} {charset : Charset} :
      contentType = some value → MediaType.Labels value label → Charset.Names charset label →
      Declares contentType charset
  | usual :
      (∀ value label charset, contentType = some value → MediaType.Labels value label →
        ¬Charset.Names charset label) →
      Declares contentType .utf8

-- A body that is a text: behind a byte order mark, in the encoding of the mark, or without one,
-- in the encoding that is declared.
inductive Answer.Holds (a : Answer) (text : String) : Prop where
  | marked {charset : Charset} {mark bytes : List UInt8} :
      (charset, mark) ∈ Charset.marks → charset.encode? text.toList = some bytes →
      a.body = mark ++ bytes → a.Holds text
  | declared {charset : Charset} :
      Declares a.contentType charset → charset.encode? text.toList = some a.body →
      (∀ m ∈ Charset.marks, ¬m.2 <+: a.body) → a.Holds text

-- What a body is read as: in the encoding of its byte order mark, or in the one that is declared.
inductive Answer.IsReadAs [Text.Decoders] (a : Answer) : String → Prop where
  | marked {charset : Charset} {mark bytes : List UInt8} :
      (charset, mark) ∈ Charset.marks → a.content = mark ++ bytes →
      a.IsReadAs (String.ofList (charset.decode bytes))
  | declared {charset : Charset} :
      Declares a.contentType charset → (∀ m ∈ Charset.marks, ¬m.2 <+: a.content) →
      a.IsReadAs (String.ofList (charset.decode a.content))

section Declared

variable {contentType : Option String} {charset : Charset}

theorem declared_of_declares (h : Declares contentType charset) :
    ((contentType.bind MediaType.charset?).bind Charset.ofLabel?).getD .utf8 = charset := by
  cases h with
  | labelled hc hl ho =>
      rw [hc, Option.bind_some, MediaType.charset?_eq_some_iff.2 hl, Option.bind_some,
        Charset.ofLabel?_eq_some_iff.2 ho]
      rfl
  | usual hn =>
      have hnone : (contentType.bind MediaType.charset?).bind Charset.ofLabel? = none := by
        rw [Option.bind_eq_none_iff]
        intro label hl
        obtain ⟨value, hv, hl⟩ := Option.bind_eq_some_iff.1 hl
        rw [Option.eq_none_iff_forall_ne_some]
        intro charset ho
        exact hn value label charset hv (MediaType.charset?_eq_some_iff.1 hl)
          (Charset.ofLabel?_eq_some_iff.1 ho)
      rw [hnone]
      rfl

theorem exists_declares (contentType : Option String) :
    ∃ charset, Declares contentType charset := by
  by_cases h : ∃ value label charset, contentType = some value ∧ MediaType.Labels value label ∧
      Charset.Names charset label
  · obtain ⟨value, label, charset, hc, hl, ho⟩ := h
    exact ⟨charset, .labelled hc hl ho⟩
  · refine ⟨.utf8, .usual fun value label charset hc hl ho => ?_⟩
    exact h ⟨value, label, charset, hc, hl, ho⟩

end Declared

section Text

variable [Text.Decoders] {charset : Charset} {a : Answer} {text : String}

theorem text_eq (h : Declares a.contentType charset) :
    a.text = charset.decodeMarked a.content := by
  have hd := declared_of_declares h
  rw [Option.bind_assoc] at hd
  rw [Answer.text, ← hd]
  rfl

-- There is one text that an answer is read as.
theorem isReadAs_iff : a.IsReadAs text ↔ text = a.text := by
  obtain ⟨charset, hd⟩ := exists_declares a.contentType
  constructor
  · intro h
    cases h with
    | marked hm hc => rw [text_eq hd, hc, Charset.decodeMarked, Charset.ofMark?_append hm]
    | declared hd' hn => rw [text_eq hd', Charset.decodeMarked, Charset.ofMark?_eq_none hn]
  · rintro rfl
    by_cases hm : ∃ m ∈ Charset.marks, m.2 <+: a.content
    · obtain ⟨⟨marked, mark⟩, hm, bytes, hb⟩ := hm
      rw [text_eq hd, ← hb, Charset.decodeMarked, Charset.ofMark?_append hm]
      exact .marked hm hb.symm
    · have hn : ∀ m ∈ Charset.marks, ¬m.2 <+: a.content := by simpa using hm
      rw [text_eq hd, Charset.decodeMarked, Charset.ofMark?_eq_none hn]
      exact .declared hd hn

theorem text_of_holds (hs : a.status ≠ 204 ∧ a.status ≠ 304) (h : a.Holds text) :
    a.text = text := by
  have hc : a.content = a.body := if_neg (not_or.2 hs)
  cases h with
  | marked hm he hb =>
      obtain ⟨charset, hd⟩ := exists_declares a.contentType
      rw [text_eq hd, hc, hb, Charset.decodeMarked_mark hm he, String.ofList_toList]
  | declared hd he hn =>
      rw [text_eq hd, hc, Charset.decodeMarked_plain he hn, String.ofList_toList]

end Text

end Http

-- What the report shows of an answer that is no success.
theorem Report.outcome_error (code : Nat) (contentType : Option String) (text : String) :
    outcome (.response code contentType (.error text)) =
      "Status: " ++ toString code ++ "\n" ++ ("Error: " ++ text) ++ "\n" :=
  congrArg (· ++ ("Error: " ++ text) ++ "\n") (status_eq code)

-- An answer counts by its status, its content type and its text.
theorem execute_of_text [Url.Idna] [Text.Decoders] {network : Http.Network}
    {address text : String} {probe : Probe} {answer : Http.Answer}
    (hf : (Http.fetch network (probe.url address)).result = .ok answer)
    (ht : answer.text = text) :
    (execute network address probe).result =
      match Body.classify answer.status answer.contentType text with
      | .ok body => .ok (.response answer.status answer.contentType body)
      | .error fault => .error ⟨probe.path, answer.status, fault⟩ := by
  subst ht
  cases hc : Body.classify answer.status answer.contentType answer.text with
  | ok body => simp only [execute, hf, hc]
  | error fault => simp only [execute, hf, hc]

-- What is told of an answer is told of the text that was sent: how long it is, what it is a
-- document of, or the text itself.
theorem execute_decodes [Url.Idna] [Text.Decoders] {network : Http.Network}
    {address text : String} {probe : Probe} {answer : Http.Answer}
    (hf : (Http.fetch network (probe.url address)).result = .ok answer)
    (hs : answer.status ≠ 204 ∧ answer.status ≠ 304) (ht : answer.Holds text) :
    let result := (execute network address probe).result
    let isJson := Body.jsonType.toList <:+: (answer.contentType.getD "").toList
    answer.text = text ∧
    (answer.status = 200 → ¬isJson →
      result = .ok (.response 200 answer.contentType (.length text.toList.length))) ∧
    (answer.status = 200 → isJson →
      (∀ document, Json.parse text = .ok document →
        result = .ok (.response 200 answer.contentType (.json document))) ∧
      ∀ fault, Json.parse text = .error fault → result = .error ⟨probe.path, 200, fault⟩) ∧
    (answer.status ≠ 200 →
      result = .ok (.response answer.status answer.contentType (.error text)) ∧
        Report.outcome (.response answer.status answer.contentType (.error text)) =
          "Status: " ++ toString answer.status ++ "\n" ++ ("Error: " ++ text) ++ "\n") := by
  intro result isJson
  have htext := Http.text_of_holds hs ht
  have hresult : result = _ := execute_of_text hf htext
  have hoccurs : Text.occursIn Body.jsonType.toList (answer.contentType.getD "").toList = true ↔
      isJson := Text.occursIn_iff
  refine ⟨htext, fun h hj => ?_, fun h hj => ?_, fun h => ?_⟩
  · have hc : Body.classify 200 answer.contentType text = .ok (.length text.toList.length) := by
      rw [Body.classify, if_neg (by decide), if_neg (mt hoccurs.1 hj), String.length_toList]
    rw [hresult, h, hc]
  · have hc : Body.classify 200 answer.contentType text = (Json.parse text).map .json := by
      rw [Body.classify, if_neg (by decide), if_pos (hoccurs.2 hj)]
    constructor
    · intro document hd
      rw [hresult, h, hc, hd]
      rfl
    · intro fault hd
      rw [hresult, h, hc, hd]
      rfl
  · have hc : Body.classify answer.status answer.contentType text = .ok (.error text) := by
      rw [Body.classify, if_pos h]
    constructor
    · rw [hresult, hc]
    · exact Report.outcome_error answer.status answer.contentType text

-- A pair of surrogates, in an order that the content type tells behind quotes.
theorem execute_decodes_surrogates :
    let bytes : List UInt8 := [0xd8, 0x3d, 0xde, 0x80, 0x00, 0x21]
    let answer : Http.Answer :=
      ⟨404, [utf8 "text/plain; a=b; Charset=\"UTF-16BE\" "], none, bytes⟩
    (execute ⟨.standard, true, true, fun _ => ⟨answer, none⟩⟩ "http://h" ⟨"/x", "X"⟩).result =
      .ok (.response 404 answer.contentType (.error "🚀!")) := by
  intro bytes answer
  have hl : Http.MediaType.Labels "text/plain; a=b; Charset=\"UTF-16BE\"" "UTF-16BE" :=
    Http.MediaType.charset?_eq_some_iff.1 (by decide +kernel)
  have hd : Http.Declares answer.contentType (.utf16 .big) :=
    .labelled (by decide +kernel) hl (Charset.ofLabel?_eq_some_iff.1 (by decide +kernel))
  have ht : answer.Holds "🚀!" := .declared hd (by decide +kernel) (by decide +kernel)
  let probe : Probe := ⟨"/x", "X"⟩
  let network : Http.Network := ⟨.standard, true, true, fun _ => ⟨answer, none⟩⟩
  have hf : (Http.fetch network (probe.url "http://h")).result = .ok answer := by
    have h : (Http.fetch network (probe.url "http://h")).result.toOption = some answer := by
      decide +kernel
    cases hr : (Http.fetch network (probe.url "http://h")).result with
    | error failure =>
        rw [hr] at h
        cases h
    | ok a =>
        rw [hr] at h
        cases h
        rfl
  obtain ⟨-, -, -, he⟩ := execute_decodes hf (by decide) ht
  exact (he (by decide)).1

end ProbeReport
