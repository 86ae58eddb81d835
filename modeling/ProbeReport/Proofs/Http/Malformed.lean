import ProbeReport.Proofs.Http.Conclusion
import ProbeReport.Proofs.Http.Redirects
import ProbeReport.Proofs.Text.Malformed

-- An answer in UTF-8 that is damaged on its way. What is told of it is told of a text in which only
-- the damaged stretches are replaced.
namespace ProbeReport

open Text (Charset)

namespace Http

variable {a : Answer}

theorem content_of_success (hs : a.status = 200) : a.content = a.body := by
  rw [Answer.content, hs]
  rfl

end Http

-- However a body in UTF-8 is damaged, it is read: characters in it are kept, and so is what stands
-- around them. No damage makes it longer than its bytes or lets all of it vanish, and it is told
-- from the text that was read when there was none.
theorem execute_reads_malformed [Url.Idna] [Text.Decoders] :
    (∀ (before after : List UInt8) (text : String), text ≠ "" →
      Charset.utf8.decode (before ++ utf8 text ++ after) =
        Charset.utf8.decode before ++ text.toList ++ Charset.utf8.decode after) ∧
    (∀ bytes : List UInt8, bytes ≠ [] →
      0 < (Charset.utf8.decode bytes).length ∧
        (Charset.utf8.decode bytes).length ≤ bytes.length) ∧
    (∀ bytes : List UInt8, utf8 (String.ofList (Charset.utf8.decode bytes)) = bytes ↔
      bytes.toByteArray.validateUTF8 = true) ∧
    ∀ (network : Http.Network) (address : String) (probe : Probe) (answer : Http.Answer),
      Http.Brings network (probe.url address) answer → Http.Declares answer.contentType .utf8 →
      (∀ m ∈ Charset.marks, ¬m.2 <+: answer.content) →
      let text := String.ofList (Charset.utf8.decode answer.content)
      let result := (execute network address probe).result
      answer.text = text ∧
      (answer.status ≠ 200 →
        result = .ok (.response answer.status answer.contentType (.error text))) ∧
      (answer.status = 200 → ¬answer.ClaimsJson →
        result = .ok (.response 200 answer.contentType
          (.length (Charset.utf8.decode answer.body).length)) ∧
        (Charset.utf8.decode answer.body).length ≤ answer.body.length) := by
  refine ⟨fun before after text ht => Text.Utf8.decodeLossy_append ht before after,
    fun bytes hb =>
      ⟨Text.Utf8.length_decodeLossy_pos hb, Text.Utf8.length_decodeLossy_le bytes⟩,
    fun bytes => Text.Utf8.utf8_decodeLossy_iff, fun network address probe answer hb hd hm => ?_⟩
  have hread : answer.IsReadAs (String.ofList (Charset.utf8.decode answer.content)) :=
    .declared hd hm
  refine ⟨(Http.isReadAs_iff.1 hread).symm, fun hs => execute_of_tells hb (.error hs hread),
    fun hs hj => ⟨?_, Text.Utf8.length_decodeLossy_le answer.body⟩⟩
  rw [execute_of_tells hb (.length hs hj hread), String.toList_ofList, Http.content_of_success hs,
    hs]

-- A character cut short, then a letter, then a byte that is none.
theorem execute_reads_malformed_letter :
    let answer : Http.Answer := ⟨200, [utf8 "text/html"], none, [0xe2, 0x82, 0x41, 0xff]⟩
    let network : Http.Network := ⟨.standard, true, true, fun _ => ⟨answer, none⟩⟩
    Charset.utf8.decode answer.body = ['\ufffd', 'A', '\ufffd'] ∧
      (execute network "http://h" ⟨"/x", "X"⟩).result =
        .ok (.response 200 answer.contentType (.length 3)) := by
  intro answer network
  obtain ⟨hkeep, -, -, hread⟩ := execute_reads_malformed
  have hletter : Charset.utf8.decode answer.body = ['\ufffd', 'A', '\ufffd'] :=
    hkeep [0xe2, 0x82] [0xff] "A" (by decide)
  have hj : ¬answer.ClaimsJson := mt Http.claimsJson_iff.1 (by decide +kernel)
  have hd : Http.Declares answer.contentType .utf8 := .usual fun value label _ hv hl => by
    have hn : (answer.contentType.bind Http.MediaType.charset?) = none := by decide +kernel
    rw [hv, Option.bind_some, Http.MediaType.charset?_eq_some_iff.2 hl] at hn
    cases hn
  let probe : Probe := ⟨"/x", "X"⟩
  have hb : Http.Brings network (probe.url "http://h") answer :=
    Http.fetch_eq_ok_iff.1 (Http.toOption_eq_some_iff.1 (by decide +kernel))
  obtain ⟨-, -, hlength⟩ := hread network "http://h" probe answer hb hd (by decide)
  refine ⟨hletter, ?_⟩
  rw [(hlength rfl hj).1, hletter]
  rfl

end ProbeReport
