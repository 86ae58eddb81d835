import Mathlib.Data.List.TakeWhile
import ProbeReport.Proofs.Http.Arrival
import ProbeReport.Proofs.Http.Decoding
import ProbeReport.Proofs.Text.Utf8

-- What a probe comes to, whatever the server does.
namespace ProbeReport

namespace Http

-- Bytes that stand for visible characters, spaces and tabs.
def IsVisible (b : UInt8) : Prop := 0x20 ≤ b ∧ b ≤ 0x7e ∨ b = 0x09

instance (b : UInt8) : Decidable (IsVisible b) := inferInstanceAs (Decidable (_ ∨ _))

-- An answer has a content type when the first that it names is visible. Blanks around it do not
-- count.
inductive Answer.HasType (a : Answer) (text : String) : Prop where
  | mk {first : List UInt8} {more : List (List UInt8)} :
      a.contentTypes = first :: more → (∀ b ∈ first, IsVisible b) →
      utf8 text = Answer.trimHeader first → a.HasType text

-- Its content type names the JSON type, in exactly this spelling.
def Answer.ClaimsJson (a : Answer) : Prop :=
  ∃ text, a.HasType text ∧ Body.jsonType.toList <:+: text.toList

section Told

variable [Text.Decoders]

-- A successful answer that claims to be a JSON document and, as it is read, is none.
structure Answer.IsBadJson (a : Answer) (text : String) : Prop where
  succeeded : a.status = 200
  claimsJson : a.ClaimsJson
  isReadAs : a.IsReadAs text
  notJson : ¬∃ document, Json.Grammar.Document text document

-- What is told about the body of an answer. Only of a successful one the content type matters.
inductive Answer.Tells (a : Answer) : Body → Prop where
  | error {text : String} : a.status ≠ 200 → a.IsReadAs text → a.Tells (.error text)
  | json {text : String} {document : Json} :
      a.status = 200 → a.ClaimsJson → a.IsReadAs text → Json.Grammar.Document text document →
      a.Tells (.json document)
  | length {text : String} :
      a.status = 200 → ¬a.ClaimsJson → a.IsReadAs text → a.Tells (.length text.toList.length)

end Told

section Answer

variable {a : Answer}

theorem mem_or_isBlank {b : UInt8} {value : List UInt8} (h : b ∈ value) :
    b ∈ value.dropWhile Answer.isHeaderBlank ∨ Answer.isHeaderBlank b = true := by
  rw [← List.takeWhile_append_dropWhile (p := Answer.isHeaderBlank) (l := value),
    List.mem_append] at h
  exact h.symm.imp_right fun hb => List.mem_takeWhile_imp hb

-- Only blanks are lost around a header value.
theorem mem_trimHeader_or {b : UInt8} {value : List UInt8} (h : b ∈ value) :
    b ∈ Answer.trimHeader value ∨ Answer.isHeaderBlank b = true := by
  rw [Answer.trimHeader, List.mem_reverse]
  obtain h | h := mem_or_isBlank h
  · exact mem_or_isBlank (List.mem_reverse.2 h)
  · exact .inr h

theorem mem_of_mem_trimHeader {b : UInt8} {value : List UInt8} (h : b ∈ Answer.trimHeader value) :
    b ∈ value := by
  rw [Answer.trimHeader, List.mem_reverse] at h
  have hr := (List.dropWhile_sublist _).subset h
  exact (List.dropWhile_sublist _).subset (List.mem_reverse.1 hr)

theorem isVisible_iff {b : UInt8} :
    IsVisible b ↔ ((0x20 ≤ b && b ≤ 0x7e) || b = 0x09) = true := by
  simp [IsVisible]

theorem forall_isVisible_iff {value : List UInt8} :
    (∀ b ∈ value, IsVisible b) ↔ ∀ b ∈ Answer.trimHeader value, IsVisible b := by
  constructor
  · exact fun h b hb => h b (mem_of_mem_trimHeader hb)
  · intro h b hb
    obtain hb | hb := mem_trimHeader_or hb
    · exact h b hb
    · simp only [Answer.isHeaderBlank, Bool.or_eq_true, decide_eq_true_eq] at hb
      obtain rfl | rfl := hb <;> decide

theorem utf8EncodeChar_of_isVisible {b : UInt8} (h : IsVisible b) :
    String.utf8EncodeChar (Char.ofNat b.toNat) = [b] := by
  have hlt : b.toNat < 0x80 := by
    obtain ⟨-, hb⟩ | rfl := h
    · exact Nat.lt_of_le_of_lt (UInt8.le_iff_toNat_le.1 hb) (by decide)
    · decide
  rw [String.utf8EncodeChar, Text.Utf8.toNat_ofNat (by omega), if_pos (by omega),
    UInt8.ofNat_toNat]

-- Visible bytes are the characters that they stand for.
theorem utf8_visible {bytes : List UInt8} (h : ∀ b ∈ bytes, IsVisible b) :
    utf8 (String.ofList (bytes.map fun b => Char.ofNat b.toNat)) = bytes := by
  rw [utf8, String.toList_ofList]
  induction bytes with
  | nil => rfl
  | cons b bytes ih =>
      obtain ⟨hb, hbytes⟩ := List.forall_mem_cons.1 h
      rw [List.map_cons, List.flatMap_cons, ih hbytes, utf8EncodeChar_of_isVisible hb]
      rfl

theorem headerText?_eq_some_iff {value : List UInt8} {text : String} :
    Answer.headerText? value = some text ↔
      (∀ b ∈ value, IsVisible b) ∧ utf8 text = Answer.trimHeader value := by
  rw [forall_isVisible_iff, Answer.headerText?]
  simp only [Option.ite_none_right_eq_some, List.all_eq_true, ← isVisible_iff, Option.some.injEq]
  refine and_congr_right fun h => ?_
  rw [← Text.Utf8.decode?_eq_some_iff, Text.Utf8.decode?_eq_some_iff.2 (utf8_visible h),
    Option.some.injEq]

theorem contentType_eq_some_iff {text : String} : a.contentType = some text ↔ a.HasType text := by
  rw [Answer.contentType]
  constructor
  · intro h
    split at h
    · cases h
    · rename_i first more hc
      obtain ⟨hv, ht⟩ := headerText?_eq_some_iff.1 h
      exact .mk hc hv ht
  · rintro ⟨hc, hv, ht⟩
    rw [hc]
    exact headerText?_eq_some_iff.2 ⟨hv, ht⟩

theorem claimsJson_iff :
    a.ClaimsJson ↔ Text.occursIn Body.jsonType.toList (a.contentType.getD "").toList = true := by
  rw [Text.occursIn_iff]
  constructor
  · rintro ⟨text, ht, hj⟩
    rwa [contentType_eq_some_iff.2 ht]
  · intro hj
    cases hc : a.contentType with
    | none =>
        rw [hc] at hj
        exact absurd hj (by decide)
    | some text =>
        rw [hc] at hj
        exact ⟨text, contentType_eq_some_iff.1 hc, hj⟩

end Answer

section Classified

variable [Text.Decoders] {a : Answer} {text : String}

theorem classify_of_ne (hs : a.status ≠ 200) (ht : a.IsReadAs text) :
    Body.classify a.status a.contentType a.text = .ok (.error text) := by
  rw [isReadAs_iff.1 ht]
  exact if_pos hs

theorem classify_of_claimsJson (hs : a.status = 200) (hj : a.ClaimsJson) (ht : a.IsReadAs text) :
    Body.classify a.status a.contentType a.text = (Json.parse text).map .json := by
  rw [isReadAs_iff.1 ht, Body.classify, if_neg (not_not.2 hs), if_pos (claimsJson_iff.1 hj)]

theorem classify_of_not_claimsJson (hs : a.status = 200) (hj : ¬a.ClaimsJson)
    (ht : a.IsReadAs text) :
    Body.classify a.status a.contentType a.text = .ok (.length text.toList.length) := by
  rw [isReadAs_iff.1 ht, Body.classify, if_neg (not_not.2 hs), if_neg (mt claimsJson_iff.2 hj),
    String.length_toList]

theorem Answer.Tells.classify_eq {body : Body} (h : a.Tells body) :
    Body.classify a.status a.contentType a.text = .ok body := by
  cases h with
  | error hs ht => exact classify_of_ne hs ht
  | json hs hj ht hd =>
      rw [classify_of_claimsJson hs hj ht, Json.parse_eq_ok_iff.2 hd]
      rfl
  | length hs hj ht => exact classify_of_not_claimsJson hs hj ht

theorem Answer.IsBadJson.exists_fault (h : a.IsBadJson text) :
    ∃ fault, Json.parse text = .error fault ∧
      Body.classify a.status a.contentType a.text = .error fault := by
  obtain ⟨hs, hj, ht, hn⟩ := h
  rw [classify_of_claimsJson hs hj ht]
  cases hp : Json.parse text with
  | ok document => exact absurd ⟨document, Json.parse_eq_ok_iff.1 hp⟩ hn
  | error fault => exact ⟨fault, rfl, rfl⟩

-- Each answer has a body to tell, unless it claims to be a document and is none.
theorem tells_or_isBadJson (a : Answer) : (∃ body, a.Tells body) ∨ ∃ text, a.IsBadJson text := by
  have ht : a.IsReadAs a.text := isReadAs_iff.2 rfl
  by_cases hs : a.status = 200
  · by_cases hj : a.ClaimsJson
    · by_cases hd : ∃ document, Json.Grammar.Document a.text document
      · obtain ⟨document, hd⟩ := hd
        exact .inl ⟨_, .json hs hj ht hd⟩
      · exact .inr ⟨_, hs, hj, ht, hd⟩
    · exact .inl ⟨_, .length hs hj ht⟩
  · exact .inl ⟨_, .error hs ht⟩

end Classified

end Http

section Execute

variable [Url.Idna] [Text.Decoders] {network : Http.Network} {address text : String} {probe : Probe}
  {answer : Http.Answer}

theorem execute_of_tells {body : Body} (h : Http.Brings network (probe.url address) answer)
    (ht : answer.Tells body) :
    (execute network address probe).result =
      .ok (.response answer.status answer.contentType body) := by
  rw [execute_of_text (Http.fetch_eq_ok_iff.2 h) rfl, ht.classify_eq]

theorem execute_of_isBadJson (h : Http.Brings network (probe.url address) answer)
    (hb : answer.IsBadJson text) :
    ∃ fault, Json.parse text = .error fault ∧
      (execute network address probe).result = .error ⟨probe.path, 200, fault⟩ := by
  obtain ⟨fault, hp, hc⟩ := hb.exists_fault
  refine ⟨fault, hp, ?_⟩
  rw [execute_of_text (Http.fetch_eq_ok_iff.2 h) rfl, hc, hb.succeeded]

theorem execute_of_fails (h : Http.Fails network (probe.url address)) :
    ∃ reason, (execute network address probe).result = .ok (.exception reason) := by
  obtain ⟨failure, hf⟩ := Http.fetch_eq_error_iff.2 h
  exact ⟨failure.causes.describe, by rw [execute, hf]⟩

theorem execute_cases (network : Http.Network) (address : String) (probe : Probe) :
    let result := (execute network address probe).result
    (∃ answer body, Http.Brings network (probe.url address) answer ∧ answer.Tells body ∧
        result = .ok (.response answer.status answer.contentType body)) ∨
      (∃ answer text fault, Http.Brings network (probe.url address) answer ∧
        answer.IsBadJson text ∧ Json.parse text = .error fault ∧
        result = .error ⟨probe.path, 200, fault⟩) ∨
      (Http.Fails network (probe.url address) ∧ ∃ reason, result = .ok (.exception reason)) := by
  intro result
  obtain ⟨answer, -, hb⟩ | ⟨-, -, hf⟩ := Http.brings_or_fails network (probe.url address)
  · obtain ⟨body, ht⟩ | ⟨text, hbad⟩ := Http.tells_or_isBadJson answer
    · exact .inl ⟨answer, body, hb, ht, execute_of_tells hb ht⟩
    · obtain ⟨fault, hp, he⟩ := execute_of_isBadJson hb hbad
      exact .inr (.inl ⟨answer, text, fault, hb, hbad, hp, he⟩)
  · exact .inr (.inr ⟨hf, execute_of_fails hf⟩)

theorem execute_eq_error_iff {error : DecodeError} :
    (execute network address probe).result = .error error ↔
      ∃ answer text fault, Http.Brings network (probe.url address) answer ∧
        answer.IsBadJson text ∧ Json.parse text = .error fault ∧
        error = ⟨probe.path, 200, fault⟩ := by
  constructor
  · intro h
    obtain ⟨_, _, -, -, he⟩ | ⟨answer, text, fault, hb, hbad, hp, he⟩ | ⟨-, _, he⟩ :=
      execute_cases network address probe
    · cases he.symm.trans h
    · cases he.symm.trans h
      exact ⟨answer, text, fault, hb, hbad, hp, rfl⟩
    · cases he.symm.trans h
  · rintro ⟨answer, text, fault, hb, hbad, hp, rfl⟩
    obtain ⟨fault', hp', he⟩ := execute_of_isBadJson hb hbad
    cases hp.symm.trans hp'
    exact he

theorem execute_eq_exception_iff :
    (∃ reason, (execute network address probe).result = .ok (.exception reason)) ↔
      Http.Fails network (probe.url address) := by
  refine ⟨?_, execute_of_fails⟩
  rintro ⟨reason, h⟩
  obtain ⟨_, _, -, -, he⟩ | ⟨_, _, _, -, -, -, he⟩ | ⟨hf, -⟩ :=
    execute_cases network address probe
  · cases he.symm.trans h
  · cases he.symm.trans h
  · exact hf

theorem execute_eq_response_iff {status : Nat} {contentType : Option String} {body : Body} :
    (execute network address probe).result = .ok (.response status contentType body) ↔
      ∃ answer, Http.Brings network (probe.url address) answer ∧ status = answer.status ∧
        (∀ text, contentType = some text ↔ answer.HasType text) ∧ answer.Tells body := by
  constructor
  · intro h
    obtain ⟨answer, body', hb, ht, he⟩ | ⟨_, _, _, -, -, -, he⟩ | ⟨-, _, he⟩ :=
      execute_cases network address probe
    · cases he.symm.trans h
      exact ⟨answer, hb, rfl, fun text => Http.contentType_eq_some_iff, ht⟩
    · cases he.symm.trans h
    · cases he.symm.trans h
  · rintro ⟨answer, hb, rfl, hc, ht⟩
    have htype : contentType = answer.contentType := by
      ext text
      rw [hc, Http.contentType_eq_some_iff]
    rw [htype]
    exact execute_of_tells hb ht

end Execute

-- What a probe comes to is one of three things. It aborts when, and only when, an answer comes in
-- the end that is successful, claims to be a JSON document and is none, with the fault of its text.
-- It is an exception when no answer comes, and else it tells the answer. There is one text that an
-- answer is read as, and a text that was sent in an encoding that needs no table is that one.
theorem execute_concludes [Url.Idna] [Text.Decoders] (network : Http.Network) (address : String)
    (probe : Probe) :
    let url := probe.url address
    let result := (execute network address probe).result
    ((∃ error, result = .error error) ↔
      ∃ answer text, Http.Brings network url answer ∧ answer.IsBadJson text) ∧
    (∀ error, result = .error error ↔
      ∃ answer text fault, Http.Brings network url answer ∧ answer.IsBadJson text ∧
        Json.parse text = .error fault ∧ error = ⟨probe.path, 200, fault⟩) ∧
    ((∃ reason, result = .ok (.exception reason)) ↔ Http.Fails network url) ∧
    (∀ status contentType body, result = .ok (.response status contentType body) ↔
      ∃ answer, Http.Brings network url answer ∧ status = answer.status ∧
        (∀ text, contentType = some text ↔ answer.HasType text) ∧ answer.Tells body) ∧
    ∀ answer : Http.Answer, (∃! text, answer.IsReadAs text) ∧
      ∀ text, answer.Holds text → answer.status ≠ 204 ∧ answer.status ≠ 304 →
        answer.IsReadAs text := by
  intro url result
  refine ⟨⟨?_, ?_⟩, fun error => execute_eq_error_iff, execute_eq_exception_iff,
    fun status contentType body => execute_eq_response_iff, fun answer => ⟨?_, ?_⟩⟩
  · rintro ⟨error, h⟩
    obtain ⟨answer, text, -, hb, hbad, -⟩ := execute_eq_error_iff.1 h
    exact ⟨answer, text, hb, hbad⟩
  · rintro ⟨answer, text, hb, hbad⟩
    obtain ⟨fault, -, he⟩ := execute_of_isBadJson hb hbad
    exact ⟨_, he⟩
  · exact ⟨answer.text, Http.isReadAs_iff.2 rfl, fun text ht => Http.isReadAs_iff.1 ht⟩
  · exact fun text ht hs => Http.isReadAs_iff.2 (Http.text_of_holds hs ht).symm

end ProbeReport
