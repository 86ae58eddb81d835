import ProbeReport.Probe
import ProbeReport.Proofs.Json.Completeness
import ProbeReport.Proofs.Json.Soundness

namespace ProbeReport

theorem Text.occursIn_iff {part s : List Char} : Text.occursIn part s = true ↔ part <:+: s := by
  induction s with
  | nil => simp [occursIn]
  | cons c rest ih => simp [occursIn, ih, List.infix_cons_iff]

namespace Json

open Grammar

namespace Reader

-- Only blanks may follow a document.
theorem of_result?_finished {t : List Char} {value x : Json}
    (h : result? ⟨.finished value, []⟩ t = some x) : Blanks t ∧ value = x := by
  induction t with
  | nil => exact ⟨.nil, by simpa [result?, finish, Except.toOption] using h⟩
  | cons c rest ih =>
      cases hc : isBlank c with
      | true =>
          have hs : step ⟨.finished value, []⟩ c = .ok ⟨.finished value, []⟩ :=
            skips_deliver value [] c hc
          rw [result?_cons_of_ok hs] at h
          obtain ⟨hb, hx⟩ := ih h
          exact ⟨blanks_cons.mpr ⟨hc, hb⟩, hx⟩
      | false => simp [result?_cons, step, finished, hc, stop, after_error] at h

theorem result?_start_iff {t : List Char} {x : Json} :
    start.result? t = some x ↔ Padded maxOpen t x := by
  constructor
  · intro h
    obtain ⟨b, u, y, rest, rfl, hb, hu, hx⟩ := value_sound t.length [] t x (Nat.le_refl _) h
    obtain ⟨hrest, rfl⟩ := of_result?_finished hx
    exact .mk hb hu hrest
  · intro h
    have hx := result?_padded h [] [] (by simp) delimited_nil
    rwa [List.append_nil] at hx

end Reader

-- Exactly the documents of the grammar are read, each as what it stands for.
theorem parse_eq_ok_iff {text : String} {value : Json} :
    parse text = .ok value ↔ Document text value := by
  have hparse : parse text = .ok value ↔ Reader.start.run 0 text.toList = .ok value := by
    unfold parse
    cases Reader.start.run 0 text.toList with
    | ok x => exact ⟨fun h => by cases h; rfl, fun h => by cases h; rfl⟩
    | error fault => exact ⟨nofun, nofun⟩
  rw [hparse, Reader.run_eq_ok_iff, Reader.result?_start_iff]
  rfl

end Json

namespace Body

theorem classify_of_json {contentType : String} (h : jsonType.toList <:+: contentType.toList)
    (text : String) : classify 200 (some contentType) text = (Json.parse text).map .json := by
  have ho : Text.occursIn jsonType.toList ((some contentType).getD "").toList = true :=
    Text.occursIn_iff.mpr h
  simp only [classify, ho, if_true, ne_eq, not_true_eq_false, if_false]

theorem classify_eq_json_iff {contentType : String} (h : jsonType.toList <:+: contentType.toList)
    {text : String} {value : Json} :
    classify 200 (some contentType) text = .ok (.json value) ↔
      Json.Grammar.Document text value := by
  rw [classify_of_json h, ← Json.parse_eq_ok_iff]
  cases Json.parse text <;> simp [Except.map]

-- A body of the JSON type is the document that its text stands for, and a fault when the text
-- stands for none.
theorem classify_json (contentType text : String) (h : jsonType.toList <:+: contentType.toList) :
    (∀ value, classify 200 (some contentType) text = .ok (.json value) ↔
        Json.Grammar.Document text value) ∧
      ((¬∃ value, Json.Grammar.Document text value) ↔
        ∃ fault, classify 200 (some contentType) text = .error fault) := by
  refine ⟨fun value => classify_eq_json_iff h, ?_⟩
  rw [classify_of_json h]
  cases hp : Json.parse text with
  | ok value =>
      have hd := Json.parse_eq_ok_iff.mp hp
      simpa [Except.map] using ⟨value, hd⟩
  | error fault =>
      have hnone : ¬∃ value, Json.Grammar.Document text value := by
        rintro ⟨value, hd⟩
        rw [Json.parse_eq_ok_iff.mpr hd] at hp
        cases hp
      simpa [Except.map] using hnone

theorem classify_json_array :
    jsonType.toList <:+: "application/json; charset=utf-8".toList ∧
      Json.Grammar.Document "[1E5, true]" (.array [.number "1e+5", .bool true]) ∧
      ¬∃ value, Json.Grammar.Document "[1E5,]" value := by
  have h : jsonType.toList <:+: "application/json; charset=utf-8".toList := by decide
  exact ⟨h, ((classify_json _ "[1E5, true]" h).1 _).mp rfl,
    (classify_json _ "[1E5,]" h).2.mpr ⟨_, rfl⟩⟩

end Body

end ProbeReport
