import ProbeReport.Proofs.Json.Numeral

namespace ProbeReport.Json

open Grammar

theorem isBlank_iff {c : Char} :
    isBlank c = true ↔ c = ' ' ∨ c = '\t' ∨ c = '\n' ∨ c = '\r' := by
  simp only [isBlank, Bool.or_eq_true, decide_eq_true_eq]
  constructor
  · rintro (((rfl | rfl) | rfl) | rfl) <;> simp
  · rintro (rfl | rfl | rfl | rfl) <;> simp

namespace Grammar

theorem Blanks.nil : Blanks [] := by simp [Blanks]

theorem blanks_cons {c : Char} {t : List Char} : Blanks (c :: t) ↔ isBlank c = true ∧ Blanks t := by
  simp [Blanks, isBlank_iff]

end Grammar

namespace Reader

-- What a reader makes of the rest of a text, wherever that text began.
def result? (r : Reader) : List Char → Option Json
  | [] => r.finish.toOption
  | c :: rest => (r.step c).toOption.bind (result? · rest)

theorem run_eq_ok_iff {r : Reader} {offset : Nat} {t : List Char} {value : Json} :
    r.run offset t = .ok value ↔ r.result? t = some value := by
  induction t generalizing r offset with
  | nil =>
      have hrun : run r offset [] = r.finish.mapError fun cause => (cause, offset) := rfl
      rw [hrun, result?]
      cases r.finish with
      | ok x => exact ⟨fun h => by cases h; rfl, fun h => by cases h; rfl⟩
      | error cause => exact ⟨nofun, nofun⟩
  | cons c rest ih =>
      simp only [run, result?]
      cases r.step c with
      | ok next => exact ih
      | error halt => simp [Except.toOption]

-- What a reader makes of the rest of a text after one step.
def after (s : Step) (rest : List Char) : Option Json := s.toOption.bind (result? · rest)

theorem after_ok (r : Reader) (rest : List Char) : after (.ok r) rest = r.result? rest := rfl

theorem after_error (halt : Halt) (rest : List Char) : after (.error halt) rest = none := rfl

theorem result?_cons (r : Reader) (c : Char) (rest : List Char) :
    r.result? (c :: rest) = after (r.step c) rest := rfl

theorem result?_cons_of_ok {r next : Reader} {c : Char} (h : r.step c = .ok next)
    (rest : List Char) : r.result? (c :: rest) = next.result? rest := by
  rw [result?_cons, h, after_ok]

variable {frames : List Frame}

section Blanks

-- In these modes the next token has not begun, and the text cannot end.
def IsBetween : Mode → Prop
  | .word _ _ | .numeral _ | .text _ _ _ | .numberWord _ _ | .numberNumeral _ | .finished _ => False
  | _ => True

-- A blank leaves such a reader as it is.
def Skips (r : Reader) : Prop := ∀ c, isBlank c = true → r.step c = .ok r

theorem skips_of_isBetween (mode : Mode) (h : IsBetween mode) : Skips ⟨mode, frames⟩ := by
  intro c hc
  cases mode <;>
    first
    | exact h.elim
    | simp [step, beginValue, beginNumberValue, afterItem, afterMember, hc, go]

theorem skips_deliver (value : Json) (frames : List Frame) : Skips (deliver value frames) := by
  cases frames with
  | nil =>
      intro c hc
      simp [deliver, step, finished, hc, go]
  | cons frame outer => cases frame <;> exact skips_of_isBetween _ trivial

theorem result?_blanks {r : Reader} (hr : Skips r) {b : List Char} (hb : Blanks b)
    (rest : List Char) : r.result? (b ++ rest) = r.result? rest := by
  induction b with
  | nil => rfl
  | cons c more ih =>
      rw [blanks_cons] at hb
      rw [List.cons_append, result?_cons_of_ok (hr c hb.1), ih hb.2]

-- A reader between tokens comes to a character that is not a blank.
theorem of_result?_between {mode : Mode} {t : List Char} {x : Json}
    (h : result? ⟨mode, frames⟩ t = some x) (hm : IsBetween mode) :
    ∃ b c rest, t = b ++ c :: rest ∧ Blanks b ∧ isBlank c = false ∧
      after (step ⟨mode, frames⟩ c) rest = some x := by
  induction t with
  | nil =>
      cases mode <;>
        first
        | exact hm.elim
        | simp [result?, finish, Except.toOption] at h
  | cons c rest ih =>
      cases hc : isBlank c with
      | true =>
          rw [result?_cons_of_ok (skips_of_isBetween mode hm c hc)] at h
          obtain ⟨b, d, rest, rfl, hb, hd, hx⟩ := ih h
          exact ⟨c :: b, d, rest, rfl, blanks_cons.mpr ⟨hc, hb⟩, hd, hx⟩
      | false => exact ⟨[], c, rest, rfl, .nil, hc, h⟩

end Blanks

section Words

-- A word is read letter by letter and nothing else will do.
theorem result?_word {letters : List Char} (value : Json) (hl : letters ≠ []) (rest : List Char) :
    result? ⟨.word letters value, frames⟩ (letters ++ rest) =
      (deliver value frames).result? rest := by
  induction letters with
  | nil => exact absurd rfl hl
  | cons c more ih =>
      cases more with
      | nil => exact result?_cons_of_ok (by simp [step, wordStep]) rest
      | cons next more =>
          rw [← ih (by simp)]
          exact result?_cons_of_ok (by simp [step, wordStep, go]) _

theorem of_result?_word {letters t : List Char} {value x : Json}
    (h : result? ⟨.word letters value, frames⟩ t = some x) :
    ∃ rest, t = letters ++ rest ∧ (deliver value frames).result? rest = some x := by
  induction t generalizing letters with
  | nil => simp [result?, finish, Except.toOption] at h
  | cons c rest ih =>
      match letters with
      | [] => simp [result?, step, wordStep, stop, Except.toOption] at h
      | [last] =>
          by_cases hc : c = last
          · subst hc
            have hs : step ⟨.word [c] value, frames⟩ c = .ok (deliver value frames) := by
              simp [step, wordStep]
            rw [result?_cons_of_ok hs] at h
            exact ⟨rest, rfl, h⟩
          · simp [result?, step, wordStep, stop, hc, Except.toOption] at h
      | first :: second :: more =>
          by_cases hc : c = first
          · subst hc
            have hs : step ⟨.word (c :: second :: more) value, frames⟩ c =
                .ok ⟨.word (second :: more) value, frames⟩ := by
              simp [step, wordStep, go]
            rw [result?_cons_of_ok hs] at h
            obtain ⟨rest, rfl, hr⟩ := ih h
            exact ⟨rest, rfl, hr⟩
          · simp [result?, step, wordStep, stop, hc, Except.toOption] at h

end Words

section Numbers

-- What can stand behind a number: nothing, a blank, a comma or the end of a container.
def Delimited (t : List Char) : Prop :=
  ∀ c ∈ t.head?, isBlank c = true ∨ c = ',' ∨ c = ']' ∨ c = '\x7d'

theorem delimited_nil : Delimited [] := by simp [Delimited]

theorem delimited_cons {c : Char} (rest : List Char)
    (h : isBlank c = true ∨ c = ',' ∨ c = ']' ∨ c = '\x7d') : Delimited (c :: rest) := by
  simpa [Delimited] using h

theorem step_numeral_more {n next : Numeral} {c : Char} (h : n.step c = .more next) :
    step ⟨.numeral n, frames⟩ c = .ok ⟨.numeral next, frames⟩ := by
  simp [step, h, go]

-- A number that has ended is read on like its value.
theorem step_numeral_done {n : Numeral} {c : Char} (h : n.step c = .done) :
    step ⟨.numeral n, frames⟩ c = (deliver (.number n.text) frames).step c := by
  have hs : step ⟨.numeral n, frames⟩ c = settle (.number n.text) frames c := by simp [step, h]
  rw [hs]
  rcases frames with _ | ⟨_ | _, _⟩ <;> rfl

theorem finish_numeral {n : Numeral} (h : n.phase.isComplete = true) :
    finish ⟨.numeral n, frames⟩ = (deliver (.number n.text) frames).finish := by
  have hf : finish ⟨.numeral n, frames⟩ = endAfter (.number n.text) frames := by simp [finish, h]
  rw [hf]
  rcases frames with _ | ⟨_ | _, _⟩ <;> rfl

theorem result?_numeral_append {n m : Numeral} {t : List Char} (h : n.read? t = some m)
    (rest : List Char) :
    result? ⟨.numeral n, frames⟩ (t ++ rest) = result? ⟨.numeral m, frames⟩ rest := by
  induction t generalizing n with
  | nil => cases h; rfl
  | cons c more ih =>
      simp only [Numeral.read?] at h
      cases hs : n.step c with
      | more next =>
          rw [hs] at h
          rw [List.cons_append, result?_cons_of_ok (step_numeral_more hs), ih h]
      | done => simp [hs] at h
      | invalid => simp [hs] at h

theorem result?_numeral_end {n : Numeral} (hn : n.phase.isComplete = true) {rest : List Char}
    (hr : Delimited rest) :
    result? ⟨.numeral n, frames⟩ rest = (deliver (.number n.text) frames).result? rest := by
  cases rest with
  | nil => rw [result?, result?, finish_numeral hn]
  | cons c more =>
      have hd : n.step c = .done := Numeral.step_of_delimiter hn (by simpa [Delimited] using hr)
      rw [result?, result?, step_numeral_done hd]

theorem of_result?_numeral {n : Numeral} {t : List Char} {x : Json}
    (h : result? ⟨.numeral n, frames⟩ t = some x) :
    ∃ u rest m, t = u ++ rest ∧ n.read? u = some m ∧ m.phase.isComplete = true ∧
      (deliver (.number m.text) frames).result? rest = some x := by
  induction t generalizing n with
  | nil =>
      by_cases hn : n.phase.isComplete = true
      · rw [result?, finish_numeral hn] at h
        exact ⟨[], [], n, rfl, rfl, hn, h⟩
      · simp [result?, finish, hn, Except.toOption] at h
  | cons c rest ih =>
      cases hs : n.step c with
      | more next =>
          rw [result?_cons_of_ok (step_numeral_more hs)] at h
          obtain ⟨u, rest, m, rfl, hu, hm, hx⟩ := ih h
          exact ⟨c :: u, rest, m, rfl, by simp [Numeral.read?, hs, hu], hm, hx⟩
      | done =>
          rw [result?, step_numeral_done hs] at h
          exact ⟨[], c :: rest, n, rfl, rfl, Numeral.isComplete_of_done hs, h⟩
      | invalid =>
          simp [result?, step, hs, stop, Except.toOption] at h

end Numbers

end Reader

end ProbeReport.Json
