import ProbeReport.Proofs.Json.Members
import ProbeReport.Proofs.Json.Strings

namespace ProbeReport.Json.Reader

open Grammar

variable {frames : List Frame} {n : Nat} {t rest : List Char}

section Tokens

theorem result?_quoted {mode : Mode} {s : String} (role : Role) (h : Quoted t s)
    (hm : step ⟨mode, frames⟩ '"' = .ok ⟨.text role .plain [], frames⟩) (rest : List Char) :
    result? ⟨mode, frames⟩ (t ++ rest) = after (closeText role s.toList.reverse frames) rest := by
  obtain ⟨hs⟩ := h
  rw [List.append_assoc, List.cons_append, result?_cons_of_ok hm, List.singleton_append,
    result?_chars hs]
  simp

theorem result?_string {s : String} (h : Quoted t s) (rest : List Char) :
    result? ⟨.value, frames⟩ (t ++ rest) = (deliver (.string s) frames).result? rest := by
  rw [result?_quoted .value h rfl]
  simp [closeText, after_ok]

section Numbers

variable {c : Char} {begun : Numeral}

theorem ne_of_begun (h : Numeral.empty.step c = .more begun) (d : Char)
    (hd : Numeral.empty.step d = .invalid) : c ≠ d := by
  rintro rfl
  rw [h] at hd
  cases hd

theorem isBlank_of_begun (h : Numeral.empty.step c = .more begun) : isBlank c = false := by
  have hne := ne_of_begun h
  simp [isBlank, hne ' ' rfl, hne '\n' rfl, hne '\r' rfl, hne '\t' rfl]

-- No other value begins like a number.
theorem step_value_of_begun (h : Numeral.empty.step c = .more begun) :
    step ⟨.value, frames⟩ c = .ok ⟨.numeral begun, frames⟩ := by
  have hne := ne_of_begun h
  simp [step, beginValue, isBlank_of_begun h, hne 'n' rfl, hne 't' rfl, hne 'f' rfl, hne '"' rfl,
    hne '[' rfl, hne '\x7b' rfl, h, go]

theorem begun_of_number {told : List Char} (h : Number t told) :
    ∃ c begun u m, t = c :: u ∧ Numeral.empty.step c = .more begun ∧ begun.read? u = some m ∧
      m.phase.isComplete = true ∧ m.text = String.ofList told := by
  obtain ⟨m, hm, hc, hs⟩ := Numeral.number_iff_read?.mp h
  match t with
  | [] =>
      cases hm
      simp [Numeral.empty, Phase.isComplete] at hc
  | c :: u =>
      simp only [Numeral.read?] at hm
      cases hstep : Numeral.empty.step c with
      | more begun =>
          rw [hstep] at hm
          exact ⟨c, begun, u, m, rfl, hstep, hm, hc, by simp [Numeral.text, hs]⟩
      | done => simp [hstep] at hm
      | invalid => simp [hstep] at hm

theorem result?_number {told : List Char} (h : Number t told) (hr : Delimited rest) :
    result? ⟨.value, frames⟩ (t ++ rest) =
      (deliver (.number (String.ofList told)) frames).result? rest := by
  obtain ⟨c, begun, u, m, rfl, hstep, hm, hc, ht⟩ := begun_of_number h
  rw [List.cons_append, result?_cons_of_ok (step_value_of_begun hstep), result?_numeral_append hm,
    result?_numeral_end hc hr, ht]

end Numbers

-- No value begins with a blank or with the end of an array.
theorem head_of_value {x : Json} (h : Value n t x) :
    ∃ c u, t = c :: u ∧ isBlank c = false ∧ c ≠ ']' := by
  cases h with
  | null | true | false => exact ⟨_, _, rfl, rfl, by decide⟩
  | emptyArray | array | emptyObject | object | numberObject => exact ⟨_, _, rfl, rfl, by decide⟩
  | string hq =>
      obtain ⟨-⟩ := hq
      exact ⟨_, _, rfl, rfl, by decide⟩
  | number hn =>
      obtain ⟨c, begun, u, -, rfl, hstep, -⟩ := begun_of_number hn
      exact ⟨c, u, rfl, isBlank_of_begun hstep, ne_of_begun hstep ']' rfl⟩

end Tokens

section Containers

variable {items values : List Json} {before members : List (String × Json)} {key : String}
  {x : Json}

-- There is room for one more container where the grammar has a level left.
theorem result?_open {mode : Mode} {c : Char} (h : frames.length + (n + 1) ≤ maxOpen)
    (hs : step ⟨.value, frames⟩ c = openContainer mode frames) (rest : List Char) :
    result? ⟨.value, frames⟩ (c :: rest) = result? ⟨mode, frames⟩ rest := by
  have hlt : frames.length < maxOpen := by omega
  rw [result?_cons, hs, openContainer, if_pos hlt]
  rfl

theorem result?_openArray (h : frames.length + (n + 1) ≤ maxOpen) (rest : List Char) :
    result? ⟨.value, frames⟩ ('[' :: rest) = result? ⟨.itemOrEnd, frames⟩ rest :=
  result?_open h rfl rest

theorem result?_openObject (h : frames.length + (n + 1) ≤ maxOpen) (rest : List Char) :
    result? ⟨.value, frames⟩ ('\x7b' :: rest) = result? ⟨.keyOrEnd, frames⟩ rest :=
  result?_open h rfl rest

theorem delimited_blanks {b : List Char} (hb : Blanks b) (hr : Delimited rest) :
    Delimited (b ++ rest) := by
  cases b with
  | nil => exact hr
  | cons c more => exact delimited_cons _ (.inl (blanks_cons.mp hb).1)

-- An item begins like a value that has the earlier items around it.
theorem result?_item {mode : Mode} (hm : IsBetween mode)
    (hs : ∀ c, isBlank c = false → c ≠ ']' →
      step ⟨mode, frames⟩ c = step ⟨.value, .item items :: frames⟩ c)
    (h : Padded n t x) (rest : List Char) :
    result? ⟨mode, frames⟩ (t ++ rest) = result? ⟨.value, .item items :: frames⟩ (t ++ rest) := by
  obtain ⟨hb, hv, -⟩ := h
  obtain ⟨c, u, rfl, hc, hne⟩ := head_of_value hv
  rw [List.append_assoc, List.append_assoc, result?_blanks (skips_of_isBetween mode hm) hb,
    result?_blanks (skips_of_isBetween .value trivial) hb, List.cons_append, result?_cons,
    result?_cons, hs c hc hne]

theorem result?_nextItem (h : Padded n t x) (rest : List Char) :
    result? ⟨.nextItem items, frames⟩ (t ++ rest) =
      result? ⟨.value, .item items :: frames⟩ (t ++ rest) :=
  result?_item (by trivial) (fun c hc hne => by simp [step, hc, hne]) h rest

theorem result?_itemOrEnd (h : Items n t values) (rest : List Char) :
    result? ⟨.itemOrEnd, frames⟩ (t ++ rest) = result? ⟨.nextItem [], frames⟩ (t ++ rest) := by
  have hfirst {u : List Char} {x : Json} (hu : Padded n u x) (rest : List Char) :
      result? ⟨.itemOrEnd, frames⟩ (u ++ rest) = result? ⟨.nextItem [], frames⟩ (u ++ rest) := by
    rw [result?_nextItem hu]
    exact result?_item (by trivial) (fun c hc hne => by simp [step, hc, hne]) hu rest
  cases h with
  | one hu => exact hfirst hu rest
  | more hu _ =>
      rw [List.append_assoc]
      exact hfirst hu _

theorem result?_nextKey (h : Quoted t key) (rest : List Char) :
    result? ⟨.nextKey before, frames⟩ (t ++ rest) = result? ⟨.colon before key, frames⟩ rest := by
  rw [result?_quoted (.key before) h rfl]
  simp [closeText, go, after_ok]

theorem result?_firstKey (h : Quoted t key) (hk : key ≠ numberKey) (rest : List Char) :
    result? ⟨.keyOrEnd, frames⟩ (t ++ rest) = result? ⟨.colon [] key, frames⟩ rest := by
  rw [result?_quoted .firstKey h rfl]
  simp [closeText, hk, go, after_ok]

theorem result?_numberKey (h : Quoted t numberKey) (rest : List Char) :
    result? ⟨.keyOrEnd, frames⟩ (t ++ rest) = result? ⟨.numberColon, frames⟩ rest := by
  rw [result?_quoted .firstKey h rfl]
  simp [closeText, go, after_ok]

theorem result?_numberText {s : String} {told : List Char} (h : Quoted t s)
    (hn : Number s.toList told) (rest : List Char) :
    result? ⟨.numberValue, frames⟩ (t ++ rest) =
      result? ⟨.numberEnd (String.ofList told), frames⟩ rest := by
  have ho : Numeral.ofText s = .ok (String.ofList told) :=
    Numeral.ofText_eq_ok_iff.mpr (by simpa using hn)
  rw [result?_quoted .numberText h rfl]
  simp [closeText, ho, go, after_ok]

theorem result?_keyOrEnd (h : Members n t members)
    (hk : members.head?.map Prod.fst ≠ some numberKey) (rest : List Char) :
    result? ⟨.keyOrEnd, frames⟩ (t ++ rest) = result? ⟨.nextKey [], frames⟩ (t ++ rest) := by
  have hfirst {b k : List Char} {key : String} (hb : Blanks b) (hq : Quoted k key)
      (hne : key ≠ numberKey) (rest : List Char) :
      result? ⟨.keyOrEnd, frames⟩ (b ++ (k ++ rest)) =
        result? ⟨.nextKey [], frames⟩ (b ++ (k ++ rest)) := by
    rw [result?_blanks (skips_of_isBetween .keyOrEnd trivial) hb,
      result?_blanks (skips_of_isBetween (.nextKey _) trivial) hb, result?_firstKey hq hne,
      result?_nextKey hq]
  cases h with
  | one hb hq _ _ =>
      simp only [List.append_assoc]
      exact hfirst hb hq (by simpa using hk) _
  | more hb hq _ _ _ =>
      simp only [List.append_assoc]
      exact hfirst hb hq (by simpa using hk) _

-- The end of a container ends the value before it, and so does a comma.
theorem delimited_comma (rest : List Char) : Delimited (',' :: rest) :=
  delimited_cons rest (.inr (.inl rfl))

theorem delimited_arrayEnd (rest : List Char) : Delimited (']' :: rest) :=
  delimited_cons rest (.inr (.inr (.inl rfl)))

theorem delimited_objectEnd (rest : List Char) : Delimited ('\x7d' :: rest) :=
  delimited_cons rest (.inr (.inr (.inr rfl)))

-- A key whose members around it have been read, up to the value behind its colon.
theorem result?_colon {b : List Char} (hb : Blanks b) (rest : List Char) :
    result? ⟨.colon before key, frames⟩ (b ++ ':' :: rest) =
      result? ⟨.value, .member before key :: frames⟩ rest := by
  rw [result?_blanks (skips_of_isBetween (.colon _ _) trivial) hb]
  exact result?_cons_of_ok (by simp [step, isBlank, go]) rest

end Containers

mutual

-- What the grammar derives is read as what it stands for, whatever follows.
theorem result?_value {n : Nat} {t : List Char} {x : Json} (h : Value n t x) (frames : List Frame)
    (rest : List Char) (hn : frames.length + n ≤ maxOpen) (hr : Delimited rest) :
    result? ⟨.value, frames⟩ (t ++ rest) = (deliver x frames).result? rest := by
  match h with
  | .null | .true | .false =>
      exact (result?_cons_of_ok rfl _).trans (result?_word _ (by simp) rest)
  | .number hd => exact result?_number hd hr
  | .string hq => exact result?_string hq rest
  | .emptyArray hb =>
      rw [List.append_assoc, List.cons_append, result?_openArray hn,
        result?_blanks (skips_of_isBetween .itemOrEnd trivial) hb]
      rfl
  | .array hi =>
      rw [List.append_assoc, List.cons_append, result?_openArray hn, result?_itemOrEnd hi]
      exact result?_items hi [] frames rest (by omega)
  | .emptyObject hb =>
      rw [List.append_assoc, List.cons_append, result?_openObject hn,
        result?_blanks (skips_of_isBetween .keyOrEnd trivial) hb]
      rfl
  | .object hm hk =>
      rw [List.append_assoc, List.cons_append, result?_openObject hn, result?_keyOrEnd hm hk,
        ← foldl_put]
      exact result?_members hm [] frames rest (by omega)
  | .numberObject hb hk hb' hb'' ht hb''' hd =>
      simp only [List.append_assoc, List.cons_append]
      rw [result?_openObject hn, result?_blanks (skips_of_isBetween .keyOrEnd trivial) hb,
        result?_numberKey hk, result?_blanks (skips_of_isBetween .numberColon trivial) hb',
        result?_cons_of_ok rfl, result?_blanks (skips_of_isBetween .numberValue trivial) hb'',
        result?_numberText ht hd, result?_blanks (skips_of_isBetween (.numberEnd _) trivial) hb''']
      rfl

theorem result?_padded {n : Nat} {t : List Char} {x : Json} (h : Padded n t x) (frames : List Frame)
    (rest : List Char) (hn : frames.length + n ≤ maxOpen) (hr : Delimited rest) :
    result? ⟨.value, frames⟩ (t ++ rest) = (deliver x frames).result? rest := by
  obtain ⟨hb, hv, hb'⟩ := h
  rw [List.append_assoc, List.append_assoc, result?_blanks (skips_of_isBetween .value trivial) hb,
    result?_value hv frames _ hn (delimited_blanks hb' hr), result?_blanks (skips_deliver _ _) hb']

theorem result?_items {n : Nat} {t : List Char} {values : List Json} (h : Items n t values)
    (items : List Json) (frames : List Frame) (rest : List Char)
    (hn : frames.length + 1 + n ≤ maxOpen) :
    result? ⟨.nextItem items, frames⟩ (t ++ ']' :: rest) =
      (deliver (.array (items.reverse ++ values)) frames).result? rest := by
  match h with
  | @Items.one _ _ item hp =>
      rw [result?_nextItem hp,
        result?_padded hp (.item items :: frames) _ hn (delimited_arrayEnd _)]
      have hs : step (deliver item (.item items :: frames)) ']' =
          .ok (deliver (.array (item :: items).reverse) frames) := rfl
      rw [result?_cons_of_ok hs, List.reverse_cons]
  | @Items.more _ _ _ item _ hp hmore =>
      rw [List.append_assoc, List.cons_append, result?_nextItem hp,
        result?_padded hp (.item items :: frames) _ hn (delimited_comma _)]
      have hs : step (deliver item (.item items :: frames)) ',' =
          .ok ⟨.nextItem (item :: items), frames⟩ := rfl
      rw [result?_cons_of_ok hs, result?_items hmore (item :: items) frames rest hn]
      simp

theorem result?_members {n : Nat} {t : List Char} {members : List (String × Json)}
    (h : Members n t members) (before : List (String × Json)) (frames : List Frame)
    (rest : List Char) (hn : frames.length + 1 + n ≤ maxOpen) :
    result? ⟨.nextKey before, frames⟩ (t ++ '\x7d' :: rest) =
      (deliver (.object (members.foldl (fun ms m => put ms m.1 m.2) before)) frames).result?
        rest := by
  match h with
  | @Members.one _ _ _ _ _ key _ hb hk hb' hp =>
      simp only [List.append_assoc, List.cons_append]
      rw [result?_blanks (skips_of_isBetween (.nextKey _) trivial) hb, result?_nextKey hk,
        result?_colon hb', result?_padded hp (.member before key :: frames) _ hn
          (delimited_objectEnd _)]
      exact result?_cons_of_ok rfl rest
  | @Members.more _ _ _ _ _ _ key value _ hb hk hb' hp hmore =>
      simp only [List.append_assoc, List.cons_append]
      rw [result?_blanks (skips_of_isBetween (.nextKey _) trivial) hb, result?_nextKey hk,
        result?_colon hb', result?_padded hp (.member before key :: frames) _ hn
          (delimited_comma _)]
      have hs : step (deliver value (.member before key :: frames)) ',' =
          .ok ⟨.nextKey (put before key value), frames⟩ := rfl
      rw [result?_cons_of_ok hs]
      exact result?_members hmore (put before key value) frames rest hn

end

end ProbeReport.Json.Reader
