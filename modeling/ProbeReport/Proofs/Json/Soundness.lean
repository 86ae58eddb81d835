import ProbeReport.Proofs.Json.Members
import ProbeReport.Proofs.Json.Strings

namespace ProbeReport.Json.Reader

open Grammar

variable {frames : List Frame} {t : List Char} {x : Json}

section Strings

variable {mode : Mode} {role : Role}

-- A reader inside a string comes to its closing quote.
theorem of_result?_plain (h : result? ⟨.text role .plain [], frames⟩ t = some x) :
    ∃ u s rest, t = u ++ rest ∧ Quoted ('"' :: u) s ∧
      after (closeText role s.toList.reverse frames) rest = some x := by
  obtain ⟨u, s, rest, rfl, hu, hx⟩ := of_result?_text h
  exact ⟨u ++ ['"'], String.ofList s, rest, by simp, .mk hu, by simpa using hx⟩

end Strings

section Marks

variable {mode : Mode} {mark : Char} {next : Reader}

-- A reader between tokens that one mark alone lets go on.
theorem of_result?_mark (h : result? ⟨mode, frames⟩ t = some x) (hm : IsBetween mode)
    (hmark : step ⟨mode, frames⟩ mark = .ok next)
    (hother : ∀ c, isBlank c = false → c ≠ mark → (step ⟨mode, frames⟩ c).toOption = none) :
    ∃ b rest, t = b ++ mark :: rest ∧ Blanks b ∧ next.result? rest = some x := by
  obtain ⟨b, c, rest, rfl, hb, hc, hx⟩ := of_result?_between h hm
  by_cases he : c = mark
  · subst he
    rw [hmark] at hx
    exact ⟨b, rest, rfl, hb, hx⟩
  · rw [after, hother c hc he] at hx
    cases hx

-- A reader behind an item or a member, which a comma or the end of the container lets go on.
theorem of_result?_separator {ended : Reader} (h : result? ⟨mode, frames⟩ t = some x)
    (hm : IsBetween mode) (hcomma : step ⟨mode, frames⟩ ',' = .ok next)
    (hmark : step ⟨mode, frames⟩ mark = .ok ended)
    (hother : ∀ c, isBlank c = false → c ≠ ',' → c ≠ mark →
      (step ⟨mode, frames⟩ c).toOption = none) :
    ∃ b rest, Blanks b ∧
      ((t = b ++ mark :: rest ∧ ended.result? rest = some x) ∨
        t = b ++ ',' :: rest ∧ next.result? rest = some x) := by
  obtain ⟨b, c, rest, rfl, hb, hc, hx⟩ := of_result?_between h hm
  by_cases he : c = mark
  · subst he
    rw [hmark] at hx
    exact ⟨b, rest, hb, .inl ⟨rfl, hx⟩⟩
  · by_cases hq : c = ','
    · subst hq
      rw [hcomma] at hx
      exact ⟨b, rest, hb, .inr ⟨rfl, hx⟩⟩
    · rw [after, hother c hc hq he] at hx
      cases hx

end Marks

section Keys

variable {before : List (String × Json)}

theorem of_result?_nextKey (h : result? ⟨.nextKey before, frames⟩ t = some x) :
    ∃ b k key rest, t = b ++ k ++ rest ∧ Blanks b ∧ Quoted k key ∧
      result? ⟨.colon before key, frames⟩ rest = some x := by
  obtain ⟨b, c, rest, rfl, hb, hc, hx⟩ := of_result?_between h trivial
  by_cases hq : c = '"'
  · subst hq
    obtain ⟨u, key, rest, rfl, hk, hx⟩ := of_result?_plain hx
    exact ⟨b, '"' :: u, key, rest, by simp, hb, hk, by simpa [closeText, go, after_ok] using hx⟩
  · simp [step, hc, keyStep, hq, stop, after_error] at hx

-- The first key of an object either tells a number from it or is a key like any other.
theorem of_result?_keyOrEnd (h : result? ⟨.keyOrEnd, frames⟩ t = some x) :
    (∃ b rest, t = b ++ '\x7d' :: rest ∧ Blanks b ∧
        (deliver (.object []) frames).result? rest = some x) ∨
      ∃ b k key rest, t = b ++ k ++ rest ∧ Blanks b ∧ Quoted k key ∧
        if key = numberKey then result? ⟨.numberColon, frames⟩ rest = some x
        else result? ⟨.colon [] key, frames⟩ rest = some x := by
  obtain ⟨b, c, rest, rfl, hb, hc, hx⟩ := of_result?_between h trivial
  by_cases he : c = '\x7d'
  · subst he
    exact .inl ⟨b, rest, rfl, hb, hx⟩
  · by_cases hq : c = '"'
    · subst hq
      obtain ⟨u, key, rest, rfl, hk, hx⟩ := of_result?_plain hx
      refine .inr ⟨b, '"' :: u, key, rest, by simp, hb, hk, ?_⟩
      by_cases hn : key = numberKey <;> simpa [closeText, hn, go, after_ok] using hx
    · simp [step, hc, he, keyStep, hq, stop, after_error] at hx

theorem of_result?_colon {key : String} (h : result? ⟨.colon before key, frames⟩ t = some x) :
    ∃ b rest, t = b ++ ':' :: rest ∧ Blanks b ∧
      result? ⟨.value, .member before key :: frames⟩ rest = some x :=
  of_result?_mark h trivial rfl fun c hc hne => by simp [step, hc, hne, stop, Except.toOption]

theorem of_result?_afterMember (h : result? ⟨.afterMember before, frames⟩ t = some x) :
    ∃ b rest, Blanks b ∧
      ((t = b ++ '\x7d' :: rest ∧ (deliver (.object before) frames).result? rest = some x) ∨
        t = b ++ ',' :: rest ∧ result? ⟨.nextKey before, frames⟩ rest = some x) :=
  of_result?_separator h trivial rfl rfl fun c hc hcomma hne =>
    by simp [step, afterMember, hc, hcomma, hne, stop, Except.toOption]

end Keys

section NumberObjects

-- Behind the key that tells a number from an object only a string leads to a value.
theorem result?_numberWord (letters : List Char) (found : Found) (t : List Char) :
    result? ⟨.numberWord letters found, frames⟩ t = none := by
  induction t generalizing letters with
  | nil => rfl
  | cons c rest ih =>
      have hs : step ⟨.numberWord letters found, frames⟩ c =
          numberWordStep letters found frames c := rfl
      rw [result?_cons, hs]
      match letters with
      | [] | [_] => rfl
      | next :: first :: more =>
          simp only [numberWordStep]
          split
          · exact ih (first :: more)
          · rfl

theorem result?_numberNumeral (number : Numeral) (t : List Char) :
    result? ⟨.numberNumeral number, frames⟩ t = none := by
  induction t generalizing number with
  | nil => rfl
  | cons c rest ih =>
      cases hs : number.step c with
      | more next =>
          have hmore : step ⟨.numberNumeral number, frames⟩ c =
              .ok ⟨.numberNumeral next, frames⟩ := by simp [step, hs, go]
          rw [result?_cons_of_ok hmore, ih]
      | done => simp [result?_cons, step, hs, stop, after_error]
      | invalid => simp [result?_cons, step, hs, stop, after_error]

theorem of_result?_numberColon (h : result? ⟨.numberColon, frames⟩ t = some x) :
    ∃ b rest, t = b ++ ':' :: rest ∧ Blanks b ∧ result? ⟨.numberValue, frames⟩ rest = some x :=
  of_result?_mark h trivial rfl fun c hc hne => by simp [step, hc, hne, stop, Except.toOption]

theorem of_result?_numberValue (h : result? ⟨.numberValue, frames⟩ t = some x) :
    ∃ b u s told rest, t = b ++ u ++ rest ∧ Blanks b ∧ Quoted u s ∧ Number s.toList told ∧
      result? ⟨.numberEnd (String.ofList told), frames⟩ rest = some x := by
  obtain ⟨b, c, rest, rfl, hb, hc, hx⟩ := of_result?_between h trivial
  by_cases hq : c = '"'
  · subst hq
    obtain ⟨u, s, rest, rfl, hu, hx⟩ := of_result?_plain hx
    cases ho : Numeral.ofText s with
    | ok spelling =>
        have hn := Numeral.ofText_eq_ok_iff.mp ho
        have hx : result? ⟨.numberEnd spelling, frames⟩ rest = some x := by
          simpa [closeText, ho, go, after_ok] using hx
        exact ⟨b, '"' :: u, s, spelling.toList, rest, by simp, hb, hu, hn, by simpa using hx⟩
    | error cause => simp [closeText, ho, stop, after_error] at hx
  · have hnone : after (step ⟨.numberValue, frames⟩ c) rest = none := by
      simp only [step, beginNumberValue, hc, Bool.false_eq_true, if_false, if_neg hq]
      repeat' split
      all_goals simp [go, stop, after_ok, after_error, result?_numberWord, result?_numberNumeral]
    rw [hnone] at hx
    cases hx

theorem of_result?_numberEnd {spelling : String}
    (h : result? ⟨.numberEnd spelling, frames⟩ t = some x) :
    ∃ b rest, t = b ++ '\x7d' :: rest ∧ Blanks b ∧
      (deliver (.number spelling) frames).result? rest = some x :=
  of_result?_mark h trivial rfl fun c hc hne => by simp [step, hc, hne, stop, Except.toOption]

-- The rest of an object that stands for a number.
theorem of_result?_numberObject (h : result? ⟨.numberColon, frames⟩ t = some x) :
    ∃ b b' u b'' s told rest, t = b ++ ':' :: b' ++ u ++ b'' ++ '\x7d' :: rest ∧ Blanks b ∧
      Blanks b' ∧ Quoted u s ∧ Number s.toList told ∧ Blanks b'' ∧
      (deliver (.number (String.ofList told)) frames).result? rest = some x := by
  obtain ⟨b, t, rfl, hb, h⟩ := of_result?_numberColon h
  obtain ⟨b', u, s, told, t, rfl, hb', hu, hn, h⟩ := of_result?_numberValue h
  obtain ⟨b'', rest, rfl, hb'', hx⟩ := of_result?_numberEnd h
  exact ⟨b, b', u, b'', s, told, rest, by simp, hb, hb', hu, hn, hb'', hx⟩

end NumberObjects

section Arrays

variable {items : List Json}

theorem of_result?_afterItem (h : result? ⟨.afterItem items, frames⟩ t = some x) :
    ∃ b rest, Blanks b ∧
      ((t = b ++ ']' :: rest ∧ (deliver (.array items.reverse) frames).result? rest = some x) ∨
        t = b ++ ',' :: rest ∧ result? ⟨.nextItem items, frames⟩ rest = some x) :=
  of_result?_separator h trivial rfl rfl fun c hc hcomma hne =>
    by simp [step, afterItem, hc, hcomma, hne, stop, Except.toOption]

-- An item is a value that has the earlier items around it.
theorem of_result?_nextItem (h : result? ⟨.nextItem items, frames⟩ t = some x) :
    result? ⟨.value, .item items :: frames⟩ t = some x := by
  obtain ⟨b, c, rest, rfl, hb, hc, hx⟩ := of_result?_between h trivial
  have hvalue : Skips ⟨.value, .item items :: frames⟩ := skips_of_isBetween .value trivial
  rw [result?_blanks hvalue hb, result?_cons]
  by_cases he : c = ']'
  · subst he
    cases hx
  · simpa [step, hc, he] using hx

theorem of_result?_itemOrEnd (h : result? ⟨.itemOrEnd, frames⟩ t = some x) :
    (∃ b rest, t = b ++ ']' :: rest ∧ Blanks b ∧
        (deliver (.array []) frames).result? rest = some x) ∨
      result? ⟨.value, .item [] :: frames⟩ t = some x := by
  obtain ⟨b, c, rest, rfl, hb, hc, hx⟩ := of_result?_between h trivial
  by_cases he : c = ']'
  · subst he
    exact .inl ⟨b, rest, rfl, hb, hx⟩
  · have hvalue : Skips ⟨.value, .item [] :: frames⟩ := skips_of_isBetween .value trivial
    rw [result?_blanks hvalue hb, result?_cons]
    exact .inr (by simpa [step, hc, he] using hx)

end Arrays

-- A value that a reader finds at the start of a text is one of the grammar, and the reader
-- goes on behind it.
def ValueSound (size : Nat) : Prop :=
  ∀ (frames : List Frame) (t : List Char) (x : Json), t.length ≤ size →
    result? ⟨.value, frames⟩ t = some x →
      ∃ b u y rest, t = b ++ u ++ rest ∧ Blanks b ∧ Value (maxOpen - frames.length) u y ∧
        (deliver y frames).result? rest = some x

-- Items up to the end of their array, when the values in a text of this size are sound.
theorem items_sound {size : Nat} (hs : ValueSound size) (items : List Json) (t : List Char)
    (ht : t.length ≤ size) (h : result? ⟨.value, .item items :: frames⟩ t = some x) :
    ∃ u values rest, t = u ++ ']' :: rest ∧ Items (maxOpen - (frames.length + 1)) u values ∧
      (deliver (.array (items.reverse ++ values)) frames).result? rest = some x := by
  obtain ⟨b, u, y, t, rfl, hb, hu, hafter⟩ := hs _ t x ht h
  obtain ⟨b', rest, hb', ⟨rfl, hx⟩ | ⟨rfl, hnext⟩⟩ := of_result?_afterItem hafter
  · exact ⟨b ++ u ++ b', [y], rest, by simp, .one (.mk hb hu hb'), by simpa using hx⟩
  · have hlt : rest.length < (b ++ u ++ (b' ++ ',' :: rest)).length := by simp; omega
    obtain ⟨u', values, rest, rfl, hi, hx⟩ :=
      items_sound hs (y :: items) rest (by omega) (of_result?_nextItem hnext)
    exact ⟨b ++ u ++ b' ++ ',' :: u', y :: values, rest, by simp, .more (.mk hb hu hb') hi,
      by simpa using hx⟩
  termination_by t.length

-- Members up to the end of their object, from behind the first of their keys.
theorem members_sound {size : Nat} (hs : ValueSound size) (before : List (String × Json))
    (key : String) (t : List Char) (ht : t.length ≤ size)
    (h : result? ⟨.colon before key, frames⟩ t = some x) :
    ∃ u y members rest, t = u ++ '\x7d' :: rest ∧
      (∀ b k, Blanks b → Quoted k key →
        Members (maxOpen - (frames.length + 1)) (b ++ k ++ u) ((key, y) :: members)) ∧
      (deliver (.object (((key, y) :: members).foldl (fun ms m => put ms m.1 m.2) before))
        frames).result? rest = some x := by
  obtain ⟨b, t, rfl, hb, hvalue⟩ := of_result?_colon h
  have hlt : t.length < (b ++ ':' :: t).length := by simp; omega
  obtain ⟨b', u, y, t, rfl, hb', hu, hafter⟩ := hs _ t x (by omega) hvalue
  obtain ⟨b'', rest, hb'', ⟨rfl, hx⟩ | ⟨rfl, hnext⟩⟩ := of_result?_afterMember hafter
  · refine ⟨b ++ ':' :: (b' ++ u ++ b''), y, [], rest, by simp, fun b₀ k hb₀ hk => ?_, hx⟩
    have hm := Members.one hb₀ hk hb (.mk hb' hu hb'')
    simpa using hm
  · obtain ⟨b₁, k₁, key₁, t, rfl, hb₁, hk₁, hcolon⟩ := of_result?_nextKey hnext
    obtain ⟨u₁, y₁, members, rest, rfl, hmore, hx⟩ :=
      members_sound hs (put before key y) key₁ t (by simp at ht; omega) hcolon
    refine ⟨b ++ ':' :: (b' ++ u ++ b'') ++ ',' :: (b₁ ++ k₁ ++ u₁), y, (key₁, y₁) :: members, rest,
      by simp, fun b₀ k hb₀ hk => ?_, hx⟩
    have hm := Members.more hb₀ hk hb (.mk hb' hu hb'') (hmore b₁ k₁ hb₁ hk₁)
    simpa using hm
  termination_by t.length

-- What the first character of a value leads to.
inductive Begins (frames : List Frame) : Char → Reader → Prop where
  | null : Begins frames 'n' ⟨.word ['u', 'l', 'l'] .null, frames⟩
  | true : Begins frames 't' ⟨.word ['r', 'u', 'e'] (.bool .true), frames⟩
  | false : Begins frames 'f' ⟨.word ['a', 'l', 's', 'e'] (.bool .false), frames⟩
  | string : Begins frames '"' ⟨.text .value .plain [], frames⟩
  | array : frames.length < maxOpen → Begins frames '[' ⟨.itemOrEnd, frames⟩
  | object : frames.length < maxOpen → Begins frames '\x7b' ⟨.keyOrEnd, frames⟩
  | number {c : Char} {begun : Numeral} :
      Numeral.empty.step c = .more begun → Begins frames c ⟨.numeral begun, frames⟩

theorem begins_of_step {c : Char} {r : Reader} (hc : isBlank c = false)
    (h : step ⟨.value, frames⟩ c = .ok r) : Begins frames c r := by
  simp only [step, beginValue, hc, Bool.false_eq_true, if_false, openContainer, go] at h
  split at h
  · rename_i hn; subst hn; cases h; exact .null
  · split at h
    · rename_i ht; subst ht; cases h; exact .true
    · split at h
      · rename_i hf; subst hf; cases h; exact .false
      · split at h
        · rename_i hq; subst hq; cases h; exact .string
        · split at h
          · rename_i ha
            subst ha
            split at h
            · rename_i hlt; cases h; exact .array hlt
            · cases h
          · split at h
            · rename_i ho
              subst ho
              split at h
              · rename_i hlt; cases h; exact .object hlt
              · cases h
            · split at h
              · rename_i hs; cases h; exact .number hs
              · cases h

-- A value from its first character on, when the values inside it are sound.
theorem of_result?_begins {size : Nat} (hs : ValueSound size) {c : Char} {r : Reader}
    (hb : Begins frames c r) {t : List Char} (ht : t.length ≤ size) (h : r.result? t = some x) :
    ∃ u y rest, c :: t = u ++ rest ∧ Value (maxOpen - frames.length) u y ∧
      (deliver y frames).result? rest = some x := by
  cases hb with
  | null =>
      obtain ⟨rest, rfl, hx⟩ := of_result?_word h
      exact ⟨_, _, rest, rfl, .null, hx⟩
  | true =>
      obtain ⟨rest, rfl, hx⟩ := of_result?_word h
      exact ⟨_, _, rest, rfl, .true, hx⟩
  | false =>
      obtain ⟨rest, rfl, hx⟩ := of_result?_word h
      exact ⟨_, _, rest, rfl, .false, hx⟩
  | string =>
      obtain ⟨u, s, rest, rfl, hu, hx⟩ := of_result?_plain h
      exact ⟨'"' :: u, .string s, rest, rfl, .string hu, by simpa [closeText, after_ok] using hx⟩
  | number hstep =>
      obtain ⟨u, rest, m, rfl, hu, hm, hx⟩ := of_result?_numeral h
      have hn : Number (c :: u) m.spelling.reverse :=
        Numeral.number_iff_read?.mpr ⟨m, by simp [Numeral.read?, hstep, hu], hm, by simp⟩
      exact ⟨c :: u, _, rest, rfl, .number hn, hx⟩
  | array hlt =>
      have hn : maxOpen - frames.length = maxOpen - (frames.length + 1) + 1 := by omega
      rw [hn]
      rcases of_result?_itemOrEnd h with ⟨b, rest, rfl, hb, hx⟩ | h
      · exact ⟨'[' :: b ++ [']'], _, rest, by simp, .emptyArray hb, hx⟩
      · obtain ⟨u, values, rest, rfl, hi, hx⟩ := items_sound hs [] t ht h
        exact ⟨'[' :: u ++ [']'], _, rest, by simp, .array hi, hx⟩
  | object hlt =>
      have hn : maxOpen - frames.length = maxOpen - (frames.length + 1) + 1 := by omega
      rw [hn]
      rcases of_result?_keyOrEnd h with ⟨b, rest, rfl, hb, hx⟩ | ⟨b, k, key, t, rfl, hb, hk, h⟩
      · exact ⟨'\x7b' :: b ++ ['\x7d'], _, rest, by simp, .emptyObject hb, hx⟩
      · split at h
        · rename_i hkey
          subst hkey
          obtain ⟨b₁, b₂, u, b₃, s, told, rest, rfl, hb₁, hb₂, hu, hd, hb₃, hx⟩ :=
            of_result?_numberObject h
          exact ⟨_, _, rest, by simp, .numberObject hb hk hb₁ hb₂ hu hb₃ hd, hx⟩
        · rename_i hkey
          obtain ⟨u, y, members, rest, rfl, hm, hx⟩ :=
            members_sound hs [] key t (by simp at ht; omega) h
          rw [foldl_put] at hx
          exact ⟨'\x7b' :: (b ++ k ++ u) ++ ['\x7d'], _, rest, by simp,
            .object (hm b k hb hk) (by simpa using hkey), hx⟩

theorem value_sound (size : Nat) : ValueSound size := by
  induction size with
  | zero =>
      intro frames t x ht h
      obtain ⟨b, c, rest, rfl, -⟩ := of_result?_between h trivial
      simp at ht
  | succ size ih =>
      intro frames t x ht h
      obtain ⟨b, c, rest, rfl, hb, hc, hx⟩ := of_result?_between h trivial
      cases hr : step ⟨.value, frames⟩ c with
      | error halt => simp [hr, after_error] at hx
      | ok r =>
          rw [hr, after_ok] at hx
          have hlen : rest.length ≤ size := by simp at ht; omega
          obtain ⟨u, y, rest, hu, hy, hx⟩ := of_result?_begins ih (begins_of_step hc hr) hlen hx
          exact ⟨b, u, y, rest, by rw [hu, List.append_assoc], hb, hy, hx⟩

end ProbeReport.Json.Reader
