import ProbeReport.Proofs.Json.Passage

-- What stops a reader in the middle of a text. Outside of the objects that stand for numbers these are
-- faults of the grammar alone.
namespace ProbeReport

namespace Json

open Grammar

-- A text in which an object is come to whose first key tells a number from it.
def MeetsNumberKey (t : List Char) : Prop :=
  ∃ before key back frames, t = before ++ key ++ back ∧
    Reader.start.Passes before ⟨.keyOrEnd, frames⟩ ∧ Quoted key numberKey

theorem MeetsNumberKey.append {t : List Char} (h : MeetsNumberKey t) (more : List Char) :
    MeetsNumberKey (t ++ more) := by
  obtain ⟨before, key, back, frames, rfl, hp, hk⟩ := h
  exact ⟨before, key, back ++ more, frames, List.append_assoc _ _ _, hp, hk⟩

-- Between the tokens of an object that stands for a number, behind its key, and within those of them
-- that are no strings.
def Mode.InNumber : Mode → Prop
  | .numberColon | .numberValue | .numberWord _ _ | .numberNumeral _ | .numberEnd _ => True
  | _ => False

-- The letters that a word still lacks are ASCII.
def Mode.IsAscii : Mode → Prop
  | .word letters _ => ∀ a ∈ letters, a.toNat < 0x80
  | _ => True

-- Neither there nor in a string.
def Mode.IsCommon : Mode → Prop
  | .numberColon | .numberValue | .numberWord _ _ | .numberNumeral _ | .numberEnd _ => False
  | .text _ _ _ => False
  | mode => mode.IsAscii

-- Where a quote opens a string that will be this.
def Mode.Opens (mode : Mode) : Role → Prop
  | .firstKey => mode = .keyOrEnd
  | .numberText => mode.InNumber
  | _ => True

-- A fault of the grammar, told for a place behind the first byte of the character at which it shows.
structure Halt.IsGrammatical (halt : Halt) (c : Char) : Prop where
  category : halt.cause.category = .syntactic
  pos : 0 < halt.seen
  le : halt.seen ≤ c.utf8Size

namespace Reader

-- What happens where neither a string nor an object that stands for a number is read: reading goes on
-- like that, or there is a fault of the grammar, told for the place behind the first byte.
inductive IsPlain : Step → Prop where
  | go {next : Reader} : next.mode.IsCommon → IsPlain (.ok next)
  | stop {cause : Cause} : cause.category = .syntactic → IsPlain (.error ⟨cause, 1⟩)

section Steps

variable {role : Role} {cause : Cause} {chars : List Char}

theorem isCommon_deliver (value : Json) (frames : List Frame) :
    (deliver value frames).mode.IsCommon := by
  rcases frames with _ | ⟨_ | _, _⟩ <;> trivial

theorem isPlain_finished (value : Json) (c : Char) : IsPlain (finished value c) := by
  unfold finished
  split
  · exact .go trivial
  · exact .stop rfl

theorem isPlain_afterItem (items : List Json) (frames : List Frame) (c : Char) :
    IsPlain (afterItem items frames c) := by
  unfold afterItem
  split
  · exact .go trivial
  split
  · exact .go trivial
  split
  · exact .go (isCommon_deliver _ _)
  · exact .stop rfl

theorem isPlain_afterMember (members : List (String × Json)) (frames : List Frame) (c : Char) :
    IsPlain (afterMember members frames c) := by
  unfold afterMember
  split
  · exact .go trivial
  split
  · exact .go trivial
  split
  · exact .go (isCommon_deliver _ _)
  · exact .stop rfl

theorem isPlain_settle (value : Json) (frames : List Frame) (c : Char) :
    IsPlain (settle value frames c) := by
  rcases frames with _ | ⟨_ | _, _⟩
  · exact isPlain_finished _ _
  · exact isPlain_afterItem _ _ _
  · exact isPlain_afterMember _ _ _

theorem isPlain_wordStep {letters : List Char} (ha : ∀ a ∈ letters, a.toNat < 0x80) (value : Json)
    (frames : List Frame) (c : Char) : IsPlain (wordStep letters value frames c) := by
  rcases letters with _ | ⟨a, _ | ⟨b, more⟩⟩
  · exact .stop rfl
  · simp only [wordStep]
    split
    · exact .go (isCommon_deliver _ _)
    · exact .stop rfl
  · simp only [wordStep]
    split
    · exact .go fun d hd => ha d (List.mem_cons_of_mem _ hd)
    · exact .stop rfl

theorem beginValue_cases (frames : List Frame) (c : Char) :
    IsPlain (beginValue frames c) ∨
      c = '"' ∧ beginValue frames c = .ok ⟨.text .value .plain [], frames⟩ := by
  by_cases hq : c = '"'
  · subst hq
    exact .inr ⟨rfl, rfl⟩
  · left
    unfold beginValue openContainer
    (repeat' split) <;> first
      | contradiction
      | exact .stop rfl
      | exact .go (by simp [Mode.IsCommon, Mode.IsAscii])

theorem keyStep_cases (hc : cause.category = .syntactic) (role : Role) (frames : List Frame)
    (c : Char) :
    IsPlain (keyStep role cause frames c) ∨
      c = '"' ∧ keyStep role cause frames c = .ok ⟨.text role .plain [], frames⟩ := by
  by_cases hq : c = '"'
  · exact .inr ⟨hq, if_pos hq⟩
  · rw [keyStep, if_neg hq]
    exact .inl (.stop hc)

theorem inNumber_of_beginNumberValue {next : Reader} {frames : List Frame} {c : Char}
    (h : beginNumberValue frames c = .ok next) (hq : c ≠ '"') : next.mode.InNumber := by
  simp only [beginNumberValue] at h
  (repeat' split at h) <;> first | contradiction | (cases h; trivial)

-- The string that a quote closes was common, or it belongs to an object that stands for a number.
theorem closeText_cases {next : Reader} {frames : List Frame}
    (h : closeText role chars frames = .ok next) :
    next.mode.IsCommon ∨
      (role = .firstKey ∧ String.ofList chars.reverse = numberKey ∧ next.mode.InNumber) ∨
        role = .numberText ∧ next.mode.InNumber := by
  cases role with
  | value =>
      cases h
      exact .inl (isCommon_deliver _ _)
  | firstKey =>
      simp only [closeText] at h
      split at h
      · rename_i hk
        cases h
        exact .inr (.inl ⟨rfl, hk, trivial⟩)
      · cases h
        exact .inl trivial
  | key =>
      cases h
      exact .inl trivial
  | numberText =>
      simp only [closeText] at h
      split at h
      · cases h
        exact .inr (.inr ⟨rfl, trivial⟩)
      · cases h

-- Within an object that stands for a number reading goes on there, or behind the object.
theorem inNumber_or_isCommon {r next : Reader} {c : Char} (hr : r.mode.InNumber)
    (hq : r.mode = .numberValue → c ≠ '"') (h : r.step c = .ok next) :
    next.mode.InNumber ∨ next.mode.IsCommon := by
  obtain ⟨mode, frames⟩ := r
  cases mode with
  | numberColon =>
      simp only [step] at h
      (repeat' split at h) <;> cases h <;> exact .inl trivial
  | numberValue => exact .inl (inNumber_of_beginNumberValue h (hq rfl))
  | numberWord letters found =>
      rcases letters with _ | ⟨_, _ | ⟨_, _⟩⟩
      · cases h
      · cases h
      · simp only [step, numberWordStep] at h
        split at h <;> cases h
        exact .inl trivial
  | numberNumeral begun =>
      simp only [step] at h
      split at h <;> cases h
      exact .inl trivial
  | numberEnd spelling =>
      simp only [step] at h
      split at h
      · cases h
        exact .inl trivial
      split at h <;> cases h
      exact .inr (isCommon_deliver _ _)
  | _ => exact hr.elim

-- All that one character can do.
theorem step_cases {r : Reader} (ha : r.mode.IsAscii) (c : Char) :
    IsPlain (r.step c) ∨
      (∃ role part chars, r.mode = .text role part chars ∧
        r.step c = textStep role part chars r.frames c) ∨
      (c = '"' ∧ ∃ role frames, r.mode.Opens role ∧ r.step c = .ok ⟨.text role .plain [], frames⟩) ∨
      r.mode.InNumber ∧ ∀ next, r.step c = .ok next → next.mode.InNumber ∨ next.mode.IsCommon := by
  obtain ⟨mode, frames⟩ := r
  cases mode with
  | value =>
      obtain hp | ⟨hc, hs⟩ := beginValue_cases frames c
      · exact .inl hp
      · exact .inr (.inr (.inl ⟨hc, .value, frames, trivial, hs⟩))
  | itemOrEnd =>
      simp only [step]
      split
      · exact .inl (.go trivial)
      split
      · exact .inl (.go (isCommon_deliver _ _))
      obtain hp | ⟨hc, hs⟩ := beginValue_cases (.item [] :: frames) c
      · exact .inl hp
      · exact .inr (.inr (.inl ⟨hc, .value, _, trivial, hs⟩))
  | nextItem items =>
      simp only [step]
      split
      · exact .inl (.go trivial)
      split
      · exact .inl (.stop rfl)
      obtain hp | ⟨hc, hs⟩ := beginValue_cases (.item items :: frames) c
      · exact .inl hp
      · exact .inr (.inr (.inl ⟨hc, .value, _, trivial, hs⟩))
  | afterItem items => exact .inl (isPlain_afterItem _ _ _)
  | keyOrEnd =>
      simp only [step]
      split
      · exact .inl (.go trivial)
      split
      · exact .inl (.go (isCommon_deliver _ _))
      have hcause : Cause.keyNotString.category = .syntactic := rfl
      obtain hp | ⟨hc, hs⟩ := keyStep_cases hcause .firstKey frames c
      · exact .inl hp
      · exact .inr (.inr (.inl ⟨hc, .firstKey, frames, rfl, hs⟩))
  | nextKey members =>
      simp only [step]
      split
      · exact .inl (.go trivial)
      have hcause : (if c = '\x7d' then Cause.trailingComma else .keyNotString).category =
          .syntactic := by
        split <;> rfl
      obtain hp | ⟨hc, hs⟩ := keyStep_cases hcause (.key members) frames c
      · exact .inl hp
      · exact .inr (.inr (.inl ⟨hc, .key members, frames, trivial, hs⟩))
  | colon members key =>
      simp only [step]
      split
      · exact .inl (.go trivial)
      split
      · exact .inl (.go trivial)
      · exact .inl (.stop rfl)
  | afterMember members => exact .inl (isPlain_afterMember _ _ _)
  | finished value => exact .inl (isPlain_finished _ _)
  | word letters value => exact .inl (isPlain_wordStep ha _ _ _)
  | numeral begun =>
      simp only [step]
      split
      · exact .inl (.go trivial)
      · exact .inl (isPlain_settle _ _ _)
      · exact .inl (.stop rfl)
  | text role part chars => exact .inr (.inl ⟨role, part, chars, rfl, rfl⟩)
  | numberValue =>
      by_cases hq : c = '"'
      · subst hq
        exact .inr (.inr (.inl ⟨rfl, .numberText, frames, trivial, rfl⟩))
      · exact .inr (.inr (.inr ⟨trivial, fun next => inNumber_or_isCommon trivial fun _ => hq⟩))
  | numberColon | numberWord _ _ | numberNumeral _ | numberEnd _ =>
      exact .inr (.inr (.inr ⟨trivial, fun next => inNumber_or_isCommon trivial fun he => by cases he⟩))

end Steps

section Tracks

variable {r next : Reader} {c : Char} {t : List Char}

theorem Passes.exists_of_concat (h : Passes r (t ++ [c]) next) :
    ∃ mid, Passes r t mid ∧ mid.step c = .ok next := by
  induction t generalizing r with
  | nil =>
      obtain _ | ⟨hs, hn⟩ := h
      cases hn
      exact ⟨r, .nil, hs⟩
  | cons d rest ih =>
      obtain _ | ⟨hs, hp⟩ := h
      obtain ⟨mid, hm, hc⟩ := ih hp
      exact ⟨mid, .cons hs hm, hc⟩

-- What is known of the text behind which a reader is inside the first key of an object, or inside an
-- object that stands for a number.
structure Tracks (t : List Char) (r : Reader) : Prop where
  firstKey (part : Part) (chars : List Char) (h : r.mode = .text .firstKey part chars) :
    ∃ before u frames, t = before ++ '"' :: u ∧ start.Passes before ⟨.keyOrEnd, frames⟩ ∧
      ∀ v s, PartRest part v s → Chars (u ++ v) (chars.reverse ++ s)
  number (h : r.mode.InNumber ∨ ∃ part chars, r.mode = .text .numberText part chars) :
    MeetsNumberKey t
  word : r.mode.IsAscii

theorem Tracks.of_isCommon (h : r.mode.IsCommon) : Tracks t r where
  firstKey part chars hm := by
    rw [hm] at h
    exact h.elim
  number hn := by
    obtain ⟨mode, frames⟩ := r
    obtain hn | ⟨part, chars, rfl⟩ := hn
    · cases mode <;> contradiction
    · exact h.elim
  word := by
    obtain ⟨mode, frames⟩ := r
    cases mode with
    | word letters value => exact h
    | _ => trivial

theorem Tracks.of_inNumber (h : r.mode.InNumber) (hk : MeetsNumberKey t) : Tracks t r where
  firstKey part chars hm := by
    rw [hm] at h
    exact h.elim
  number _ := hk
  word := by
    obtain ⟨mode, frames⟩ := r
    cases mode with
    | word letters value => exact h.elim
    | _ => trivial

-- The characters of a first key are kept as they come, so that its closing quote shows which it is.
theorem Tracks.step (h : Tracks t r) (hp : start.Passes t r) (hs : r.step c = .ok next) :
    Tracks (t ++ [c]) next := by
  obtain hn | ⟨role, part, chars, hm, ht⟩ | ⟨rfl, role, frames, ho, ht⟩ | ⟨hr, hn⟩ :=
    step_cases h.word c
  · rw [hs] at hn
    obtain hn | _ := hn
    exact .of_isCommon hn
  · rw [hs] at ht
    obtain ⟨rfl, rfl, hc⟩ | ⟨part', added, rfl, hrest⟩ := textStep_cases ht.symm
    · -- the quote closes the string, which may be the key that tells a number
      obtain hn | ⟨rfl, hk, hn⟩ | ⟨rfl, hn⟩ := closeText_cases hc
      · exact .of_isCommon hn
      · obtain ⟨before, u, frames, rfl, hb, hu⟩ := h.firstKey _ _ hm
        have hq := Quoted.mk (hu [] [] .nil)
        rw [List.append_nil, List.append_nil, hk] at hq
        refine .of_inNumber hn ⟨before, '"' :: u ++ ['"'], [], frames, ?_, hb, hq⟩
        simp only [List.append_assoc, List.append_nil]
      · exact .of_inNumber hn ((h.number (.inr ⟨_, _, hm⟩)).append _)
    · refine ⟨fun _ _ he => ?_, fun hn => ?_, trivial⟩
      · cases he
        obtain ⟨before, u, frames, rfl, hb, hu⟩ := h.firstKey _ _ hm
        refine ⟨before, u ++ [c], frames, by simp only [List.append_assoc, List.cons_append], hb,
          fun v s hv => ?_⟩
        have := hu _ _ (hrest v s hv)
        simpa only [List.append_assoc, List.reverse_append, List.reverse_reverse,
          List.singleton_append] using this
      · obtain hn | ⟨_, _, he⟩ := hn
        · exact hn.elim
        · cases he
          exact (h.number (.inr ⟨_, _, hm⟩)).append _
  · -- the quote opens a string, and what was read before it is where a first key begins
    rw [hs] at ht
    cases ht
    refine ⟨fun part chars he => ?_, fun hn => ?_, trivial⟩
    · cases he
      obtain ⟨mode, frames⟩ := r
      obtain rfl : mode = .keyOrEnd := ho
      exact ⟨t, [], frames, rfl, hp, fun v s hv => hv⟩
    · obtain hn | ⟨_, _, he⟩ := hn
      · exact hn.elim
      · cases he
        exact (h.number (.inl ho)).append _
  · obtain hn | hn := hn next hs
    · exact .of_inNumber hn ((h.number (.inl hr)).append _)
    · exact .of_isCommon hn

theorem tracks_of_passes (h : start.Passes t r) : Tracks t r := by
  induction t using List.reverseRecOn generalizing r with
  | nil =>
      cases h
      exact .of_isCommon (by trivial)
  | append_singleton t c ih =>
      obtain ⟨mid, hp, hs⟩ := h.exists_of_concat
      exact (ih hp).step hp hs

end Tracks

section Stops

variable {r next : Reader} {c : Char} {t : List Char} {role : Role} {part : Part}
  {chars seen : List Char} {high : Option Nat} {frames : List Frame} {halt : Halt} {cause : Cause}

theorem byteCount_lt_of_hexStep
    (h : hexStep role high seen chars frames c = .ok next) {role' : Role} {high' : Option Nat}
    {seen' chars' : List Char} (hm : next.mode = .text role' (.hex high' seen') chars') :
    byteCount seen' < 4 := by
  simp only [hexStep] at h
  split at h
  · rename_i hlt
    cases h
    cases hm
    rw [byteCount_cons]
    omega
  · split at h
    · unfold closeHex at h
      (repeat' split at h) <;> cases h <;> cases hm
    · cases h

theorem byteCount_lt_of_textStep {role' : Role} {part' : Part} {chars' : List Char}
    (h : textStep role' part' chars' frames c = .ok next)
    (hm : next.mode = .text role (.hex high seen) chars) : byteCount seen < 4 := by
  cases part' with
  | plain =>
      simp only [textStep] at h
      split at h
      · obtain hn | ⟨-, -, hn⟩ | ⟨-, hn⟩ := closeText_cases h <;> rw [hm] at hn <;> exact hn.elim
      · (repeat' split at h) <;> cases h <;> cases hm
  | escape =>
      simp only [textStep] at h
      split at h
      · cases h
        cases hm
        exact Nat.zero_lt_succ _
      · split at h <;> cases h
        cases hm
  | hex high' seen' => exact byteCount_lt_of_hexStep h hm
  | surrogate high' slash =>
      cases slash <;> simp only [textStep] at h <;> split at h <;> cases h <;> cases hm
      exact Nat.zero_lt_succ _

-- A step never leaves an escape of four bytes behind.
theorem byteCount_lt_of_step (ha : r.mode.IsAscii) (h : r.step c = .ok next)
    (hm : next.mode = .text role (.hex high seen) chars) : byteCount seen < 4 := by
  obtain hn | ⟨role', part', chars', -, ht⟩ | ⟨-, role', frames, -, ht⟩ | ⟨-, hn⟩ := step_cases ha c
  · rw [h] at hn
    obtain hn | _ := hn
    rw [hm] at hn
    exact hn.elim
  · exact byteCount_lt_of_textStep (ht.symm.trans h) hm
  · rw [h] at ht
    cases ht
    cases hm
  · obtain hn | hn := hn next h <;> rw [hm] at hn <;> exact hn.elim

theorem byteCount_lt_of_passes (h : start.Passes t r)
    (hm : r.mode = .text role (.hex high seen) chars) : byteCount seen < 4 := by
  obtain rfl | ⟨front, c, rfl⟩ := t.eq_nil_or_concat
  · cases h
    cases hm
  · rw [List.concat_eq_append] at h
    obtain ⟨mid, hp, hs⟩ := h.exists_of_concat
    exact byteCount_lt_of_step (tracks_of_passes hp).word hs hm

theorem isGrammatical_of_stop (hc : cause.category = .syntactic) (h : stop cause 1 = .error halt) :
    halt.IsGrammatical c := by
  cases h
  exact ⟨hc, Nat.one_pos, c.utf8Size_pos⟩

-- The bytes of an escape that are missing are those of the character that completes them.
theorem isGrammatical_of_hexStep (hb : byteCount seen < 4)
    (h : hexStep role high seen chars frames c = .error halt) : halt.IsGrammatical c := by
  simp only [hexStep] at h
  split at h
  · cases h
  · rename_i hge
    split at h
    · unfold closeHex at h
      (repeat' split at h) <;> first | contradiction | exact isGrammatical_of_stop rfl h
    · cases h
      exact ⟨rfl, by dsimp only; omega, by dsimp only; omega⟩

-- What a closing quote may refuse is the text of a number alone.
theorem isGrammatical_of_textStep (hr : role ≠ .numberText)
    (hb : ∀ high seen, part = .hex high seen → byteCount seen < 4)
    (h : textStep role part chars frames c = .error halt) : halt.IsGrammatical c := by
  cases part with
  | plain =>
      simp only [textStep] at h
      split at h
      · cases role with
        | value | key => cases h
        | firstKey =>
            simp only [closeText] at h
            split at h <;> cases h
        | numberText => exact absurd rfl hr
      · (repeat' split at h) <;> first | contradiction | exact isGrammatical_of_stop rfl h
  | escape =>
      simp only [textStep] at h
      (repeat' split at h) <;> first | contradiction | exact isGrammatical_of_stop rfl h
  | hex high seen => exact isGrammatical_of_hexStep (hb high seen rfl) h
  | surrogate high slash =>
      cases slash <;> simp only [textStep] at h <;> split at h <;>
        first | contradiction | exact isGrammatical_of_stop rfl h

-- Outside of the objects that stand for numbers nothing else stops a reader.
theorem isGrammatical_of_step (hp : start.Passes t r) (hk : ¬MeetsNumberKey t)
    (h : r.step c = .error halt) : halt.IsGrammatical c := by
  have htracks := tracks_of_passes hp
  obtain hn | ⟨role, part, chars, hm, ht⟩ | ⟨-, role, frames, -, ht⟩ | ⟨hr, -⟩ :=
    step_cases htracks.word c
  · rw [h] at hn
    obtain _ | hc := hn
    exact ⟨hc, Nat.one_pos, c.utf8Size_pos⟩
  · refine isGrammatical_of_textStep (fun hr => ?_) (fun high seen he => ?_) (ht.symm.trans h)
    · subst hr
      exact hk (htracks.number (.inr ⟨part, chars, hm⟩))
    · subst he
      exact byteCount_lt_of_passes hp hm
  · rw [h] at ht
    cases ht
  · exact absurd (htracks.number (.inl hr)) hk

end Stops

end Reader

end Json

end ProbeReport
