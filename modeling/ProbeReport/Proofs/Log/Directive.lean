import Mathlib.Data.List.Induction
import Mathlib.Data.List.TakeWhile
import ProbeReport.Log.Filter
import ProbeReport.Proofs.Text.Compose
import ProbeReport.Proofs.Text.Digit
import ProbeReport.Proofs.Text.Lowercase
import ProbeReport.Proofs.Text.Slice
import ProbeReport.Proofs.Text.Split

-- How levels and directives are written, and that they are read as they are written.
namespace ProbeReport.Log

open Text

namespace Threshold

-- The levels by number and by name. With the first of them nothing at all is printed.
def numbers : List (Char × Threshold) :=
  [('0', none), ('1', some .error), ('2', some .warn), ('3', some .info), ('4', some .debug),
    ('5', some .trace)]

def names : List (String × Threshold) :=
  [("off", none), ("error", some .error), ("warn", some .warn), ("info", some .info),
    ("debug", some .debug), ("trace", some .trace)]

-- A level is written as its name, in letters of any case, or as its number. Zeros in front of a
-- number do not count, and neither does a sign.
inductive Spells : List Char → Threshold → Prop where
  | name {s : List Char} {t : Threshold} :
      (String.ofList (s.map Char.toLower), t) ∈ names → Spells s t
  | number {sign : List Char} {digit : Char} {t : Threshold} (zeros : Nat) :
      sign = [] ∨ sign = ['+'] → (digit, t) ∈ numbers →
      Spells (sign ++ (List.replicate zeros '0' ++ [digit])) t

section Digits

variable {c : Char} {digits : List Char}

theorem isDigit_of_mem_numbers {t : Threshold} (h : (c, t) ∈ numbers) : isDigit c = true := by
  have hall : ∀ entry ∈ numbers, isDigit entry.1 = true := by decide
  exact hall (c, t) h

theorem isDigit_replicate {t : Threshold} (zeros : Nat) (h : (c, t) ∈ numbers) :
    ∀ d ∈ List.replicate zeros '0' ++ [c], isDigit d = true := by
  rw [List.forall_mem_append, List.forall_mem_singleton]
  exact ⟨fun d hd => (List.mem_replicate.1 hd).2 ▸ rfl, isDigit_of_mem_numbers h⟩

theorem lt_of_ofNumber? {n : Nat} {t : Threshold} (h : ofNumber? n = some t) : n < 6 := by
  unfold ofNumber? at h
  split at h <;> first | omega | cases h

-- Nothing but zeros is worth nothing.
theorem eq_replicate_of_valueIn (hd : ∀ c ∈ digits, isDigit c = true)
    (h : valueIn 10 digits = 0) : digits = List.replicate digits.length '0' := by
  have hzero : ∀ k : Fin 10,
      (hexValue? (Char.ofNat (0x30 + k))).getD 0 = 0 → Char.ofNat (0x30 + k) = '0' := by decide
  induction digits using List.reverseRecOn with
  | nil => rfl
  | append_singleton digits c ih =>
      rw [List.forall_mem_append] at hd
      rw [valueIn_concat] at h
      obtain ⟨k, rfl⟩ := exists_of_isDigit (hd.2 c List.mem_cons_self)
      have hc := hzero k (by omega)
      rw [hc, List.length_append, List.length_singleton, List.replicate_succ',
        ← ih hd.1 (by omega)]

theorem ofNumber?_valueIn_iff {t : Threshold} (hn : digits ≠ [])
    (hd : ∀ c ∈ digits, isDigit c = true) :
    ofNumber? (valueIn 10 digits) = some t ↔
      ∃ zeros digit, (digit, t) ∈ numbers ∧ digits = List.replicate zeros '0' ++ [digit] := by
  have hnumber : ∀ k : Fin 10, (hexValue? (Char.ofNat (0x30 + k))).getD 0 = k ∧
      ∀ t ∈ ofNumber? k, (Char.ofNat (0x30 + k), t) ∈ numbers := by decide
  have hvalue : ∀ entry ∈ numbers, ofNumber? ((hexValue? entry.1).getD 0) = some entry.2 := by
    decide
  constructor
  · intro h
    obtain rfl | ⟨front, c, rfl⟩ := List.eq_nil_or_concat digits
    · exact absurd rfl hn
    rw [List.concat_eq_append, List.forall_mem_append] at hd
    rw [List.concat_eq_append] at h ⊢
    obtain ⟨k, rfl⟩ := exists_of_isDigit (hd.2 c List.mem_cons_self)
    rw [valueIn_concat, (hnumber k).1] at h
    -- with more than zeros in front the number would be too big
    have hfront : valueIn 10 front = 0 := by
      have hl := lt_of_ofNumber? h
      omega
    rw [hfront, Nat.zero_mul, Nat.zero_add] at h
    exact ⟨front.length, _, (hnumber k).2 t h,
      congrArg (· ++ _) (eq_replicate_of_valueIn hd.1 hfront)⟩
  · rintro ⟨zeros, digit, ht, rfl⟩
    rw [valueIn_concat, valueIn_replicate, Nat.zero_mul, Nat.zero_add]
    exact hvalue (digit, t) ht

theorem ofDigits?_eq_some_iff {s : List Char} {t : Threshold} :
    ofDigits? s = some t ↔
      ∃ sign zeros digit, (sign = [] ∨ sign = ['+']) ∧ (digit, t) ∈ numbers ∧
        s = sign ++ (List.replicate zeros '0' ++ [digit]) := by
  simp only [ofDigits?, Option.ite_none_right_eq_some, List.all_eq_true]
  constructor
  · rintro ⟨⟨hn, hd⟩, h⟩
    obtain ⟨zeros, digit, ht, hs⟩ := (ofNumber?_valueIn_iff hn hd).1 h
    by_cases hp : s.head? = some '+'
    · rw [if_pos hp] at hs
      obtain ⟨rest, rfl⟩ := List.head?_eq_some_iff.1 hp
      exact ⟨['+'], zeros, digit, .inr rfl, ht, congrArg ('+' :: ·) hs⟩
    · rw [if_neg hp] at hs
      exact ⟨[], zeros, digit, .inl rfl, ht, hs⟩
  · rintro ⟨sign, zeros, digit, hsign, ht, rfl⟩
    have hd := isDigit_replicate zeros ht
    have hrest : (if (sign ++ (List.replicate zeros '0' ++ [digit])).head? = some '+'
        then (sign ++ (List.replicate zeros '0' ++ [digit])).drop 1
        else sign ++ (List.replicate zeros '0' ++ [digit])) =
        List.replicate zeros '0' ++ [digit] := by
      obtain rfl | rfl := hsign
      · refine if_neg fun hp => ?_
        exact absurd (hd '+' (List.mem_of_mem_head? hp)) (by decide)
      · rfl
    have hn : List.replicate zeros '0' ++ [digit] ≠ [] := by simp
    rw [hrest]
    exact ⟨⟨hn, hd⟩, (ofNumber?_valueIn_iff hn hd).2 ⟨zeros, digit, ht, rfl⟩⟩

end Digits

section Names

variable {s : List Char} {t : Threshold} {c : Char}

theorem ofName?_eq_some_iff :
    ofName? s = some t ↔ (String.ofList (s.map Char.toLower), t) ∈ names := by
  have hread : ∀ entry ∈ names, (if entry.1 = "off" then some none
      else (Severity.all.find? fun severity => severity.name = entry.1).map some) =
      some entry.2 := by decide
  have hnamed (least : Severity) : (least.name, some least) ∈ names := by cases least <;> decide
  rw [ofName?]
  generalize String.ofList (s.map Char.toLower) = name
  refine ⟨fun h => ?_, hread (name, t)⟩
  by_cases ho : name = "off"
  · rw [if_pos ho, Option.some.injEq] at h
    rw [ho, ← h]
    decide
  · rw [if_neg ho, Option.map_eq_some_iff] at h
    obtain ⟨least, hl, rfl⟩ := h
    have hl := List.find?_some hl
    rw [decide_eq_true_eq] at hl
    exact hl ▸ hnamed least

-- Names are letters.
theorem isAlphanum_of_name (h : (String.ofList (s.map Char.toLower), t) ∈ names) (hc : c ∈ s) :
    c.isAlphanum = true ∧ isDigit c = false := by
  have hletters : ∀ entry ∈ names, (entry.1.toList.all fun d =>
      decide (d.toNat < 0x80 ∧ d.isLower = true)) = true := by decide
  have hlower : ∀ n : Fin 128, (Char.ofNat n).toLower.isLower = true →
      (Char.ofNat n).isAlphanum = true ∧ isDigit (Char.ofNat n) = false := by decide
  have hname := forall_mem_of_all (hletters _ h)
  rw [String.toList_ofList] at hname
  obtain ⟨hascii, hl⟩ := hname c.toLower (List.mem_map_of_mem hc)
  obtain ⟨n, rfl⟩ := exists_ofNat (isAscii_of_toLower hascii)
  exact hlower n hl

theorem ne_nil_of_name (h : (String.ofList (s.map Char.toLower), t) ∈ names) : s ≠ [] := by
  rintro rfl
  have hn : ∀ entry ∈ names, entry.1 ≠ String.ofList [] := by decide
  exact hn _ h rfl

end Names

section Spelling

variable {s : List Char} {t : Threshold} {c : Char}

-- Levels are read as they are written, and nothing else is read as a level.
theorem ofText?_eq_some_iff : ofText? s = some t ↔ Spells s t := by
  rw [ofText?, Option.orElse_eq_orElse, Option.orElse_eq_or, Option.or_eq_some_iff,
    ofDigits?_eq_some_iff, ofName?_eq_some_iff]
  constructor
  · rintro (⟨sign, zeros, digit, hs, ht, rfl⟩ | ⟨-, h⟩)
    · exact .number zeros hs ht
    · exact .name h
  · intro h
    cases h with
    | @number sign digit _ zeros hs ht => exact .inl ⟨sign, zeros, digit, hs, ht, rfl⟩
    | name h =>
        refine .inr ⟨Option.eq_none_iff_forall_ne_some.2 fun t' hd => ?_, h⟩
        -- a name has no digits
        obtain ⟨sign, zeros, digit, -, ht, rfl⟩ := ofDigits?_eq_some_iff.1 hd
        have hletter := (isAlphanum_of_name (c := digit) h (by simp)).2
        rw [isDigit_of_mem_numbers ht] at hletter
        cases hletter

instance (s : List Char) (t : Threshold) : Decidable (Spells s t) :=
  decidable_of_iff _ ofText?_eq_some_iff

theorem ofText?_eq_none_iff : ofText? s = none ↔ ∀ t, ¬Spells s t := by
  simp only [Option.eq_none_iff_forall_ne_some, ne_eq, ofText?_eq_some_iff]

theorem Spells.ne_nil (h : Spells s t) : s ≠ [] := by
  cases h with
  | name h => exact ne_nil_of_name h
  | number => simp

theorem Spells.isAlphanum (h : Spells s t) (hc : c ∈ s) : c.isAlphanum = true ∨ c = '+' := by
  have hdigit : ∀ k : Fin 10, (Char.ofNat (0x30 + k)).isAlphanum = true := by decide
  cases h with
  | name h => exact .inl (isAlphanum_of_name h hc).1
  | number zeros hs ht =>
      rw [List.mem_append] at hc
      obtain hc | hc := hc
      · obtain rfl | rfl := hs
        · cases hc
        · exact .inr (List.mem_singleton.1 hc)
      · obtain ⟨k, rfl⟩ := exists_of_isDigit (isDigit_replicate zeros ht c hc)
        exact .inl (hdigit k)

theorem Spells.not_mem_comma (h : Spells s t) : ',' ∉ s :=
  fun hc => absurd (h.isAlphanum hc) (by decide)

end Spelling

end Threshold

namespace Directive

-- A plain target begins in its own way, and none of the marks of a directive stands in it.
structure IsTarget (name : List Char) : Prop where
  begins : ∃ c rest, name = c :: rest ∧ mayBegin c = true
  plain : ∀ c ∈ name, c ∉ ['=', '[', ',']

theorem isTarget_iff {name : List Char} :
    IsTarget name ↔ name.head?.any mayBegin = true ∧
      (name.all fun c => decide (c ∉ ['=', '[', ','])) = true := by
  constructor
  · rintro ⟨⟨c, rest, rfl, hc⟩, hp⟩
    exact ⟨hc, List.all_eq_true.2 fun d hd => decide_eq_true (hp d hd)⟩
  · rintro ⟨hb, hp⟩
    cases name with
    | nil => cases hb
    | cons c rest => exact ⟨⟨c, rest, rfl, hb⟩, forall_mem_of_all hp⟩

instance (name : List Char) : Decidable (IsTarget name) := decidable_of_iff _ isTarget_iff.symm

-- What a plain directive says: the level for everything, the level for a target, or that all of a
-- target is to be printed. A level alone has no sign, since no directive begins with one.
inductive Reads : List Char → Directive → Prop where
  | level {s : List Char} {t : Threshold} :
      Threshold.Spells s t → s.head? ≠ some '+' → Reads s ⟨none, [], t⟩
  | target {s : List Char} :
      IsTarget s → (∀ t, ¬Threshold.Spells s t) → Reads s ⟨some (String.ofList s), [], some .trace⟩
  | targetLevel {name level : List Char} {t : Threshold} :
      IsTarget name → Threshold.Spells level t →
      Reads (name ++ '=' :: level) ⟨some (String.ofList name), [], t⟩

-- A directive for a target with something that is no level.
inductive Spoils : List Char → Prop where
  | mk {name level : List Char} :
      IsTarget name → level ≠ [] → (∀ t, ¬Threshold.Spells level t) → Spoils (name ++ '=' :: level)

section Blanks

-- The blanks as ranges, both ends included.
def blanks : List (Nat × Nat) :=
  [(0x9, 0xd), (0x20, 0x20), (0x85, 0x85), (0xa0, 0xa0), (0x1680, 0x1680), (0x2000, 0x200a),
    (0x2028, 0x2029), (0x202f, 0x202f), (0x205f, 0x205f), (0x3000, 0x3000)]

def isApart (range : Nat × Nat) : Bool :=
  blanks.all fun blank => range.2 < blank.1 || blank.2 < range.1

theorem alphanumeric_isApart : ∀ range ∈ alphanumeric.ranges, isApart range = true := by
  dsimp only [alphanumeric, CodeSet.ofRows]
  apply forall_mem_map_entries fun range : Nat × Nat => isApart range
  repeat refine allEntries_cons (by decide +kernel) ?_
  exact allEntries_nil

theorem exists_of_isSpace {c : Char} (h : isSpace c = true) :
    ∃ blank ∈ blanks, blank.1 ≤ c.toNat ∧ c.toNat ≤ blank.2 := by
  simp only [isSpace, Bool.or_eq_true, Bool.and_eq_true, decide_eq_true_eq] at h
  simp only [blanks, List.mem_cons, List.not_mem_nil, or_false, exists_eq_or_imp, exists_eq_left]
  omega

theorem isSpace_of_isAlphanum {c : Char} (h : c.isAlphanum = true) : isSpace c = false := by
  have hascii : ∀ n : Fin 128, (Char.ofNat n).isAlphanum = true →
      isSpace (Char.ofNat n) = false := by decide
  have hc : c.toNat < 0x80 := by
    change (decide ('A'.val ≤ c.val ∧ c.val ≤ 'Z'.val) ||
      (decide ('a'.val ≤ c.val) && decide (c.val ≤ 'z'.val)) || c.isDigit) = true at h
    simp only [Bool.or_eq_true, Bool.and_eq_true, decide_eq_true_eq, Char.isDigit_iff_toNat] at h
    obtain (⟨-, h⟩ | ⟨-, h⟩) | ⟨-, h⟩ := h
    · exact Nat.lt_of_le_of_lt (UInt32.le_iff_toNat_le.1 h) (by decide)
    · exact Nat.lt_of_le_of_lt (UInt32.le_iff_toNat_le.1 h) (by decide)
    · exact Nat.lt_of_le_of_lt h (by decide)
  obtain ⟨n, rfl⟩ := exists_ofNat hc
  exact hascii n h

-- Nothing that a target begins with is a blank.
theorem isSpace_of_mayBegin {c : Char} (h : mayBegin c = true) : isSpace c = false := by
  simp only [mayBegin, Bool.or_eq_true, decide_eq_true_eq] at h
  obtain (((rfl | rfl) | rfl) | h) | h := h
  · decide
  · decide
  · decide
  · exact isSpace_of_isAlphanum h
  · obtain ⟨range, hr, hc⟩ := List.any_eq_true.1 h
    have hapart := List.all_eq_true.1 (alphanumeric_isApart range hr)
    rw [Bool.eq_false_iff]
    intro hs
    obtain ⟨blank, hb, hl, hu⟩ := exists_of_isSpace hs
    have hblank := hapart blank hb
    simp only [Bool.or_eq_true, Bool.and_eq_true, decide_eq_true_eq] at hblank hc
    omega

end Blanks

section Reading

variable {s name level : List Char} {t : Threshold}

theorem isTarget_of_spells (h : Threshold.Spells s t) (hs : s.head? ≠ some '+') : IsTarget s := by
  have hmark : ∀ d ∈ ['=', '[', ','], d.isAlphanum = false ∧ d ≠ '+' :=
    forall_mem_of_all (by decide)
  obtain ⟨c, rest, rfl⟩ := List.exists_cons_of_ne_nil h.ne_nil
  refine ⟨⟨c, rest, rfl, ?_⟩, fun d hd hm => ?_⟩
  · have hc := (h.isAlphanum List.mem_cons_self).resolve_right fun hp => hs (congrArg some hp)
    simp [mayBegin, hc]
  · obtain ⟨hletter, hplus⟩ := hmark d hm
    obtain hd | hd := h.isAlphanum hd
    · rw [hletter] at hd
      cases hd
    · exact hplus hd

-- The characters of a target.
def isInTarget (c : Char) : Bool := c ≠ '=' && c ≠ '['

theorem IsTarget.forall_isInTarget (h : IsTarget name) : ∀ c ∈ name, isInTarget c = true := by
  intro c hc
  have hplain := h.plain c hc
  simp only [List.mem_cons, not_or] at hplain
  simp [isInTarget, hplain.1, hplain.2.1]

theorem IsTarget.kept {kept : List Char} {c : Char} (h : IsTarget (c :: name))
    (hk : kept <+: name) : IsTarget (c :: kept) := by
  obtain ⟨⟨_, _, he, hc⟩, hplain⟩ := h
  obtain ⟨rfl, rfl⟩ := List.cons.inj he
  exact ⟨⟨c, kept, rfl, hc⟩, fun d hd => hplain d ((List.cons_prefix_cons.2 ⟨rfl, hk⟩).subset hd)⟩

theorem Spoils.ne_nil (h : Spoils s) : s ≠ [] := by
  obtain ⟨-, -, -⟩ := h
  simp

theorem IsTarget.ne_nil (h : IsTarget s) : s ≠ [] := by
  obtain ⟨⟨c, rest, rfl, -⟩, -⟩ := h
  exact List.cons_ne_nil c rest

theorem IsTarget.not_mem_comma (h : IsTarget s) : ',' ∉ s :=
  fun hc => h.plain ',' hc (by decide)

-- A directive is a text of its own between two commas.
theorem Reads.stands {d : Directive} (h : Reads s d) : s ≠ [] ∧ ',' ∉ s := by
  cases h with
  | level ht _ => exact ⟨ht.ne_nil, ht.not_mem_comma⟩
  | target hs _ => exact ⟨hs.ne_nil, hs.not_mem_comma⟩
  | targetLevel hn ht =>
      refine ⟨by simp, ?_⟩
      rw [List.mem_append, List.mem_cons, not_or, not_or]
      exact ⟨hn.not_mem_comma, by decide, ht.not_mem_comma⟩

-- How a reading stands behind so many bytes of a target, and how behind its mark.
def Reading.behindTarget (position : Nat) : Reading := ⟨.word, position, none, none, []⟩

def Reading.behindMark (name : List Char) (position : Nat) : Reading :=
  ⟨.level (width name + 1), position, some (String.ofList name), none, []⟩

theorem ok_bind {α β : Type} (value : α) (next : α → Except Halt β) :
    (Except.ok value >>= next) = next value := rfl

variable [Patterns] {whole : List Char}

theorem foldlM_behindTarget {position : Nat} (h : ∀ c ∈ s, isInTarget c = true) :
    s.foldlM (Reading.step whole) (.behindTarget position) =
      .ok (.behindTarget (position + width s)) := by
  induction s generalizing position with
  | nil => rfl
  | cons c s ih =>
      have hc := h c List.mem_cons_self
      simp only [isInTarget, Bool.and_eq_true, decide_eq_true_eq] at hc
      have hstep : Reading.step whole (.behindTarget position) c =
          .ok (.behindTarget (position + c.utf8Size)) := by
        simp [Reading.step, Reading.turn, Reading.behindTarget, hc.1, hc.2, Except.map]
      rw [List.foldlM_cons, hstep, width_cons, ← Nat.add_assoc]
      exact ih fun d hd => h d (List.mem_cons_of_mem c hd)

theorem foldlM_target (h : IsTarget name) :
    name.foldlM (Reading.step whole) ⟨.start, 0, none, none, []⟩ =
      .ok (.behindTarget (width name)) := by
  obtain ⟨⟨c, rest, rfl, hc⟩, -⟩ := id h
  have hb : c ≠ '[' := by
    rintro rfl
    exact absurd List.mem_cons_self fun hm => h.plain '[' hm (by decide)
  have hstep : Reading.step whole ⟨.start, 0, none, none, []⟩ c =
      .ok (.behindTarget (0 + c.utf8Size)) := by
    simp [Reading.step, Reading.turn, Reading.behindTarget, Reading.goTo, hb, hc, Except.map]
  rw [Nat.zero_add] at hstep
  rw [List.foldlM_cons, hstep, width_cons]
  exact foldlM_behindTarget fun d hd => h.forall_isInTarget d (List.mem_cons_of_mem c hd)

theorem step_mark (name rest : List Char) :
    Reading.step (name ++ '=' :: rest) (.behindTarget (width name)) '=' =
      .ok (.behindMark name (width name + 1)) := by
  have hcut : cut (slice? 0 (width name)) (name ++ '=' :: rest) = .ok (String.ofList name) := by
    have hs : slice? 0 (width name) (name ++ '=' :: rest) = some name :=
      slice?_append [] name ('=' :: rest)
    rw [cut, hs]
  simp [Reading.step, Reading.turn, Reading.behindTarget, Reading.behindMark, Reading.goTo, hcut,
    Except.map, bind, Except.bind]
  rfl

theorem foldlM_behindMark {position : Nat} :
    s.foldlM (Reading.step whole) (.behindMark name position) =
      .ok (.behindMark name (position + width s)) := by
  induction s generalizing position with
  | nil => rfl
  | cons c s ih =>
      have hstep : Reading.step whole (.behindMark name position) c =
          .ok (.behindMark name (position + c.utf8Size)) := rfl
      rw [List.foldlM_cons, hstep, width_cons, ← Nat.add_assoc]
      exact ih

-- Without a mark a text is a level or a target.
theorem ofText_of_isTarget (h : IsTarget s) :
    ofText s = .ok (some (match Threshold.ofText? s with
      | some threshold => ⟨none, [], threshold⟩
      | none => ⟨some (String.ofList s), [], some .trace⟩)) := by
  obtain ⟨⟨c, rest, rfl, hc⟩, -⟩ := id h
  obtain ⟨kept, hk, ht⟩ : ∃ kept, kept <+: rest ∧
      trim isSpace ([] ++ c :: rest) = [] ++ c :: kept :=
    exists_trim_append (fun _ hd => absurd hd (by simp)) (isSpace_of_mayBegin hc)
  rw [List.nil_append, List.nil_append] at ht
  rw [ofText, ht, foldlM_target (h.kept hk), ok_bind, Reading.finish]
  cases Threshold.ofText? (c :: rest) <;> rfl

-- What follows the mark is the level.
theorem ofText_targetLevel (h : IsTarget name) (hl : level ≠ []) :
    ofText (name ++ '=' :: level) =
      match Threshold.ofText? level with
      | some threshold => .ok (some ⟨some (String.ofList name), [], threshold⟩)
      | none => .error (.refused .invalidLevel) := by
  obtain ⟨⟨c, rest, hn, hc⟩, -⟩ := id h
  obtain ⟨kept, -, ht⟩ : ∃ kept, kept <+: level ∧
      trim isSpace (name ++ '=' :: level) = name ++ '=' :: kept :=
    exists_trim_append (fun d hd => by
      rw [hn] at hd
      exact Option.some.inj hd ▸ isSpace_of_mayBegin hc) (by decide)
  have hcut : cut (dropBytes? (width name + 1)) (name ++ '=' :: level) =
      .ok (String.ofList level) := by
    have hw : width name + 1 = width (name ++ ['=']) := by
      rw [width_append]
      rfl
    rw [cut, List.append_cons, hw, dropBytes?_append]
  have hs : String.ofList level ≠ "" := fun he => hl (String.ofList_inj.1 he)
  rw [ofText, ht, List.foldlM_append, foldlM_target h, ok_bind, List.foldlM_cons, step_mark,
    ok_bind, foldlM_behindMark, ok_bind, Reading.finish]
  simp only [Reading.behindMark, hcut, bind, Except.bind, if_neg hs, String.toList_ofList]
  cases Threshold.ofText? level <;> rfl

theorem Reads.ofText_eq {d : Directive} (h : Reads s d) : ofText s = .ok (some d) := by
  cases h with
  | level ht hs =>
      rw [ofText_of_isTarget (isTarget_of_spells ht hs), Threshold.ofText?_eq_some_iff.2 ht]
  | target hs ht => rw [ofText_of_isTarget hs, Threshold.ofText?_eq_none_iff.2 ht]
  | targetLevel hn ht =>
      rw [ofText_targetLevel hn ht.ne_nil, Threshold.ofText?_eq_some_iff.2 ht]

theorem Spoils.ofText_eq (h : Spoils s) : ofText s = .error (.refused .invalidLevel) := by
  obtain ⟨hn, hl, ht⟩ := h
  rw [ofText_targetLevel hn hl, Threshold.ofText?_eq_none_iff.2 ht]

end Reading

end Directive

namespace Filter

-- Directives in a row, each for a text of its own.
inductive Reads : List String → Filter → Prop where
  | nil : Reads [] []
  | cons {text : String} {d : Directive} {texts : List String} {f : Filter} :
      Directive.Reads text.toList d → Reads texts f → Reads (text :: texts) (d :: f)

section Lists

variable [Patterns] {texts : List String} {f : Filter}

theorem ofText_intercalate (hn : texts ≠ []) (hc : ∀ text ∈ texts, ',' ∉ text.toList) :
    ofText (",".intercalate texts) =
      (((texts.map String.toList).filter (· ≠ [])).mapM Directive.ofText).map
        (·.reduceOption) := by
  have hcomma : ",".toList = [','] := by decide
  rw [ofText, String.toList_intercalate, hcomma,
    splitAt_intercalate (by simpa using hn) (List.forall_mem_map.2 hc)]

theorem Reads.map_ofText (h : Reads texts f) :
    ((texts.map String.toList).filter (· ≠ [])).map Directive.ofText =
      (f.map some).map .ok := by
  induction h with
  | nil => rfl
  | cons hd _ ih =>
      rw [List.map_cons, List.filter_cons, if_pos (decide_eq_true hd.stands.1), List.map_cons,
        hd.ofText_eq, ih, List.map_cons, List.map_cons]

theorem Reads.ofText_eq (h : Reads texts f) (hn : texts ≠ [])
    (hc : ∀ text ∈ texts, ',' ∉ text.toList) : ofText (",".intercalate texts) = .ok f := by
  rw [ofText_intercalate hn hc, mapM_eq_ok h.map_ofText]
  refine congrArg Except.ok ?_
  calc (f.map some).reduceOption = f.filterMap some := List.filterMap_map
    _ = f := List.filterMap_some

end Lists

end Filter

end ProbeReport.Log
