import ProbeReport.Proofs.Json.Lossless

-- How a printed document lies on its lines. What is open at a place is counted from the text
-- alone, and each line stands as deep as that.
namespace ProbeReport.Json

-- Where a text is left off: outside of strings, within one, or behind a backslash within one.
inductive Spot where
  | outside
  | inside
  | escaped
  deriving Repr, DecidableEq

-- How many arrays and objects are open behind a text.
structure Nesting where
  level : Nat
  spot : Spot
  deriving Repr, DecidableEq

def IsOpening (c : Char) : Prop := c = '[' ∨ c = '\x7b'

instance (c : Char) : Decidable (IsOpening c) := inferInstanceAs (Decidable (_ ∨ _))

def IsClosing (c : Char) : Prop := c = ']' ∨ c = '\x7d'

instance (c : Char) : Decidable (IsClosing c) := inferInstanceAs (Decidable (_ ∨ _))

namespace Nesting

def outermost : Nesting := ⟨0, .outside⟩

-- Brackets count outside of strings only.
def step (n : Nesting) (c : Char) : Nesting :=
  match n.spot with
  | .outside =>
    if c = '"' then { n with spot := .inside }
    else if IsOpening c then { n with level := n.level + 1 }
    else if IsClosing c then { n with level := n.level - 1 }
    else n
  | .inside =>
    if c = '\\' then { n with spot := .escaped }
    else if c = '"' then { n with spot := .outside }
    else n
  | .escaped => { n with spot := .inside }

def behind (n : Nesting) (t : List Char) : Nesting := t.foldl step n

-- The lines that may begin at a place: one that stands as deep as what is open there, or one that
-- closes something and stands a level less deep. Where that is no level at all, the closing bracket
-- is alone on its line.
inductive Lays (n : Nesting) : List Char → Prop where
  | item {c : Char} {rest : List Char} :
      n.spot = .outside → 0 < n.level → isBlank c = false → ¬IsClosing c →
      Lays n (List.replicate (2 * n.level) ' ' ++ c :: rest)
  | closing {level : Nat} {c : Char} {rest : List Char} :
      n.spot = .outside → n.level = level + 1 → IsClosing c → (level = 0 → rest = []) →
      Lays n (List.replicate (2 * level) ' ' ++ c :: rest)

-- From here on each line of a text is laid out in this way.
def Goes (n : Nesting) : List Char → Prop
  | [] => True
  | c :: rest => (c = '\n' → n.Lays (rest.takeWhile (· ≠ '\n'))) ∧ (n.step c).Goes rest

end Nesting

section Nesting

variable {n : Nesting} {t u rest : List Char} {level : Nat}

theorem behind_append : n.behind (t ++ u) = (n.behind t).behind u := List.foldl_append

theorem behind_cons (c : Char) : n.behind (c :: t) = (n.step c).behind t := rfl

theorem Nesting.Lays.spot {line : List Char} (h : n.Lays line) : n.spot = .outside := by
  cases h with
  | item hs | closing hs => exact hs

theorem step_newline (h : n.spot = .outside) : n.step '\n' = n := by
  obtain ⟨level, spot⟩ := n
  cases h
  rfl

-- Within one line there is nothing to lay out.
theorem goes_append (h : '\n' ∉ t) (hr : (n.behind t).Goes rest) : n.Goes (t ++ rest) := by
  induction t generalizing n with
  | nil => exact hr
  | cons c t ih =>
      rw [List.mem_cons, not_or] at h
      exact ⟨fun hc => absurd hc.symm h.1, ih h.2 hr⟩

-- What is written without brackets and quotes leaves everything as it is.
theorem step_of_ne {c : Char} (h : c ∉ ['"', '[', '\x7b', ']', '\x7d']) :
    Nesting.step ⟨level, .outside⟩ c = ⟨level, .outside⟩ := by
  simp only [List.mem_cons, List.not_mem_nil, or_false, not_or] at h
  simp [Nesting.step, IsOpening, IsClosing, h]

theorem behind_of_ne (h : ∀ c ∈ t, c ∉ ['"', '[', '\x7b', ']', '\x7d']) :
    Nesting.behind ⟨level, .outside⟩ t = ⟨level, .outside⟩ := by
  induction t with
  | nil => rfl
  | cons c t ih =>
      obtain ⟨hc, ht⟩ := List.forall_mem_cons.1 h
      rw [behind_cons, step_of_ne hc, ih ht]

theorem step_inside_of_ne {c : Char} (hq : c ≠ '"') (hb : c ≠ '\\') :
    Nesting.step ⟨level, .inside⟩ c = ⟨level, .inside⟩ := by
  simp [Nesting.step, hq, hb]

theorem behind_escape (level : Nat) (c : Char) :
    Nesting.behind ⟨level, .inside⟩ (escape c) = ⟨level, .inside⟩ := by
  have hdigit : ∀ k : Fin 16, Text.hexDigit k ≠ '"' ∧ Text.hexDigit k ≠ '\\' := by decide
  unfold escape
  by_cases hq : c = '"'
  · rw [if_pos hq]
    rfl
  by_cases hb : c = '\\'
  · rw [if_neg hq, if_pos hb]
    rfl
  rw [if_neg hq, if_neg hb]
  (repeat' split)
  · rfl
  · rfl
  · rfl
  · rfl
  · rfl
  · rename_i hc
    obtain ⟨hq', hb'⟩ := hdigit ⟨c.toNat / 16, by omega⟩
    obtain ⟨hq'', hb''⟩ := hdigit ⟨c.toNat % 16, by omega⟩
    have hu : Nesting.behind ⟨level, .inside⟩ ['\\', 'u', '0', '0'] = ⟨level, .inside⟩ := rfl
    have hsplit : ['\\', 'u', '0', '0', Text.hexDigit (c.toNat / 16),
        Text.hexDigit (c.toNat % 16)] =
        ['\\', 'u', '0', '0'] ++ [Text.hexDigit (c.toNat / 16), Text.hexDigit (c.toNat % 16)] :=
      rfl
    rw [hsplit, behind_append, hu, behind_cons, step_inside_of_ne hq' hb', behind_cons,
      step_inside_of_ne hq'' hb'']
    rfl
  · rw [behind_cons, step_inside_of_ne hq hb]
    rfl

theorem behind_quote (level : Nat) (s : String) :
    Nesting.behind ⟨level, .outside⟩ (quote s) = ⟨level, .outside⟩ := by
  have hs (l : List Char) :
      Nesting.behind ⟨level, .inside⟩ (l.flatMap escape) = ⟨level, .inside⟩ := by
    induction l with
    | nil => rfl
    | cons c l ih => rw [List.flatMap_cons, behind_append, behind_escape, ih]
  have hopen : Nesting.step ⟨level, .outside⟩ '"' = ⟨level, .inside⟩ := rfl
  rw [quote, List.cons_append, behind_cons, hopen, behind_append, hs]
  rfl

end Nesting

-- A text that may stand where so many arrays and objects are open: it begins neither with a blank
-- nor with a closing bracket, holds no control character, and what follows it goes on as if it
-- were not there.
structure Stands (level : Nat) (t : List Char) : Prop where
  starts : ∃ c more, t = c :: more ∧ isBlank c = false ∧ ¬IsClosing c
  visible : ∀ c ∈ t, c = '\n' ∨ 0x20 ≤ c.toNat
  goes : ∀ rest, (level = 0 → rest = []) → Nesting.Goes ⟨level, .outside⟩ rest →
    Nesting.Goes ⟨level, .outside⟩ (t ++ rest)

section Stands

variable {level : Nat} {t rest : List Char}

-- What stays on one line and opens nothing for long.
theorem stands_of_visible (hs : ∃ c more, t = c :: more ∧ isBlank c = false ∧ ¬IsClosing c)
    (hv : ∀ c ∈ t, 0x20 ≤ c.toNat)
    (hb : Nesting.behind ⟨level, .outside⟩ t = ⟨level, .outside⟩) : Stands level t where
  starts := hs
  visible c hc := .inr (hv c hc)
  goes rest _ hr := by
    refine goes_append (fun hn => absurd (hv '\n' hn) (by decide)) ?_
    rw [hb]
    exact hr

theorem stands_bare (hn : t ≠ []) (ht : ∀ c ∈ t, Token.isBare c = true)
    (hv : ∀ c ∈ t, 0x20 ≤ c.toNat) : Stands level t := by
  have hbare {c : Char} (hc : c ∈ t) : isBlank c = false ∧ c ∉ Token.marks ∧ c ≠ '"' := by
    simpa [Token.isBare, and_assoc] using ht c hc
  have hne : ∀ c ∈ t, c ∉ ['"', '[', '\x7b', ']', '\x7d'] := by
    intro c hc hm
    obtain ⟨-, hmark, hquote⟩ := hbare hc
    simp only [Token.marks, List.mem_cons, List.not_mem_nil, or_false] at hm hmark
    grind
  refine stands_of_visible ?_ hv (behind_of_ne hne)
  obtain ⟨c, more, rfl⟩ := List.exists_cons_of_ne_nil hn
  refine ⟨c, more, rfl, (hbare List.mem_cons_self).1, ?_⟩
  rintro (rfl | rfl)
  · exact hne ']' List.mem_cons_self (by decide)
  · exact hne '\x7d' List.mem_cons_self (by decide)

theorem stands_quote (level : Nat) (s : String) : Stands level (quote s) :=
  stands_of_visible ⟨'"', _, rfl, by decide, by decide⟩ (fun _ hc => not_control_of_mem_quote hc)
    (behind_quote level s)

end Stands

section Lines

variable {level : Nat} {t rest : List Char} {c : Char}

theorem takeWhile_blanks (count : Nat) (u : List Char) :
    (List.replicate count ' ' ++ u).takeWhile (· ≠ '\n') =
      List.replicate count ' ' ++ u.takeWhile (· ≠ '\n') := by
  refine List.takeWhile_append_of_pos fun c hc => ?_
  rw [(List.mem_replicate.1 hc).2]
  rfl

theorem takeWhile_visible (hc : c ≠ '\n') (rest : List Char) :
    (c :: rest).takeWhile (· ≠ '\n') = c :: rest.takeWhile (· ≠ '\n') :=
  List.takeWhile_cons_of_pos (decide_eq_true hc)

theorem goes_blanks (count : Nat) (hr : Nesting.Goes ⟨level, .outside⟩ rest) :
    Nesting.Goes ⟨level, .outside⟩ (List.replicate count ' ' ++ rest) := by
  have hall : ∀ c ∈ List.replicate count ' ', c = ' ' := fun c hc => (List.mem_replicate.1 hc).2
  refine goes_append (fun hn => absurd (hall '\n' hn) (by decide)) ?_
  rw [behind_of_ne fun c hc => hall c hc ▸ by decide]
  exact hr

theorem visible_newline (level : Nat) : ∀ c ∈ newline level, c = '\n' ∨ 0x20 ≤ c.toNat := by
  intro c hc
  rw [newline, List.mem_cons] at hc
  obtain rfl | hc := hc
  · exact .inl rfl
  · rw [(List.mem_replicate.1 hc).2]
    exact .inr (by decide)

-- A new line for an item or a member, as deep as what is open around it.
theorem goes_newline (hl : 0 < level) (ht : Stands level t)
    (hr : Nesting.Goes ⟨level, .outside⟩ (t ++ rest)) :
    Nesting.Goes ⟨level, .outside⟩ (newline level ++ (t ++ rest)) := by
  obtain ⟨c, more, rfl, hblank, hclosing⟩ := ht.starts
  have hc : c ≠ '\n' := by
    rintro rfl
    cases hblank
  rw [newline, List.cons_append]
  refine ⟨fun _ => ?_, goes_blanks (2 * level) hr⟩
  rw [takeWhile_blanks, List.cons_append, takeWhile_visible hc]
  exact .item rfl hl hblank hclosing

-- And one for the bracket that closes them, a level less deep.
theorem goes_closing (hc : IsClosing c) (hz : level = 0 → rest = [])
    (hr : Nesting.Goes ⟨level, .outside⟩ rest) :
    Nesting.Goes ⟨level + 1, .outside⟩ (newline level ++ c :: rest) := by
  have hn : c ≠ '\n' := by
    rintro rfl
    exact absurd hc (by decide)
  have hstep : Nesting.step ⟨level + 1, .outside⟩ c = ⟨level, .outside⟩ := by
    obtain rfl | rfl := hc <;> rfl
  have hclose : Nesting.Goes ⟨level + 1, .outside⟩ (c :: rest) :=
    ⟨fun he => absurd he hn, hstep ▸ hr⟩
  rw [newline, List.cons_append]
  refine ⟨fun _ => ?_, goes_blanks (2 * level) hclose⟩
  rw [takeWhile_blanks, takeWhile_visible hn]
  exact .closing rfl rfl hc fun h => by rw [hz h, List.takeWhile_nil]

end Lines

-- Items or members in a row, each on a line of its own, whichever they are.
section Blocks

variable {α : Type} {level : Nat} {opening closing : Char} (print : α → List Char)
  (tail : List α → List Char) (hnil : tail [] = newline level ++ [closing])
  (hcons : ∀ entry rest, tail (entry :: rest) =
    ',' :: newline (level + 1) ++ print entry ++ tail rest)

include hnil hcons

theorem goes_tail (hc : IsClosing closing) {entries : List α}
    (hp : ∀ entry ∈ entries, Stands (level + 1) (print entry)) {rest : List Char}
    (hz : level = 0 → rest = []) (hr : Nesting.Goes ⟨level, .outside⟩ rest) :
    Nesting.Goes ⟨level + 1, .outside⟩ (tail entries ++ rest) := by
  induction entries with
  | nil =>
      rw [hnil, List.append_assoc]
      exact goes_closing hc hz hr
  | cons entry more ih =>
      obtain ⟨hentry, hmore⟩ := List.forall_mem_cons.1 hp
      have hline : Nesting.Goes ⟨level + 1, .outside⟩
          (newline (level + 1) ++ (print entry ++ (tail more ++ rest))) :=
        goes_newline (Nat.succ_pos level) hentry (hentry.goes _ (by simp) (ih hmore))
      simp only [hcons, List.append_assoc, List.cons_append]
      exact ⟨fun he => absurd he (by decide), hline⟩

theorem visible_tail (hc : IsClosing closing) {entries : List α}
    (hp : ∀ entry ∈ entries, Stands (level + 1) (print entry)) :
    ∀ c ∈ tail entries, c = '\n' ∨ 0x20 ≤ c.toNat := by
  have hclosing : 0x20 ≤ closing.toNat := by obtain rfl | rfl := hc <;> decide
  induction entries with
  | nil =>
      rw [hnil]
      exact List.forall_mem_append.2 ⟨visible_newline level, by simp [hclosing]⟩
  | cons entry more ih =>
      obtain ⟨hentry, hmore⟩ := List.forall_mem_cons.1 hp
      simp only [hcons, List.forall_mem_append, List.forall_mem_cons]
      exact ⟨⟨⟨by decide, visible_newline (level + 1)⟩, hentry.visible⟩, ih hmore⟩

theorem stands_block (ho : IsOpening opening) (hc : IsClosing closing) {entry : α}
    {more : List α} (hp : ∀ e ∈ entry :: more, Stands (level + 1) (print e)) :
    Stands level (opening :: newline (level + 1) ++ print entry ++ tail more) := by
  obtain ⟨hentry, hmore⟩ := List.forall_mem_cons.1 hp
  have hopening : isBlank opening = false ∧ ¬IsClosing opening ∧ 0x20 ≤ opening.toNat ∧
      opening ≠ '\n' := by
    obtain rfl | rfl := ho <;> decide
  have hstep : Nesting.step ⟨level, .outside⟩ opening = ⟨level + 1, .outside⟩ := by
    obtain rfl | rfl := ho <;> rfl
  refine ⟨⟨opening, _, rfl, hopening.1, hopening.2.1⟩, ?_, fun rest hz hr => ?_⟩
  · simp only [List.forall_mem_append, List.forall_mem_cons]
    exact ⟨⟨⟨.inr hopening.2.2.1, visible_newline (level + 1)⟩, hentry.visible⟩,
      visible_tail print tail hnil hcons hc hmore⟩
  · have hrest := goes_tail print tail hnil hcons hc hmore hz hr
    have hline : Nesting.Goes ⟨level + 1, .outside⟩
        (newline (level + 1) ++ (print entry ++ (tail more ++ rest))) :=
      goes_newline (Nat.succ_pos level) hentry (hentry.goes _ (by simp) hrest)
    simp only [List.append_assoc, List.cons_append]
    exact ⟨fun he => absurd he hopening.2.2.2, hstep ▸ hline⟩

end Blocks

section Values

theorem stands_member {level : Nat} (key : String) {t : List Char} (ht : Stands level t) :
    Stands level (quote key ++ ':' :: ' ' :: t) where
  starts := ⟨'"', _, rfl, by decide, by decide⟩
  visible := by
    simp only [List.forall_mem_append, List.forall_mem_cons]
    exact ⟨(stands_quote level key).visible, by decide, by decide, ht.visible⟩
  goes rest hz hr := by
    have hmark : Nesting.Goes ⟨level, .outside⟩ ([':', ' '] ++ (t ++ rest)) :=
      goes_append (by decide) (ht.goes rest hz hr)
    rw [List.append_assoc]
    refine goes_append (fun hn => ?_) ?_
    · exact absurd (not_control_of_mem_quote hn) (by decide)
    · rw [behind_quote]
      exact hmark

theorem stands_word (level : Nat) {w : List Char} (h : w ∈ Token.words) : Stands level w := by
  have hall : ∀ w ∈ Token.words, w ≠ [] ∧ w.all Token.isBare = true ∧
      (w.all fun c => decide (0x20 ≤ c.toNat)) = true := by decide
  obtain ⟨hn, hb, hv⟩ := hall w h
  exact stands_bare hn (List.all_eq_true.1 hb) (Text.forall_mem_of_all hv)

-- Every printed value stands at the level that it is printed for.
theorem stands_pretty {n : Nat} {value : Json} (h : Canonical n value) (level : Nat) :
    Stands level (value.prettyChars level) := by
  induction h generalizing level with
  | null => exact stands_word level (w := ['n', 'u', 'l', 'l']) (by decide)
  | @bool _ b => exact stands_word level (w := word b) (by cases b <;> decide)
  | number ht =>
      obtain ⟨hn, hnumeric⟩ := isNumeric_of_number ht
      rw [prettyChars, String.toList_ofList]
      exact stands_bare hn (fun c hc => isBare_of_isNumeric (hnumeric c hc))
        (not_control_of_number ht)
  | string => exact stands_quote level _
  | @array _ items _ ih =>
      cases items with
      | nil =>
          have hempty : Stands level ['[', ']'] :=
            stands_of_visible ⟨'[', _, rfl, by decide, by decide⟩ (Text.forall_mem_of_all (by decide))
              rfl
          exact hempty
      | cons item more =>
          exact stands_block (prettyChars (level + 1)) (prettyItems level) rfl (fun _ _ => rfl)
            (.inl rfl) (.inl rfl) fun i hi => ih i hi (level + 1)
  | @object _ members _ _ _ ih =>
      cases members with
      | nil =>
          have hempty : Stands level ['\x7b', '\x7d'] :=
            stands_of_visible ⟨'\x7b', _, rfl, by decide, by decide⟩ (Text.forall_mem_of_all (by decide))
              rfl
          exact hempty
      | cons member more =>
          obtain ⟨key, value⟩ := member
          have hblock := stands_block
            (fun m : String × Json => quote m.1 ++ ':' :: ' ' :: prettyChars (level + 1) m.2)
            (prettyMembers level) rfl (by simp [prettyMembers]) (.inr rfl) (.inr rfl)
            fun m hm => stands_member m.1 (ih m hm (level + 1))
          simpa [prettyChars] using hblock

end Values

end ProbeReport.Json
