import ProbeReport.Proofs.Json.Grammar

namespace ProbeReport.Json

open Grammar

namespace Numeral

-- The number after more of its characters, if they all belong to it.
def read? (n : Numeral) : List Char → Option Numeral
  | [] => some n
  | c :: rest =>
    match n.step c with
    | .more next => next.read? rest
    | _ => none

theorem read?_append (n : Numeral) (first second : List Char) :
    n.read? (first ++ second) = (n.read? first).bind (·.read? second) := by
  induction first generalizing n with
  | nil => rfl
  | cons c rest ih =>
      simp only [List.cons_append, read?]
      cases n.step c with
      | more next => exact ih next
      | done => rfl
      | invalid => rfl

theorem read?_append_of_eq {n m : Numeral} {first second : List Char}
    (h : n.read? first = some m) : n.read? (first ++ second) = m.read? second := by
  rw [read?_append, h]
  rfl

theorem isDigit_iff {c : Char} : Text.isDigit c = true ↔ IsDigit c := by
  simp [Text.isDigit, IsDigit]

-- The characters that carry a number from one phase to another, and how they are told.
inductive Moves : Phase → Char → Phase → List Char → Prop where
  | minus : Moves .start '-' .minus ['-']
  | zero {p : Phase} : p = .start ∨ p = .minus → Moves p '0' .zero ['0']
  | lead {p : Phase} {c : Char} :
      p = .start ∨ p = .minus → IsDigit c → c ≠ '0' → Moves p c .whole [c]
  | digit {p : Phase} {c : Char} :
      p = .whole ∨ p = .fraction ∨ p = .exponent → IsDigit c → Moves p c p [c]
  | point {p : Phase} : p = .zero ∨ p = .whole → Moves p '.' .point ['.']
  | fraction {c : Char} : IsDigit c → Moves .point c .fraction [c]
  | mark {p : Phase} {c : Char} :
      p = .zero ∨ p = .whole ∨ p = .fraction → c = 'e' ∨ c = 'E' → Moves p c .mark ['e']
  | sign {c : Char} : c = '+' ∨ c = '-' → Moves .mark c .sign [c]
  | unsigned {c : Char} : IsDigit c → Moves .mark c .exponent ['+', c]
  | exponent {c : Char} : IsDigit c → Moves .sign c .exponent [c]

theorem moves_of_step {n next : Numeral} {c : Char} (h : n.step c = .more next) :
    ∃ added, Moves n.phase c next.phase added ∧ next.spelling = added.reverse ++ n.spelling := by
  obtain ⟨p, spelling⟩ := n
  simp only [step, push, openExponent, Bool.or_eq_true, decide_eq_true_eq, isDigit_iff] at h
  cases p <;> dsimp only at h
  case start =>
    split at h
    · rename_i hc; subst hc; cases h; exact ⟨_, .minus, rfl⟩
    · split at h
      · rename_i hc; subst hc; cases h; exact ⟨_, .zero (.inl rfl), rfl⟩
      · rename_i hz
        split at h
        · rename_i hd; cases h; exact ⟨_, .lead (.inl rfl) hd hz, rfl⟩
        · cases h
  case minus =>
    split at h
    · rename_i hc; subst hc; cases h; exact ⟨_, .zero (.inr rfl), rfl⟩
    · rename_i hz
      split at h
      · rename_i hd; cases h; exact ⟨_, .lead (.inr rfl) hd hz, rfl⟩
      · cases h
  case zero =>
    split at h
    · cases h
    · split at h
      · rename_i hc; subst hc; cases h; exact ⟨_, .point (.inl rfl), rfl⟩
      · split at h
        · rename_i hc; cases h; exact ⟨_, .mark (.inl rfl) hc, rfl⟩
        · cases h
  case whole =>
    split at h
    · rename_i hd; cases h; exact ⟨_, .digit (.inl rfl) hd, rfl⟩
    · split at h
      · rename_i hc; subst hc; cases h; exact ⟨_, .point (.inr rfl), rfl⟩
      · split at h
        · rename_i hc; cases h; exact ⟨_, .mark (.inr (.inl rfl)) hc, rfl⟩
        · cases h
  case point =>
    split at h
    · rename_i hd; cases h; exact ⟨_, .fraction hd, rfl⟩
    · cases h
  case fraction =>
    split at h
    · rename_i hd; cases h; exact ⟨_, .digit (.inr (.inl rfl)) hd, rfl⟩
    · split at h
      · rename_i hc; cases h; exact ⟨_, .mark (.inr (.inr rfl)) hc, rfl⟩
      · cases h
  case mark =>
    split at h
    · rename_i hc; subst hc; cases h; exact ⟨_, .sign (.inl rfl), rfl⟩
    · split at h
      · rename_i hc; subst hc; cases h; exact ⟨_, .sign (.inr rfl), rfl⟩
      · split at h
        · rename_i hd; cases h; exact ⟨_, .unsigned hd, rfl⟩
        · cases h
  case sign =>
    split at h
    · rename_i hd; cases h; exact ⟨_, .exponent hd, rfl⟩
    · cases h
  case exponent =>
    split at h
    · rename_i hd; cases h; exact ⟨_, .digit (.inr (.inr rfl)) hd, rfl⟩
    · cases h

theorem ne_of_isDigit {c d : Char} (hc : IsDigit c) (hd : ¬IsDigit d) : c ≠ d :=
  fun h => hd (h ▸ hc)

theorem step_of_moves {p q : Phase} {c : Char} {added : List Char} (h : Moves p c q added)
    (spelling : List Char) : step ⟨p, spelling⟩ c = .more ⟨q, added.reverse ++ spelling⟩ := by
  cases h with
  | minus => rfl
  | zero hp => rcases hp with rfl | rfl <;> rfl
  | lead hp hd hz =>
      have hm := ne_of_isDigit hd (by decide : ¬IsDigit '-')
      rcases hp with rfl | rfl <;> simp [step, push, isDigit_iff, hd, hz, hm]
  | digit hp hd =>
      rcases hp with rfl | rfl | rfl <;> simp [step, push, isDigit_iff, hd]
  | point hp => rcases hp with rfl | rfl <;> rfl
  | fraction hd => simp [step, push, isDigit_iff, hd]
  | mark hp hc =>
      rcases hp with rfl | rfl | rfl <;> rcases hc with rfl | rfl <;> rfl
  | sign hc => rcases hc with rfl | rfl <;> rfl
  | unsigned hd =>
      have hp := ne_of_isDigit hd (by decide : ¬IsDigit '+')
      have hm := ne_of_isDigit hd (by decide : ¬IsDigit '-')
      simp [step, push, isDigit_iff, hd, hp, hm]
  | exponent hd => simp [step, push, isDigit_iff, hd]

-- Only a complete number ends before another character.
theorem isComplete_of_done {n : Numeral} {c : Char} (h : n.step c = .done) :
    n.phase.isComplete = true := by
  obtain ⟨p, spelling⟩ := n
  simp only [step, push, openExponent] at h
  cases p with
  | zero => rfl
  | whole => rfl
  | fraction => rfl
  | exponent => rfl
  | _ => dsimp only at h; (repeat' split at h) <;> cases h

theorem step_of_delimiter {n : Numeral} {c : Char} (hn : n.phase.isComplete = true)
    (hc : isBlank c = true ∨ c = ',' ∨ c = ']' ∨ c = '\x7d') : n.step c = .done := by
  have hd : Text.isDigit c = false ∧ c ≠ '.' ∧ c ≠ 'e' ∧ c ≠ 'E' := by
    simp only [isBlank, Bool.or_eq_true, decide_eq_true_eq] at hc
    rcases hc with (((rfl | rfl) | rfl) | rfl) | rfl | rfl | rfl <;> decide
  obtain ⟨p, spelling⟩ := n
  obtain ⟨hdigit, hpoint, he, hE⟩ := hd
  cases p <;> simp_all [step, Phase.isComplete]

-- What may still come in each phase, and how it is told.
def Tail : Phase → List Char → List Char → Prop
  | .start, t, told => Number t told
  | .minus, t, told =>
    ∃ w f x y, Whole w ∧ Fraction f ∧ Exponent x y ∧ t = w ++ f ++ x ∧ told = w ++ f ++ y
  | .zero, t, told => ∃ f x y, Fraction f ∧ Exponent x y ∧ t = f ++ x ∧ told = f ++ y
  | .whole, t, told =>
    ∃ ds f x y, (∀ d ∈ ds, IsDigit d) ∧ Fraction f ∧ Exponent x y ∧
      t = ds ++ f ++ x ∧ told = ds ++ f ++ y
  | .point, t, told => ∃ ds x y, Digits ds ∧ Exponent x y ∧ t = ds ++ x ∧ told = ds ++ y
  | .fraction, t, told =>
    ∃ ds x y, (∀ d ∈ ds, IsDigit d) ∧ Exponent x y ∧ t = ds ++ x ∧ told = ds ++ y
  | .mark, t, told => Exponent ('e' :: t) ('e' :: told)
  | .sign, t, told => Digits t ∧ told = t
  | .exponent, t, told => (∀ d ∈ t, IsDigit d) ∧ told = t

theorem tail_nil {p : Phase} (h : p.isComplete = true) : Tail p [] [] := by
  cases p with
  | zero => exact ⟨[], [], [], .absent, .absent, rfl, rfl⟩
  | whole => exact ⟨[], [], [], [], by simp, .absent, .absent, rfl, rfl⟩
  | fraction => exact ⟨[], [], [], by simp, .absent, rfl, rfl⟩
  | exponent => exact ⟨by simp, rfl⟩
  | _ => simp [Phase.isComplete] at h

theorem digits_cons {c : Char} {t : List Char} (hc : IsDigit c) (ht : ∀ d ∈ t, IsDigit d) :
    Digits (c :: t) := by
  refine ⟨by simp, fun d hd => ?_⟩
  rcases List.mem_cons.mp hd with rfl | hd
  · exact hc
  · exact ht d hd

theorem exponent_marked {mark : Char} {t told : List Char} (hm : mark = 'e' ∨ mark = 'E')
    (h : Exponent ('e' :: t) ('e' :: told)) : Exponent (mark :: t) ('e' :: told) := by
  cases h with
  | unsigned _ hd => exact .unsigned hm hd
  | signed _ hs hd => exact .signed hm hs hd

-- A character that is taken stands before what may follow in the next phase.
theorem tail_cons {p q : Phase} {c : Char} {added t told : List Char} (h : Moves p c q added)
    (ht : Tail q t told) : Tail p (c :: t) (added ++ told) := by
  cases h with
  | minus =>
      obtain ⟨w, f, x, y, hw, hf, hx, rfl, rfl⟩ := ht
      simpa [Tail] using Number.mk .present hw hf hx
  | zero hp =>
      obtain ⟨f, x, y, hf, hx, rfl, rfl⟩ := ht
      rcases hp with rfl | rfl
      · simpa [Tail] using Number.mk .absent .zero hf hx
      · exact ⟨['0'], f, x, y, .zero, hf, hx, rfl, rfl⟩
  | lead hp hd hz =>
      obtain ⟨ds, f, x, y, hds, hf, hx, rfl, rfl⟩ := ht
      rcases hp with rfl | rfl
      · simpa [Tail] using Number.mk .absent (.digits hd hz hds) hf hx
      · exact ⟨c :: ds, f, x, y, .digits hd hz hds, hf, hx, rfl, rfl⟩
  | digit hp hd =>
      rcases hp with rfl | rfl | rfl
      · obtain ⟨ds, f, x, y, hds, hf, hx, rfl, rfl⟩ := ht
        exact ⟨c :: ds, f, x, y, (digits_cons hd hds).2, hf, hx, rfl, rfl⟩
      · obtain ⟨ds, x, y, hds, hx, rfl, rfl⟩ := ht
        exact ⟨c :: ds, x, y, (digits_cons hd hds).2, hx, rfl, rfl⟩
      · obtain ⟨hds, rfl⟩ := ht
        exact ⟨(digits_cons hd hds).2, rfl⟩
  | point hp =>
      obtain ⟨ds, x, y, hds, hx, rfl, rfl⟩ := ht
      rcases hp with rfl | rfl
      · exact ⟨'.' :: ds, x, y, .present hds, hx, rfl, rfl⟩
      · exact ⟨[], '.' :: ds, x, y, by simp, .present hds, hx, rfl, rfl⟩
  | fraction hd =>
      obtain ⟨ds, x, y, hds, hx, rfl, rfl⟩ := ht
      exact ⟨c :: ds, x, y, digits_cons hd hds, hx, rfl, rfl⟩
  | mark hp hc =>
      have hx := exponent_marked hc ht
      rcases hp with rfl | rfl | rfl
      · exact ⟨[], _, _, .absent, hx, rfl, rfl⟩
      · exact ⟨[], [], _, _, by simp, .absent, hx, rfl, rfl⟩
      · exact ⟨[], _, _, by simp, hx, rfl, rfl⟩
  | sign hc =>
      obtain ⟨hds, rfl⟩ := ht
      exact .signed (.inl rfl) hc hds
  | unsigned hd =>
      obtain ⟨hds, rfl⟩ := ht
      exact .unsigned (.inl rfl) (digits_cons hd hds)
  | exponent hd =>
      obtain ⟨hds, rfl⟩ := ht
      exact ⟨digits_cons hd hds, rfl⟩

-- What completes a number in progress is what may come in its phase.
theorem tail_of_read? {n m : Numeral} {t : List Char} (h : n.read? t = some m)
    (hm : m.phase.isComplete = true) :
    ∃ told, Tail n.phase t told ∧ m.spelling = told.reverse ++ n.spelling := by
  induction t generalizing n with
  | nil =>
      cases h
      exact ⟨[], tail_nil hm, rfl⟩
  | cons c rest ih =>
      simp only [read?] at h
      cases hs : n.step c with
      | more next =>
          rw [hs] at h
          obtain ⟨told, ht, he⟩ := ih h
          obtain ⟨added, hmoves, hn⟩ := moves_of_step hs
          exact ⟨added ++ told, tail_cons hmoves ht, by simp [he, hn]⟩
      | done => simp [hs] at h
      | invalid => simp [hs] at h

section Complete

variable {p : Phase} {t : List Char}

theorem read?_cons {q : Phase} {c : Char} {added : List Char} (h : Moves p c q added)
    (spelling t : List Char) :
    read? ⟨p, spelling⟩ (c :: t) = read? ⟨q, added.reverse ++ spelling⟩ t := by
  rw [read?, step_of_moves h]

theorem read?_digits (hp : p = .whole ∨ p = .fraction ∨ p = .exponent)
    (ht : ∀ d ∈ t, IsDigit d) (spelling : List Char) :
    read? ⟨p, spelling⟩ t = some ⟨p, t.reverse ++ spelling⟩ := by
  induction t generalizing spelling with
  | nil => rfl
  | cons c rest ih =>
      have hc := ht c (by simp)
      rw [read?_cons (.digit hp hc), ih fun d hd => ht d (List.mem_cons_of_mem c hd)]
      simp

theorem read?_exponent {x y : List Char} (hx : Exponent x y)
    (hp : p = .zero ∨ p = .whole ∨ p = .fraction) (spelling : List Char) :
    ∃ q : Phase, q.isComplete = true ∧
      read? ⟨p, spelling⟩ x = some ⟨q, y.reverse ++ spelling⟩ := by
  cases hx with
  | absent => exact ⟨p, by rcases hp with rfl | rfl | rfl <;> rfl, rfl⟩
  | unsigned hm ht =>
      refine ⟨.exponent, rfl, ?_⟩
      obtain ⟨c, rest, rfl⟩ := List.exists_cons_of_ne_nil ht.1
      rw [read?_cons (.mark hp hm), read?_cons (.unsigned (ht.2 c (by simp))),
        read?_digits (.inr (.inr rfl)) fun d hd => ht.2 d (List.mem_cons_of_mem c hd)]
      simp
  | signed hm hs ht =>
      refine ⟨.exponent, rfl, ?_⟩
      obtain ⟨c, rest, rfl⟩ := List.exists_cons_of_ne_nil ht.1
      rw [read?_cons (.mark hp hm), read?_cons (.sign hs),
        read?_cons (.exponent (ht.2 c (by simp))),
        read?_digits (.inr (.inr rfl)) fun d hd => ht.2 d (List.mem_cons_of_mem c hd)]
      simp

theorem read?_fraction (ht : Fraction t) (hp : p = .zero ∨ p = .whole)
    (spelling : List Char) :
    ∃ q : Phase, (q = .zero ∨ q = .whole ∨ q = .fraction) ∧
      read? ⟨p, spelling⟩ t = some ⟨q, t.reverse ++ spelling⟩ := by
  cases ht with
  | absent => exact ⟨p, by rcases hp with rfl | rfl <;> simp, rfl⟩
  | present hds =>
      refine ⟨.fraction, by simp, ?_⟩
      obtain ⟨c, rest, rfl⟩ := List.exists_cons_of_ne_nil hds.1
      rw [read?_cons (.point hp), read?_cons (.fraction (hds.2 c (by simp))),
        read?_digits (.inr (.inl rfl)) fun d hd => hds.2 d (List.mem_cons_of_mem c hd)]
      simp

theorem read?_whole (ht : Whole t) (hp : p = .start ∨ p = .minus) (spelling : List Char) :
    ∃ q : Phase, (q = .zero ∨ q = .whole) ∧
      read? ⟨p, spelling⟩ t = some ⟨q, t.reverse ++ spelling⟩ := by
  cases ht with
  | zero => exact ⟨.zero, by simp, read?_cons (.zero hp) spelling []⟩
  | digits hc hz hds =>
      refine ⟨.whole, by simp, ?_⟩
      rw [read?_cons (.lead hp hc hz), read?_digits (.inl rfl) hds]
      simp

theorem read?_minus (ht : Minus t) :
    ∃ q : Phase, (q = .start ∨ q = .minus) ∧ read? empty t = some ⟨q, t.reverse⟩ := by
  cases ht with
  | absent => exact ⟨.start, by simp, rfl⟩
  | present => exact ⟨.minus, by simp, rfl⟩

theorem read?_number {told : List Char} (ht : Number t told) :
    ∃ q : Phase, q.isComplete = true ∧ read? empty t = some ⟨q, told.reverse⟩ := by
  obtain ⟨hm, hw, hf, hx⟩ := ht
  obtain ⟨q₁, hq, hr₁⟩ := read?_minus hm
  obtain ⟨q₂, hq, hr₂⟩ := read?_whole hw hq _
  obtain ⟨q₃, hq, hr₃⟩ := read?_fraction hf hq _
  obtain ⟨q, hq, hr⟩ := read?_exponent hx hq _
  refine ⟨q, hq, ?_⟩
  rw [List.append_assoc, List.append_assoc, read?_append_of_eq hr₁, read?_append_of_eq hr₂,
    read?_append_of_eq hr₃, hr]
  simp

end Complete

-- The numbers of the grammar are what a numeral reads from its start to a complete phase.
theorem number_iff_read? {t told : List Char} :
    Number t told ↔
      ∃ n, read? empty t = some n ∧ n.phase.isComplete = true ∧ n.spelling = told.reverse := by
  constructor
  · intro h
    obtain ⟨q, hq, hr⟩ := read?_number h
    exact ⟨_, hr, hq, rfl⟩
  · rintro ⟨n, hr, hn, hs⟩
    obtain ⟨told', ht, he⟩ := tail_of_read? hr hn
    have hsame : told' = told := by simpa [empty, he] using hs
    exact hsame ▸ ht

theorem scan_eq_ok_iff {all : List UInt8} {n : Numeral} {offset : Nat} {t : List Char}
    {s : String} :
    scan all n offset t = .ok s ↔
      ∃ m, n.read? t = some m ∧ m.phase.isComplete = true ∧ s = m.text := by
  induction t generalizing n offset with
  | nil =>
      simp only [scan, finish, read?, Option.some.injEq, exists_eq_left']
      cases n.phase.isComplete <;> simp [eq_comm]
  | cons c rest ih =>
      simp only [scan, read?]
      cases n.step c with
      | more next => exact ih
      | done => simp
      | invalid => simp

-- A text that must be a number is one from its first to its last character.
theorem ofText_eq_ok_iff {text spelling : String} :
    ofText text = .ok spelling ↔ Number text.toList spelling.toList := by
  rw [ofText, scan_eq_ok_iff, number_iff_read?]
  constructor
  · rintro ⟨n, hr, hn, rfl⟩
    exact ⟨n, hr, hn, by simp [Numeral.text]⟩
  · rintro ⟨n, hr, hn, hs⟩
    exact ⟨n, hr, hn, by simp [Numeral.text, hs]⟩

end Numeral

end ProbeReport.Json
