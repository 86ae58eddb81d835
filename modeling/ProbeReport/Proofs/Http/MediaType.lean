import ProbeReport.Http.MediaType

-- What a content type is and which parameters it has, told without a reader.
namespace ProbeReport.Http.MediaType

def IsWord (t : List Char) : Prop := t ≠ [] ∧ ∀ c ∈ t, isToken c = true

def AreBlanks (t : List Char) : Prop := ∀ c ∈ t, c = ' '

-- A value without quotes, or one between quotes that may have blanks behind it. The character
-- behind the first quote always counts, even when it is a quote as well.
inductive Spelled : List Char → List Char → Prop where
  | word {t : List Char} : IsWord t → Spelled t t
  | quoted {c : Char} {t blanks : List Char} :
      isQuotable c = true → (∀ d ∈ t, isQuotable d = true ∧ d ≠ '"') → AreBlanks blanks →
      Spelled ('"' :: c :: t ++ '"' :: blanks) (c :: t)

-- What stands behind a semicolon. Only the last value may be missing.
inductive Listed : List Char → Parameters → Prop where
  | nothing {blanks : List Char} : AreBlanks blanks → Listed blanks []
  | last {blanks name t value : List Char} :
      AreBlanks blanks → IsWord name → Spelled t value →
      Listed (blanks ++ name ++ '=' :: t) [(String.ofList name, String.ofList value)]
  | empty {blanks name : List Char} :
      AreBlanks blanks → IsWord name → Listed (blanks ++ name ++ ['=']) [(String.ofList name, "")]
  | more {blanks name t value u : List Char} {rest : Parameters} :
      AreBlanks blanks → IsWord name → Spelled t value → Listed u rest →
      Listed (blanks ++ name ++ '=' :: t ++ ';' :: u)
        ((String.ofList name, String.ofList value) :: rest)

-- A content type and its parameters. The subtype may only be missing when there are none.
inductive Reads : List Char → Parameters → Prop where
  | bare {type subtype : List Char} :
      IsWord type → (∀ c ∈ subtype, isToken c = true) → Reads (type ++ '/' :: subtype) []
  | full {type subtype t : List Char} {parameters : Parameters} :
      IsWord type → IsWord subtype → Listed t parameters →
      Reads (type ++ '/' :: subtype ++ ';' :: t) parameters

namespace Reading

-- What a reading comes to with the rest of a text.
def result? (r : Reading) (s : List Char) : Option Parameters := (s.foldlM step r).bind finish

theorem result?_nil (r : Reading) : r.result? [] = r.finish := rfl

theorem result?_cons (r : Reading) (c : Char) (s : List Char) :
    r.result? (c :: s) = (r.step c).bind (·.result? s) := by
  rw [result?, List.foldlM_cons, Option.bind_eq_bind, Option.bind_assoc]
  rfl

theorem result?_of_step {r next : Reading} {c : Char} (h : r.step c = some next) (s : List Char) :
    r.result? (c :: s) = next.result? s := by
  rw [result?_cons, h]
  rfl

theorem exists_step {r : Reading} {c : Char} {s : List Char} {parameters : Parameters}
    (h : r.result? (c :: s) = some parameters) :
    ∃ next, r.step c = some next ∧ next.result? s = some parameters := by
  rwa [result?_cons, Option.bind_eq_some_iff] at h

-- A place that keeps characters of one kind.
theorem result?_span (place : List Char → Place) (p : Char → Bool) {done : Parameters}
    (hp : ∀ chars c, p c = true →
      step ⟨place chars, done⟩ c = some ⟨place (c :: chars), done⟩)
    {t : List Char} (ht : ∀ c ∈ t, p c = true) (chars s : List Char) :
    result? ⟨place chars, done⟩ (t ++ s) = result? ⟨place (t.reverse ++ chars), done⟩ s := by
  induction t generalizing chars with
  | nil => rfl
  | cons c t ih =>
      obtain ⟨hc, ht⟩ := List.forall_mem_cons.1 ht
      rw [List.cons_append, result?_of_step (hp chars c hc), ih ht, List.reverse_cons,
        List.append_assoc]
      rfl

section Spans

variable {done : Parameters} {t : List Char}

theorem result?_type (ht : ∀ c ∈ t, isToken c = true) (s : List Char) :
    result? ⟨.type false, done⟩ (t ++ s) = result? ⟨.type false, done⟩ s :=
  result?_span (fun _ => .type false) isToken (fun _ c hc => by simp [step, goTo, hc]) ht [] s

theorem result?_subtype (ht : ∀ c ∈ t, isToken c = true) (s : List Char) :
    result? ⟨.subtype false, done⟩ (t ++ s) = result? ⟨.subtype false, done⟩ s :=
  result?_span (fun _ => .subtype false) isToken (fun _ c hc => by simp [step, goTo, hc]) ht [] s

theorem result?_name (ht : ∀ c ∈ t, isToken c = true) (chars s : List Char) :
    result? ⟨.name chars, done⟩ (t ++ s) = result? ⟨.name (t.reverse ++ chars), done⟩ s :=
  result?_span .name isToken (fun _ c hc => by simp [step, goTo, hc]) ht chars s

theorem result?_value (ht : ∀ c ∈ t, isToken c = true) (name : String) (chars s : List Char) :
    result? ⟨.value name chars, done⟩ (t ++ s) =
      result? ⟨.value name (t.reverse ++ chars), done⟩ s :=
  result?_span (.value name) isToken (fun _ c hc => by simp [step, goTo, hc]) ht chars s

theorem result?_quoted (ht : ∀ c ∈ t, isQuotable c = true ∧ c ≠ '"') (name : String)
    (chars s : List Char) :
    result? ⟨.quoted name chars, done⟩ (t ++ s) =
      result? ⟨.quoted name (t.reverse ++ chars), done⟩ s :=
  result?_span (.quoted name) (fun c => isQuotable c && c ≠ '"')
    (fun _ c hc => by
      rw [Bool.and_eq_true, decide_eq_true_eq] at hc
      simp [step, goTo, hc])
    (fun c hc => by simpa using ht c hc) chars s

theorem result?_behindQuotes (ht : AreBlanks t) (s : List Char) :
    result? ⟨.behindQuotes, done⟩ (t ++ s) = result? ⟨.behindQuotes, done⟩ s :=
  result?_span (fun _ => .behindQuotes) (· = ' ')
    (fun _ c hc => by
      rw [of_decide_eq_true hc]
      rfl)
    (fun c hc => decide_eq_true (ht c hc)) [] s

theorem result?_blanks (ht : AreBlanks t) (s : List Char) :
    result? ⟨.name [], done⟩ (t ++ s) = result? ⟨.name [], done⟩ s :=
  result?_span (fun _ => .name []) (· = ' ')
    (fun _ c hc => by
      rw [of_decide_eq_true hc]
      rfl)
    (fun c hc => decide_eq_true (ht c hc)) [] s

end Spans

section Complete

variable {done : Parameters} {t name value : List Char}

theorem textOf_reverse (t : List Char) : textOf t.reverse = String.ofList t := by
  rw [textOf, List.reverse_reverse]

theorem result?_nameOf {blanks : List Char} (hb : AreBlanks blanks) (hn : IsWord name)
    (s : List Char) :
    result? ⟨.name [], done⟩ (blanks ++ name ++ '=' :: s) =
      result? ⟨.value (String.ofList name) [], done⟩ s := by
  have hstep : step ⟨.name name.reverse, done⟩ '=' =
      some ⟨.value (String.ofList name) [], done⟩ := by
    have ht : isToken '=' = false := by decide
    have hne : name.reverse ≠ [] := List.reverse_ne_nil_iff.2 hn.1
    simp [step, goTo, ht, hne, textOf_reverse]
  rw [List.append_assoc, result?_blanks hb, result?_name hn.2, List.append_nil,
    result?_of_step hstep]

theorem result?_quotes {c : Char} {blanks : List Char} (hc : isQuotable c = true)
    (ht : ∀ d ∈ t, isQuotable d = true ∧ d ≠ '"') (hb : AreBlanks blanks) (name : String)
    (s : List Char) :
    result? ⟨.value name [], done⟩ ('"' :: c :: t ++ '"' :: blanks ++ s) =
      result? ⟨.behindQuotes, (name, String.ofList (c :: t)) :: done⟩ s := by
  have hopen : step ⟨.value name [], done⟩ '"' = some ⟨.quoted name [], done⟩ := by
    have hq : isToken '"' = false := by decide
    simp [step, goTo, hq]
  have hfirst : step ⟨.quoted name [], done⟩ c = some ⟨.quoted name [c], done⟩ := by
    simp [step, goTo, hc]
  have hclose : step ⟨.quoted name (t.reverse ++ [c]), done⟩ '"' =
      some ⟨.behindQuotes, (name, String.ofList (c :: t)) :: done⟩ := by
    have htext : textOf (t.reverse ++ [c]) = String.ofList (c :: t) := by
      rw [← List.reverse_cons, textOf_reverse]
    simp [step, add, htext]
  simp only [List.cons_append, List.append_assoc]
  rw [result?_of_step hopen, result?_of_step hfirst, result?_quoted ht, result?_of_step hclose,
    result?_behindQuotes hb]

theorem result?_spelled (h : Spelled t value) (name : String) :
    result? ⟨.value name [], done⟩ t = some ((name, String.ofList value) :: done).reverse ∧
      ∀ s, result? ⟨.value name [], done⟩ (t ++ ';' :: s) =
        result? ⟨.name [], (name, String.ofList value) :: done⟩ s := by
  cases h with
  | word hw =>
      have hspan (s : List Char) : result? ⟨.value name [], done⟩ (t ++ s) =
          result? ⟨.value name t.reverse, done⟩ s := by
        rw [result?_value hw.2, List.append_nil]
      have hstep : step ⟨.value name t.reverse, done⟩ ';' =
          some ⟨.name [], (name, String.ofList t) :: done⟩ := by
        have ht : isToken ';' = false := by decide
        have hne : t.reverse ≠ [] := List.reverse_ne_nil_iff.2 hw.1
        simp [step, add, ht, hne, textOf_reverse]
      constructor
      · have hend := hspan []
        rw [List.append_nil] at hend
        rw [hend, ← textOf_reverse t]
        rfl
      · intro s
        rw [hspan, result?_of_step hstep]
  | @quoted c t blanks hc ht hb =>
      constructor
      · have hend : result? ⟨.value name [], done⟩ ('"' :: c :: t ++ '"' :: blanks) =
            result? ⟨.behindQuotes, (name, String.ofList (c :: t)) :: done⟩ [] := by
          rw [← result?_quotes hc ht hb, List.append_nil]
        exact hend
      · intro s
        rw [result?_quotes hc ht hb, result?_of_step rfl]

theorem result?_listed {parameters : Parameters} (h : Listed t parameters) :
    result? ⟨.name [], done⟩ t = some (done.reverse ++ parameters) := by
  induction h generalizing done with
  | @nothing blanks hb =>
      have hend : result? ⟨.name [], done⟩ blanks = result? ⟨.name [], done⟩ [] := by
        rw [← result?_blanks hb [], List.append_nil]
      rw [hend, List.append_nil]
      rfl
  | last hb hn hs => rw [result?_nameOf hb hn, (result?_spelled hs _).1, List.reverse_cons]
  | empty hb hn =>
      rw [result?_nameOf hb hn, result?_nil]
      exact congrArg some List.reverse_cons
  | more hb hn hs _ ih =>
      rw [List.append_assoc, List.cons_append, result?_nameOf hb hn, (result?_spelled hs _).2, ih,
        List.reverse_cons, List.append_assoc]
      rfl

-- The first character of a word is what makes it one.
theorem result?_typeOf {type : List Char} (h : IsWord type) (s : List Char) :
    result? ⟨.type true, []⟩ (type ++ '/' :: s) = result? ⟨.subtype true, []⟩ s := by
  obtain ⟨c, more, rfl⟩ := List.exists_cons_of_ne_nil h.1
  obtain ⟨hc, hm⟩ := List.forall_mem_cons.1 h.2
  have hfirst : step ⟨.type true, []⟩ c = some ⟨.type false, []⟩ := by simp [step, goTo, hc]
  rw [List.cons_append, result?_of_step hfirst, result?_type hm, result?_of_step rfl]

theorem result?_subtypeOf {subtype : List Char} (h : IsWord subtype) (s : List Char) :
    result? ⟨.subtype true, []⟩ (subtype ++ s) = result? ⟨.subtype false, []⟩ s := by
  obtain ⟨c, more, rfl⟩ := List.exists_cons_of_ne_nil h.1
  obtain ⟨hc, hm⟩ := List.forall_mem_cons.1 h.2
  have hfirst : step ⟨.subtype true, []⟩ c = some ⟨.subtype false, []⟩ := by
    simp [step, goTo, hc]
  rw [List.cons_append, result?_of_step hfirst, result?_subtype hm]

theorem result?_reads {parameters : Parameters} (h : Reads t parameters) :
    result? ⟨.type true, []⟩ t = some parameters := by
  cases h with
  | @bare _ subtype ht hs =>
      rw [result?_typeOf ht]
      by_cases hn : subtype = []
      · rw [hn]
        rfl
      · have hend := result?_subtypeOf ⟨hn, hs⟩ []
        rw [List.append_nil] at hend
        rw [hend]
        rfl
  | full ht hs hl =>
      rw [List.append_assoc, List.cons_append, result?_typeOf ht, result?_subtypeOf hs,
        result?_of_step rfl, result?_listed hl]
      rfl

end Complete

section Sound

variable {done parameters : Parameters}

theorem exists_span (p : Char → Bool) (s : List Char) :
    ∃ t u, s = t ++ u ∧ (∀ c ∈ t, p c = true) ∧ ∀ c ∈ u.head?, p c = false := by
  refine ⟨s.takeWhile p, s.dropWhile p, List.takeWhile_append_dropWhile.symm,
    List.all_eq_true.1 List.all_takeWhile, fun c hc => ?_⟩
  have hn := List.head?_dropWhile_not p s
  rw [Option.mem_def.1 hc] at hn
  simpa using hn

theorem of_result?_behindQuotes {s : List Char}
    (h : result? ⟨.behindQuotes, done⟩ s = some parameters) :
    ∃ blanks, AreBlanks blanks ∧ (s = blanks ∧ parameters = done.reverse ∨
      ∃ u, s = blanks ++ ';' :: u ∧ result? ⟨.name [], done⟩ u = some parameters) := by
  obtain ⟨blanks, u, rfl, hb, hu⟩ := exists_span (· = ' ') s
  have hb : AreBlanks blanks := fun c hc => of_decide_eq_true (hb c hc)
  rw [result?_behindQuotes hb] at h
  refine ⟨blanks, hb, ?_⟩
  cases u with
  | nil =>
      cases h
      exact .inl ⟨List.append_nil _, rfl⟩
  | cons c rest =>
      have hc : c ≠ ' ' := of_decide_eq_false (hu c rfl)
      obtain ⟨next, hs, hr⟩ := exists_step h
      simp only [step, hc, if_false] at hs
      split at hs
      · rename_i hsemi
        cases hs
        exact .inr ⟨rest, by rw [hsemi], hr⟩
      · cases hs

-- Behind the first character of a quoted value.
theorem of_result?_quoted {name : String} {c : Char} {s : List Char}
    (h : result? ⟨.quoted name [c], done⟩ s = some parameters) :
    ∃ t u, s = t ++ '"' :: u ∧ (∀ d ∈ t, isQuotable d = true ∧ d ≠ '"') ∧
      result? ⟨.behindQuotes, (name, String.ofList (c :: t)) :: done⟩ u = some parameters := by
  obtain ⟨t, u, rfl, ht, hu⟩ := exists_span (fun d => isQuotable d && d ≠ '"') s
  have ht : ∀ d ∈ t, isQuotable d = true ∧ d ≠ '"' := fun d hd => by simpa using ht d hd
  rw [result?_quoted ht] at h
  cases u with
  | nil => cases h
  | cons d rest =>
      obtain ⟨next, hs, hr⟩ := exists_step h
      by_cases hd : d = '"'
      · subst hd
        have hclose : step ⟨.quoted name (t.reverse ++ [c]), done⟩ '"' =
            some ⟨.behindQuotes, (name, String.ofList (c :: t)) :: done⟩ := by
          rw [← textOf_reverse (c :: t), List.reverse_cons]
          simp [step, add]
        rw [hclose] at hs
        cases hs
        exact ⟨t, rest, rfl, ht, hr⟩
      · have hq := hu d rfl
        simp [step, hd] at hs
        simp [hd, hs.1] at hq

theorem of_result?_openQuote {name : String} {s : List Char}
    (h : result? ⟨.quoted name [], done⟩ s = some parameters) :
    ∃ t value, Spelled ('"' :: t) value ∧
      (s = t ∧ parameters = ((name, String.ofList value) :: done).reverse ∨
        ∃ u, s = t ++ ';' :: u ∧
          result? ⟨.name [], (name, String.ofList value) :: done⟩ u = some parameters) := by
  cases s with
  | nil => cases h
  | cons c rest =>
      obtain ⟨next, hs, hr⟩ := exists_step h
      have hq : isQuotable c = true ∧ next = ⟨.quoted name [c], done⟩ := by
        simp only [step, ne_eq, not_true_eq_false, and_false, if_false,
          Option.ite_none_right_eq_some, goTo, Option.some.injEq] at hs
        exact ⟨hs.1, hs.2.symm⟩
      obtain ⟨hc, rfl⟩ := hq
      obtain ⟨t, u, rfl, ht, hu⟩ := of_result?_quoted hr
      obtain ⟨blanks, hb, ⟨rfl, hp⟩ | ⟨v, rfl, hv⟩⟩ := of_result?_behindQuotes hu
      · exact ⟨_, _, .quoted hc ht hb, .inl ⟨rfl, hp⟩⟩
      · refine ⟨_, _, .quoted hc ht hb, .inr ⟨v, ?_, hv⟩⟩
        simp

theorem of_result?_value {name : String} {s : List Char}
    (h : result? ⟨.value name [], done⟩ s = some parameters) :
    s = [] ∧ parameters = ((name, "") :: done).reverse ∨
      ∃ t value, Spelled t value ∧
        (s = t ∧ parameters = ((name, String.ofList value) :: done).reverse ∨
          ∃ u, s = t ++ ';' :: u ∧
            result? ⟨.name [], (name, String.ofList value) :: done⟩ u = some parameters) := by
  obtain ⟨t, u, rfl, ht, hu⟩ := exists_span isToken s
  rw [result?_value ht, List.append_nil] at h
  cases u with
  | nil =>
      have hp : parameters = ((name, String.ofList t) :: done).reverse := by
        rw [← textOf_reverse t]
        exact (Option.some.inj h).symm
      by_cases hn : t = []
      · subst hn
        exact .inl ⟨rfl, hp⟩
      · exact .inr ⟨t, t, .word ⟨hn, ht⟩, .inl ⟨List.append_nil t, hp⟩⟩
  | cons c rest =>
      have hc : isToken c = false := hu c rfl
      obtain ⟨next, hs, hr⟩ := exists_step h
      simp only [step, hc, Bool.false_eq_true, if_false, List.reverse_eq_nil_iff] at hs
      refine .inr ?_
      split at hs
      · rename_i hq
        obtain ⟨rfl, rfl⟩ := hq
        cases hs
        obtain ⟨t, value, ht, ⟨rfl, hp⟩ | ⟨u, rfl, hv⟩⟩ := of_result?_openQuote hr
        · exact ⟨_, value, ht, .inl ⟨rfl, hp⟩⟩
        · exact ⟨_, value, ht, .inr ⟨u, rfl, hv⟩⟩
      · split at hs
        · rename_i hsemi
          obtain ⟨rfl, hn⟩ := hsemi
          cases hs
          refine ⟨t, t, .word ⟨fun he => hn (by simp [he]), ht⟩, .inr ⟨rest, rfl, ?_⟩⟩
          rw [← textOf_reverse t]
          exact hr
        · cases hs

theorem of_result?_nameOf {s : List Char} (h : result? ⟨.name [], done⟩ s = some parameters) :
    ∃ blanks, AreBlanks blanks ∧ (s = blanks ∧ parameters = done.reverse ∨
      ∃ name u, IsWord name ∧ s = blanks ++ name ++ '=' :: u ∧
        result? ⟨.value (String.ofList name) [], done⟩ u = some parameters) := by
  obtain ⟨blanks, u, rfl, hb, hu⟩ := exists_span (· = ' ') s
  have hb : AreBlanks blanks := fun c hc => of_decide_eq_true (hb c hc)
  obtain ⟨name, v, rfl, hn, hv⟩ := exists_span isToken u
  rw [result?_blanks hb, result?_name hn, List.append_nil] at h
  refine ⟨blanks, hb, ?_⟩
  cases v with
  | nil =>
      cases hname : name.reverse with
      | nil =>
          rw [hname] at h
          cases h
          rw [List.reverse_eq_nil_iff.1 hname]
          exact .inl ⟨List.append_nil blanks, rfl⟩
      | cons c more =>
          rw [hname] at h
          cases h
  | cons c rest =>
      have hc : isToken c = false := hv c rfl
      obtain ⟨next, hs, hr⟩ := exists_step h
      simp only [step, hc, Bool.false_eq_true, if_false, List.reverse_eq_nil_iff] at hs
      have hblank : ¬(c = ' ' ∧ name = []) := by
        rintro ⟨rfl, rfl⟩
        exact absurd (hu ' ' rfl) (by decide)
      rw [if_neg hblank] at hs
      split at hs
      · rename_i heq
        obtain ⟨rfl, hne⟩ := heq
        cases hs
        rw [textOf_reverse] at hr
        have hw : IsWord name := ⟨fun he => hne (by simp [he]), hn⟩
        exact .inr ⟨name, rest, hw, (List.append_assoc _ _ _).symm, hr⟩
      · cases hs

-- By induction on the length: what stands behind a semicolon is shorter.
theorem of_result?_listed {s : List Char} (h : result? ⟨.name [], done⟩ s = some parameters) :
    ∃ rest, Listed s rest ∧ parameters = done.reverse ++ rest := by
  induction hl : s.length using Nat.strongRecOn generalizing s done with
  | ind n ih =>
      obtain ⟨blanks, hb, ⟨rfl, hp⟩ | ⟨name, u, hn, rfl, hu⟩⟩ := of_result?_nameOf h
      · exact ⟨[], .nothing hb, by rw [hp, List.append_nil]⟩
      · obtain ⟨rfl, hp⟩ | ⟨t, value, ht, ⟨rfl, hp⟩ | ⟨v, rfl, hv⟩⟩ := of_result?_value hu
        · exact ⟨_, .empty hb hn, by rw [hp, List.reverse_cons]⟩
        · exact ⟨_, .last hb hn ht, by rw [hp, List.reverse_cons]⟩
        · have hlt : v.length < n := by
            simp only [List.length_append, List.length_cons] at hl
            omega
          obtain ⟨more, hm, hp⟩ := ih v.length hlt hv rfl
          rw [← List.cons_append, ← List.append_assoc]
          refine ⟨_, .more hb hn ht hm, ?_⟩
          rw [hp, List.reverse_cons, List.append_assoc]
          rfl

theorem of_result?_subtype {empty : Bool} {s : List Char}
    (h : result? ⟨.subtype empty, []⟩ s = some parameters) :
    ∃ subtype, (∀ c ∈ subtype, isToken c = true) ∧ (s = subtype ∧ parameters = [] ∨
      (subtype = [] → empty = false) ∧
        ∃ t, s = subtype ++ ';' :: t ∧ Listed t parameters) := by
  induction s generalizing empty with
  | nil =>
      cases h
      exact ⟨[], nofun, .inl ⟨rfl, rfl⟩⟩
  | cons c rest ih =>
      obtain ⟨next, hs, hr⟩ := exists_step h
      simp only [step, goTo] at hs
      split at hs
      · rename_i hc
        cases hs
        obtain ⟨subtype, hsub, ⟨rfl, hp⟩ | ⟨-, t, rfl, hl⟩⟩ := ih hr
        · exact ⟨_, List.forall_mem_cons.2 ⟨hc, hsub⟩, .inl ⟨rfl, hp⟩⟩
        · exact ⟨c :: subtype, List.forall_mem_cons.2 ⟨hc, hsub⟩, .inr ⟨nofun, t, rfl, hl⟩⟩
      · split at hs
        · rename_i hsemi
          obtain ⟨rfl, he⟩ := hsemi
          cases hs
          obtain ⟨listed, hl, hp⟩ := of_result?_listed hr
          rw [List.reverse_nil, List.nil_append] at hp
          subst hp
          exact ⟨[], nofun, .inr ⟨fun _ => by simpa using he, rest, rfl, hl⟩⟩
        · cases hs

theorem of_result?_type {empty : Bool} {s : List Char}
    (h : result? ⟨.type empty, []⟩ s = some parameters) :
    ∃ type u, s = type ++ '/' :: u ∧ (∀ c ∈ type, isToken c = true) ∧
      (type = [] → empty = false) ∧ result? ⟨.subtype true, []⟩ u = some parameters := by
  induction s generalizing empty with
  | nil => cases h
  | cons c rest ih =>
      obtain ⟨next, hs, hr⟩ := exists_step h
      simp only [step, goTo] at hs
      split at hs
      · rename_i hc
        cases hs
        obtain ⟨type, u, rfl, ht, -, hu⟩ := ih hr
        exact ⟨c :: type, u, rfl, List.forall_mem_cons.2 ⟨hc, ht⟩, nofun, hu⟩
      · split at hs
        · rename_i hslash
          obtain ⟨rfl, he⟩ := hslash
          cases hs
          exact ⟨[], rest, rfl, nofun, fun _ => by simpa using he, hr⟩
        · cases hs

theorem reads_of_result? {s : List Char} (h : result? ⟨.type true, []⟩ s = some parameters) :
    Reads s parameters := by
  obtain ⟨type, u, rfl, ht, hn, hu⟩ := of_result?_type h
  have hw : IsWord type := ⟨fun he => absurd (hn he) (by decide), ht⟩
  obtain ⟨subtype, hs, ⟨rfl, rfl⟩ | ⟨hm, t, rfl, hl⟩⟩ := of_result?_subtype hu
  · exact .bare hw hs
  · have hr := Reads.full hw ⟨fun he => absurd (hm he) (by decide), hs⟩ hl
    rwa [List.append_assoc] at hr

end Sound

end Reading

theorem parameters?_eq_some_iff {s : String} {parameters : Parameters} :
    parameters? s = some parameters ↔ Reads s.toList parameters :=
  ⟨Reading.reads_of_result?, Reading.result?_reads⟩

-- The name of a parameter does not depend on its case.
def IsCharset (name : String) : Prop := name.toList.map Char.toLower = "charset".toList

-- The label that a content type gives for the charset. Of several the first counts.
def Labels (contentType label : String) : Prop :=
  ∃ before name after, Reads contentType.toList (before ++ (name, label) :: after) ∧
    IsCharset name ∧ ∀ p ∈ before, ¬IsCharset p.1

theorem charset?_eq_some_iff {contentType label : String} :
    charset? contentType = some label ↔ Labels contentType label := by
  have hname (name : String) :
      String.ofList (name.toList.map Char.toLower) = "charset" ↔ IsCharset name := by
    rw [IsCharset, ← String.toList_inj, String.toList_ofList]
  rw [charset?, Option.bind_eq_some_iff, Labels]
  simp only [Option.map_eq_some_iff, parameters?_eq_some_iff, List.find?_eq_some_iff_append,
    decide_eq_true_eq, Bool.not_eq_true', decide_eq_false_iff_not, hname]
  constructor
  · rintro ⟨parameters, hr, ⟨name, label⟩, ⟨hc, before, after, rfl, hb⟩, rfl⟩
    exact ⟨before, name, after, hr, hc, hb⟩
  · rintro ⟨before, name, after, hr, hc, hb⟩
    exact ⟨_, hr, (name, label), ⟨hc, before, after, rfl, hb⟩, rfl⟩

end ProbeReport.Http.MediaType
