import ProbeReport.Text.Search

-- What stays when a text is taken apart, looked up piece by piece, and put together again.
namespace ProbeReport.Text

-- A fixed text is checked character by character.
theorem forall_mem_of_all {p : Char → Prop} [DecidablePred p] {s : List Char}
    (h : (s.all fun c => decide (p c)) = true) : ∀ c ∈ s, p c :=
  fun c hc => of_decide_eq_true (List.all_eq_true.1 h c hc)

-- And what is said of ASCII is checked for each of its characters.
theorem exists_ofNat {c : Char} (h : c.toNat < 0x80) : ∃ n : Fin 128, c = Char.ofNat n :=
  ⟨⟨c.toNat, h⟩, (Char.ofNat_toNat c).symm⟩

-- Every item has an image, and these are the images.
theorem mapM_eq_some_iff {α β : Type} {f : α → Option β} {l : List α} {r : List β} :
    l.mapM f = some r ↔ l.map f = r.map some := by
  induction l generalizing r with
  | nil => cases r <;> simp
  | cons a l ih =>
      simp only [List.mapM_cons, Option.bind_eq_bind, Option.bind_eq_some_iff, Option.pure_def,
        Option.some.injEq, List.map_cons]
      constructor
      · rintro ⟨b, hb, rest, hr, rfl⟩
        rw [hb, ih.1 hr, List.map_cons]
      · intro h
        obtain ⟨b, rest, rfl, hb, hr⟩ := List.map_eq_cons_iff.1 h.symm
        exact ⟨b, hb.symm, rest, ih.2 hr.symm, rfl⟩

theorem exists_of_mapM {α β : Type} {f : α → Option β} {l : List α} {r : List β} {a : α}
    (h : l.mapM f = some r) (ha : a ∈ l) : ∃ b ∈ r, f a = some b := by
  have hm := List.mem_map_of_mem (f := f) ha
  rw [mapM_eq_some_iff.1 h, List.mem_map] at hm
  obtain ⟨b, hb, he⟩ := hm
  exact ⟨b, hb, he.symm⟩

theorem mapM_eq_ok {ε α β : Type} {f : α → Except ε β} {l : List α} {r : List β}
    (h : l.map f = r.map .ok) : l.mapM f = .ok r := by
  induction l generalizing r with
  | nil =>
      rw [List.map_eq_nil_iff.1 h.symm]
      rfl
  | cons a l ih =>
      obtain ⟨b, rest, rfl, hb, hr⟩ := List.map_eq_cons_iff.1 h.symm
      rw [List.mapM_cons, ← hb, ih hr.symm]
      rfl

-- The first item without an image spoils all.
theorem mapM_eq_error_iff {ε α β : Type} {f : α → Except ε β} {l : List α} {e : ε} :
    l.mapM f = .error e ↔ ∃ before a after, l = before ++ a :: after ∧
      (∀ b ∈ before, ∃ image, f b = .ok image) ∧ f a = .error e := by
  induction l with
  | nil => simp [pure, Except.pure]
  | cons a l ih =>
      rw [List.mapM_cons]
      cases ha : f a with
      | error e' =>
          have hfirst : (Except.error e' >>= fun b => do
              let bs ← l.mapM f
              return b :: bs) = Except.error e ↔ e' = e := by simp [bind, Except.bind]
          rw [hfirst]
          constructor
          · rintro rfl
            exact ⟨[], a, l, rfl, List.forall_mem_nil _, ha⟩
          · rintro ⟨before, b, after, hl, hb, he⟩
            cases before with
            | nil =>
                obtain ⟨rfl, -⟩ := List.cons.inj hl
                exact Except.error.inj (ha.symm.trans he)
            | cons c before =>
                obtain ⟨rfl, -⟩ := List.cons.inj hl
                obtain ⟨image, hi⟩ := hb a List.mem_cons_self
                rw [ha] at hi
                cases hi
      | ok image =>
          have hrest : (Except.ok image >>= fun b => do
              let bs ← l.mapM f
              return b :: bs) = Except.error e ↔ l.mapM f = .error e := by
            cases l.mapM f <;> simp [bind, Except.bind, pure, Except.pure]
          rw [hrest, ih]
          constructor
          · rintro ⟨before, b, after, rfl, hb, he⟩
            exact ⟨a :: before, b, after, rfl, List.forall_mem_cons.2 ⟨⟨image, ha⟩, hb⟩, he⟩
          · rintro ⟨before, b, after, hl, hb, he⟩
            cases before with
            | nil =>
                obtain ⟨rfl, -⟩ := List.cons.inj hl
                rw [ha] at he
                cases he
            | cons c before =>
                obtain ⟨-, rfl⟩ := List.cons.inj hl
                exact ⟨before, b, after, rfl, fun d hd => hb d (List.mem_cons_of_mem c hd), he⟩

-- Whichever item is the first without an image, it is this one or one before it.
theorem exists_error_of_mapM {ε α β : Type} {f : α → Except ε β} {p : ε → Prop}
    {before after : List α} {a : α} (ha : ∃ e, f a = .error e)
    (hp : ∀ b ∈ before ++ [a], ∀ e, f b = .error e → p e) :
    ∃ e, (before ++ a :: after).mapM f = .error e ∧ p e := by
  induction before with
  | nil =>
      obtain ⟨e, he⟩ := ha
      refine ⟨e, mapM_eq_error_iff.2 ⟨[], a, after, rfl, List.forall_mem_nil _, he⟩, ?_⟩
      exact hp a List.mem_cons_self e he
  | cons b before ih =>
      obtain ⟨e, he, hpe⟩ := ih fun c hc => hp c (List.mem_cons_of_mem b hc)
      cases hb : f b with
      | error e' =>
          refine ⟨e', mapM_eq_error_iff.2 ⟨[], b, _, rfl, List.forall_mem_nil _, hb⟩, ?_⟩
          exact hp b List.mem_cons_self e' hb
      | ok image =>
          rw [mapM_eq_error_iff] at he
          obtain ⟨front, c, back, hl, hf, hc⟩ := he
          refine ⟨e, mapM_eq_error_iff.2 ⟨b :: front, c, back, congrArg (b :: ·) hl, ?_, hc⟩, hpe⟩
          exact List.forall_mem_cons.2 ⟨⟨image, hb⟩, hf⟩

-- What is no separator is in one of the pieces.
theorem mem_splitAt {separator c : Char} {s : List Char} (hc : c ≠ separator) (h : c ∈ s) :
    ∃ piece ∈ splitAt separator s, c ∈ piece := by
  induction s with
  | nil => cases h
  | cons d s ih =>
      rw [splitAt]
      split
      · rename_i hd
        obtain ⟨piece, hp, hm⟩ := ih ((List.mem_cons.1 h).resolve_left fun he => hc (he.trans hd))
        exact ⟨piece, List.mem_cons_of_mem _ hp, hm⟩
      · split
        · rename_i he
          rw [List.mem_cons] at h
          obtain rfl | hs := h
          · exact ⟨[c], List.mem_singleton_self _, List.mem_singleton_self _⟩
          · obtain ⟨piece, hp, -⟩ := ih hs
            rw [he] at hp
            cases hp
        · rename_i first more he
          rw [he] at ih
          rw [List.mem_cons] at h
          obtain rfl | hs := h
          · exact ⟨c :: first, List.mem_cons_self, List.mem_cons_self⟩
          · obtain ⟨piece, hp, hm⟩ := ih hs
            rw [List.mem_cons] at hp
            obtain rfl | hp := hp
            · exact ⟨d :: piece, List.mem_cons_self, List.mem_cons_of_mem _ hm⟩
            · exact ⟨piece, List.mem_cons_of_mem _ hp, hm⟩

theorem mem_intercalate {separator piece : List Char} {c : Char} {pieces : List (List Char)}
    (hp : piece ∈ pieces) (hc : c ∈ piece) : c ∈ separator.intercalate pieces := by
  induction pieces with
  | nil => cases hp
  | cons first more ih =>
      cases more with
      | nil =>
          rw [List.mem_singleton] at hp
          simpa [List.intercalate, hp] using hc
      | cons next rest =>
          rw [List.intercalate, List.intersperse_cons_cons, List.flatten_cons, List.flatten_cons,
            List.mem_append, List.mem_append]
          rw [List.mem_cons] at hp
          obtain rfl | hp := hp
          · exact .inl hc
          · exact .inr (.inr (ih hp))

theorem forall_mem_intercalate {p : Char → Prop} {separator : List Char}
    {pieces : List (List Char)} (hs : ∀ c ∈ separator, p c)
    (hp : ∀ piece ∈ pieces, ∀ c ∈ piece, p c) : ∀ c ∈ separator.intercalate pieces, p c := by
  induction pieces with
  | nil => simp
  | cons first more ih =>
      have hfirst := hp first List.mem_cons_self
      have hmore := ih fun piece hm => hp piece (List.mem_cons_of_mem _ hm)
      intro c hc
      cases more with
      | nil =>
          rw [List.intercalate_singleton] at hc
          exact hfirst c hc
      | cons next rest =>
          rw [List.intercalate_cons_cons, List.mem_append, List.mem_append] at hc
          obtain (hc | hc) | hc := hc
          · exact hfirst c hc
          · exact hs c hc
          · exact hmore c hc

-- What is trimmed off stands at the two ends, and nothing of the kind is left there.
theorem exists_trim (p : Char → Bool) (s : List Char) :
    ∃ front back, s = front ++ trim p s ++ back ∧ (∀ c ∈ front, p c = true) ∧
      (∀ c ∈ back, p c = true) ∧ (∀ c ∈ (trim p s).head?, p c = false) ∧
      ∀ c ∈ (trim p s).getLast?, p c = false := by
  have hlast : ∀ c ∈ (trim p s).getLast?, p c = false := by
    intro c hc
    rw [trim, List.getLast?_reverse] at hc
    have hn := List.head?_dropWhile_not p (s.dropWhile p).reverse
    rw [Option.mem_def.1 hc] at hn
    simpa using hn
  have hback : s.dropWhile p = trim p s ++ ((s.dropWhile p).reverse.takeWhile p).reverse := by
    rw [trim, ← List.reverse_append, List.takeWhile_append_dropWhile, List.reverse_reverse]
  refine ⟨s.takeWhile p, ((s.dropWhile p).reverse.takeWhile p).reverse, ?_, ?_, ?_, ?_, hlast⟩
  · rw [List.append_assoc, ← hback, List.takeWhile_append_dropWhile]
  · exact List.all_eq_true.1 List.all_takeWhile
  · intro c hc
    exact List.all_eq_true.1 List.all_takeWhile c (List.mem_reverse.1 hc)
  · intro c hc
    have hn := List.head?_dropWhile_not p s
    rw [hback, List.head?_append, Option.mem_def.1 hc, Option.some_or] at hn
    simpa using hn

theorem dropWhile_eq_self {p : Char → Bool} {s : List Char} (h : ∀ c ∈ s.head?, p c = false) :
    s.dropWhile p = s := by
  cases s with
  | nil => rfl
  | cons c s => exact List.dropWhile_cons_of_neg (by simp [h c rfl])

-- What stands between blanks, say, is all that stays.
theorem trim_append {p : Char → Bool} {front kept back : List Char}
    (hp : ∀ c ∈ front ++ back, p c = true) (hh : ∀ c ∈ kept.head?, p c = false)
    (ht : ∀ c ∈ kept.getLast?, p c = false) : trim p (front ++ kept ++ back) = kept := by
  have hfront : ∀ c ∈ front, p c = true := fun c hc => hp c (List.mem_append_left _ hc)
  have hback : ∀ c ∈ back.reverse, p c = true :=
    fun c hc => hp c (List.mem_append_right _ (List.mem_reverse.1 hc))
  rw [trim, List.append_assoc, List.dropWhile_append_of_pos hfront]
  cases kept with
  | nil =>
      have hb : (back ++ []).dropWhile p = [] :=
        List.dropWhile_append_of_pos fun c hc => hback c (List.mem_reverse.2 hc)
      rw [List.append_nil] at hb
      rw [List.nil_append, hb]
      rfl
  | cons c kept =>
      rw [List.cons_append, List.dropWhile_cons_of_neg (by simp [hh c rfl]), ← List.cons_append,
        List.reverse_append, List.dropWhile_append_of_pos hback, dropWhile_eq_self,
        List.reverse_reverse]
      rwa [List.head?_reverse]

-- Of a text that begins and goes on with something else, only an end is trimmed off.
theorem exists_trim_append {p : Char → Bool} {front back : List Char} {c : Char}
    (hf : ∀ d ∈ front.head?, p d = false) (hc : p c = false) :
    ∃ kept, kept <+: back ∧ trim p (front ++ c :: back) = front ++ c :: kept := by
  refine ⟨(back.reverse.dropWhile p).reverse, ?_, ?_⟩
  · rw [← List.reverse_suffix, List.reverse_reverse]
    exact List.dropWhile_suffix p
  · have hfront : (front ++ c :: back).dropWhile p = front ++ c :: back := by
      refine dropWhile_eq_self fun d hd => ?_
      cases front with
      | nil => exact Option.some.inj hd ▸ hc
      | cons e front => exact hf d hd
    have hback : (back.reverse ++ c :: front.reverse).dropWhile p =
        back.reverse.dropWhile p ++ c :: front.reverse := by
      rw [List.dropWhile_append, List.dropWhile_cons_of_neg (by simp [hc])]
      split
      · rename_i he
        rw [List.isEmpty_iff.1 he, List.nil_append]
      · rfl
    rw [trim, hfront, List.reverse_append, List.reverse_cons, List.append_assoc,
      List.singleton_append, hback]
    simp

end ProbeReport.Text
