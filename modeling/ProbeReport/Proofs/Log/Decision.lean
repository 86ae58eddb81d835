import Mathlib.Data.List.Induction
import ProbeReport.Log.Filter

-- Which directive of a filter decides about a target. What a filter does is said without the order
-- in which its directives are looked at. All of this is about directives that name no fields.
namespace ProbeReport.Log.Filter

def IsPlain (f : Filter) : Prop := ∀ d ∈ f, d.names = []

-- A directive is in force until a later one has its target.
def IsCurrent (f : Filter) (d : Directive) : Prop :=
  ∃ before after, f = before ++ d :: after ∧ ∀ e ∈ after, e.targetText ≠ d.targetText

-- Of the directives in force that cover a target, the one with the longest text decides.
structure Decides (f : Filter) (target : String) (d : Directive) : Prop where
  current : f.IsCurrent d
  covers : d.targetText <+: target.toList
  longest : ∀ e, f.IsCurrent e → e.targetText <+: target.toList →
    e.targetText.length ≤ d.targetText.length

-- What is found for a target.
inductive Finds (f : Filter) (target : String) : Option Directive → Prop where
  | none : (∀ d, f.IsCurrent d → ¬d.targetText <+: target.toList) → Finds f target none
  | some {d : Directive} : f.Decides target d → Finds f target (some d)

-- Directives with different targets change places.
inductive Reorders : Filter → Filter → Prop where
  | refl (f : Filter) : Reorders f f
  | swap (before after : Filter) {d e : Directive} : d.targetText ≠ e.targetText →
      Reorders (before ++ d :: e :: after) (before ++ e :: d :: after)
  | trans {f g k : Filter} : Reorders f g → Reorders g k → Reorders f k

section Current

variable {f g : Filter} {d e : Directive}

-- A further directive is in force, and takes the place of one with its target.
theorem isCurrent_concat :
    IsCurrent (f ++ [e]) d ↔ d = e ∨ f.IsCurrent d ∧ d.targetText ≠ e.targetText := by
  constructor
  · rintro ⟨before, after, h, hlater⟩
    obtain rfl | ⟨after, last, rfl⟩ := List.eq_nil_or_concat after
    · obtain ⟨-, he⟩ := List.append_inj' h rfl
      exact .inl (List.singleton_inj.1 he).symm
    · rw [List.concat_eq_append, ← List.cons_append, ← List.append_assoc] at h
      obtain ⟨hf, he⟩ := List.append_inj' h rfl
      rw [List.concat_eq_append, List.forall_mem_append] at hlater
      obtain rfl := List.singleton_inj.1 he
      exact .inr ⟨⟨before, after, hf, hlater.1⟩, (hlater.2 e List.mem_cons_self).symm⟩
  · rintro (rfl | ⟨⟨before, after, rfl, hlater⟩, hne⟩)
    · exact ⟨f, [], rfl, List.forall_mem_nil _⟩
    · refine ⟨before, after ++ [e], by simp, List.forall_mem_append.2 ⟨hlater, ?_⟩⟩
      exact List.forall_mem_singleton.2 hne.symm

theorem not_isCurrent_nil : ¬IsCurrent [] d := by
  rintro ⟨before, after, h, -⟩
  exact absurd h.symm (by simp)

-- The directive in force for a target is the last of those that have it.
theorem isCurrent_iff :
    f.IsCurrent d ↔ (f.filter (·.targetText = d.targetText)).getLast? = some d := by
  induction f using List.reverseRecOn with
  | nil => exact iff_of_false not_isCurrent_nil (by simp)
  | append_singleton f e ih =>
      rw [isCurrent_concat, List.filter_append]
      by_cases he : e.targetText = d.targetText
      · have hlast : [e].filter (·.targetText = d.targetText) = [e] := by simp [he]
        rw [hlast, List.getLast?_concat, Option.some.injEq, eq_comm,
          or_iff_left fun h => h.2 he.symm]
      · have hlast : [e].filter (·.targetText = d.targetText) = [] := by simp [he]
        have hne : d ≠ e := fun h => he (h ▸ rfl)
        rw [hlast, List.append_nil, ← ih, or_iff_right hne, and_iff_left (Ne.symm he)]

instance (f : Filter) (d : Directive) : Decidable (f.IsCurrent d) :=
  decidable_of_iff _ isCurrent_iff.symm

theorem IsCurrent.mem (h : f.IsCurrent d) : d ∈ f := by
  obtain ⟨before, after, rfl, -⟩ := h
  simp

theorem IsCurrent.eq (hd : f.IsCurrent d) (he : f.IsCurrent e)
    (h : d.targetText = e.targetText) : d = e := by
  rw [isCurrent_iff] at hd he
  rw [h, he, Option.some.injEq] at hd
  exact hd.symm

end Current

section Decisions

variable {f g : Filter} {target : String} {names : List String} {d e : Directive}

theorem decides_iff : f.Decides target d ↔ f.IsCurrent d ∧ d.targetText <+: target.toList ∧
    ∀ e ∈ f, f.IsCurrent e → e.targetText <+: target.toList →
      e.targetText.length ≤ d.targetText.length :=
  ⟨fun h => ⟨h.current, h.covers, fun e _ => h.longest e⟩,
    fun ⟨hd, hc, hl⟩ => ⟨hd, hc, fun e he => hl e he.mem he⟩⟩

instance (f : Filter) (target : String) (d : Directive) : Decidable (f.Decides target d) :=
  decidable_of_iff _ decides_iff.symm

-- Two texts of one length that begin the same target are the same.
theorem Decides.eq (hd : f.Decides target d) (he : f.Decides target e) : d = e := by
  have hl : d.targetText.length = e.targetText.length :=
    Nat.le_antisymm (he.longest d hd.current hd.covers) (hd.longest e he.current he.covers)
  have hp := List.prefix_of_prefix_length_le hd.covers he.covers (Nat.le_of_eq hl)
  exact hd.current.eq he.current (hp.eq_of_length hl)

theorem covers_iff (h : d.names = []) :
    d.covers target names = true ↔ d.targetText <+: target.toList := by
  rw [Directive.covers, h, List.all_nil, Bool.and_true, List.isPrefixOf_iff_prefix]

theorem yieldsTo_iff (hd : d.names = []) (he : e.names = []) :
    d.yieldsTo e = true ↔ d.targetText.length ≤ e.targetText.length := by
  rw [Directive.yieldsTo, hd, he]
  by_cases hl : d.targetText.length = e.targetText.length
  · simp [hl]
  · simp only [ne_eq, hl, not_false_eq_true, if_true, decide_eq_true_eq]
    omega

theorem decisive?_concat (f : Filter) (e : Directive) (target : String) (names : List String) :
    decisive? (f ++ [e]) target names =
      if e.covers target names then
        match f.decisive? target names with
        | none => some e
        | some b => if b.yieldsTo e then some e else f.decisive? target names
      else f.decisive? target names := by
  rw [decisive?, List.foldl_append]
  rfl

-- A directive elsewhere changes nothing.
theorem Decides.concat_of_not_covers (hd : f.Decides target d)
    (he : ¬e.targetText <+: target.toList) : Decides (f ++ [e]) target d where
  current := isCurrent_concat.2 (.inr ⟨hd.current, fun h => he (h ▸ hd.covers)⟩)
  covers := hd.covers
  longest k hk hc := by
    obtain rfl | ⟨hk, -⟩ := isCurrent_concat.1 hk
    · exact absurd hc he
    · exact hd.longest k hk hc

-- Neither does a shorter one.
theorem Decides.concat_of_lt (hd : f.Decides target d)
    (he : e.targetText.length < d.targetText.length) : Decides (f ++ [e]) target d where
  current := isCurrent_concat.2 (.inr ⟨hd.current, fun h =>
    Nat.ne_of_gt he (congrArg List.length h)⟩)
  covers := hd.covers
  longest k hk hc := by
    obtain rfl | ⟨hk, -⟩ := isCurrent_concat.1 hk
    · exact Nat.le_of_lt he
    · exact hd.longest k hk hc

-- But one that is as long as all others takes over.
theorem decides_concat (he : e.targetText <+: target.toList)
    (hl : ∀ k, f.IsCurrent k → k.targetText <+: target.toList →
      k.targetText.length ≤ e.targetText.length) : Decides (f ++ [e]) target e where
  current := isCurrent_concat.2 (.inl rfl)
  covers := he
  longest k hk hc := by
    obtain rfl | ⟨hk, -⟩ := isCurrent_concat.1 hk
    · exact Nat.le_refl _
    · exact hl k hk hc

theorem finds_decisive? (hf : f.IsPlain) (target : String) (names : List String) :
    f.Finds target (f.decisive? target names) := by
  induction f using List.reverseRecOn with
  | nil => exact .none fun d hd => absurd hd not_isCurrent_nil
  | append_singleton f e ih =>
      obtain ⟨hf, he⟩ := List.forall_mem_append.1 hf
      rw [List.forall_mem_singleton] at he
      rw [decisive?_concat]
      have ih := ih hf
      generalize decisive? f target names = found at ih ⊢
      by_cases hc : e.targetText <+: target.toList
      · rw [if_pos ((covers_iff he).2 hc)]
        cases ih with
        | none hn => exact .some (decides_concat hc fun k hk hc => absurd hc (hn k hk))
        | @some b hb =>
            have hy := yieldsTo_iff (hf b hb.current.mem) he
            by_cases hl : b.targetText.length ≤ e.targetText.length
            · simp only [if_pos (hy.2 hl)]
              exact .some (decides_concat hc fun k hk hc => Nat.le_trans (hb.longest k hk hc) hl)
            · simp only [if_neg (mt hy.1 hl)]
              exact .some (hb.concat_of_lt (Nat.lt_of_not_le hl))
      · rw [if_neg (mt (covers_iff he).1 hc)]
        cases ih with
        | none hn =>
            refine .none fun k hk => ?_
            obtain rfl | ⟨hk, -⟩ := isCurrent_concat.1 hk
            · exact hc
            · exact hn k hk
        | some hd => exact .some (hd.concat_of_not_covers hc)

theorem decisive?_eq_some_iff (hf : f.IsPlain) :
    f.decisive? target names = some d ↔ f.Decides target d := by
  have hfound := finds_decisive? hf target names
  generalize f.decisive? target names = found at hfound ⊢
  cases hfound with
  | none hn => exact iff_of_false (by simp) fun hd => hn d hd.current hd.covers
  | some he =>
      rw [Option.some.injEq]
      exact ⟨fun h => h ▸ he, fun hd => he.eq hd⟩

-- An event is let through when the directive that decides about its target asks for no more.
theorem enables_iff (hf : f.IsPlain) {severity : Severity} :
    f.enables target names severity = true ↔
      ∃ d least, f.Decides target d ∧ d.threshold = some least ∧ least ≤ severity := by
  have hdecides (d : Directive) : f.Decides target d ↔ f.decisive? target names = some d :=
    (decisive?_eq_some_iff hf).symm
  simp only [hdecides]
  rw [enables]
  cases f.decisive? target names with
  | none => simp
  | some d => cases hd : d.threshold <;> simp [Threshold.admits, hd]

end Decisions

section Order

variable {f g : Filter}

theorem Reorders.cons (d : Directive) (h : f.Reorders g) : Reorders (d :: f) (d :: g) := by
  induction h with
  | refl f => exact .refl (d :: f)
  | swap before after hne => exact .swap (d :: before) after hne
  | trans _ _ h h' => exact h.trans h'

-- When no two targets are the same, any order can be reached.
theorem reorders_of_perm (h : f.Perm g) (hn : f.Pairwise (·.targetText ≠ ·.targetText)) :
    f.Reorders g := by
  induction h with
  | nil => exact .refl []
  | cons d _ ih => exact (ih hn.tail).cons d
  | swap d e rest =>
      exact .swap [] rest ((List.pairwise_cons.1 hn).1 d List.mem_cons_self)
  | trans h _ ih ih' =>
      exact (ih hn).trans (ih' ((h.pairwise_iff fun h => h.symm).1 hn))

-- The directives with one target keep their order.
theorem Reorders.filter_eq (h : f.Reorders g) (text : List Char) :
    f.filter (·.targetText = text) = g.filter (·.targetText = text) := by
  induction h with
  | refl f => rfl
  | @swap before after d e hne =>
      simp only [List.filter_append, List.filter_cons]
      by_cases hd : d.targetText = text
      · have he : e.targetText ≠ text := fun he => hne (hd.trans he.symm)
        simp [hd, he]
      · simp [hd]
  | trans _ _ h h' => exact h.trans h'

-- Only the directives in force matter.
theorem Decides.of_current {target : String} {d : Directive}
    (h : ∀ e, f.IsCurrent e ↔ g.IsCurrent e) (hd : f.Decides target d) : g.Decides target d where
  current := (h d).1 hd.current
  covers := hd.covers
  longest e he := hd.longest e ((h e).2 he)

theorem Reorders.decides_iff (h : f.Reorders g) {target : String} {d : Directive} :
    g.Decides target d ↔ f.Decides target d := by
  have hcurrent (d : Directive) : f.IsCurrent d ↔ g.IsCurrent d := by
    rw [isCurrent_iff, isCurrent_iff, h.filter_eq]
  exact ⟨Decides.of_current fun e => (hcurrent e).symm, Decides.of_current hcurrent⟩

theorem Reorders.enables_eq (h : f.Reorders g) (hf : f.IsPlain) (hg : g.IsPlain)
    (target : String) (names : List String) (severity : Severity) :
    g.enables target names severity = f.enables target names severity := by
  rw [Bool.eq_iff_iff, enables_iff hg, enables_iff hf]
  simp only [h.decides_iff]

end Order

end ProbeReport.Log.Filter
