import Mathlib.Data.List.Destutter
import ProbeReport.Causes

-- What is told of an error with causes.
namespace ProbeReport.Causes

-- Attaching on its own terms: a separator and the cause.
def join (told cause : String) : String := told ++ ": " ++ cause

-- A text ends at this place within another one.
structure EndsAt (text cause : String) (place : Nat) : Prop where
  within : place ≤ text.length
  ends : cause.toList <:+ text.toList.take place

theorem prefix_append {front top : String} (h : front.toList <+: top.toList) (more : String) :
    front.toList <+: (top ++ more).toList := by
  rw [String.toList_append]
  exact h.trans (List.prefix_append _ _)

theorem prefix_attach (told cause : String) : told.toList <+: (attach told cause).toList := by
  rw [attach]
  split
  · exact List.prefix_rfl
  · exact prefix_append (prefix_append List.prefix_rfl ": ") cause

theorem attach_of_suffix {told cause : String} (h : cause.toList <:+ told.toList) :
    attach told cause = told := if_pos (List.isSuffixOf_iff_suffix.2 h)

theorem attach_of_not_suffix {told cause : String} (h : ¬cause.toList <:+ told.toList) :
    attach told cause = join told cause := if_neg (mt List.isSuffixOf_iff_suffix.1 h)

-- Whether it is said again or not, what is told ends with the cause.
theorem suffix_attach (told cause : String) : cause.toList <:+ (attach told cause).toList := by
  by_cases h : cause.toList <:+ told.toList
  · rwa [attach_of_suffix h]
  · rw [attach_of_not_suffix h, join, String.toList_append]
    exact List.suffix_append _ _

theorem prefix_foldl (told : String) (rest : List String) :
    told.toList <+: (rest.foldl attach told).toList := by
  induction rest generalizing told with
  | nil => exact List.prefix_rfl
  | cons cause rest ih => exact (prefix_attach told cause).trans (ih (attach told cause))

-- The outermost text is told first, whatever is behind it.
theorem prefix_describe (top : String) (rest : List String) :
    top.toList <+: (describe (top :: rest)).toList := prefix_foldl top rest

theorem suffix_foldl {told last : String} (h : last.toList <:+ told.toList) (rest : List String) :
    ((last :: rest).getLast (List.cons_ne_nil last rest)).toList <:+
      (rest.foldl attach told).toList := by
  induction rest generalizing told last with
  | nil => exact h
  | cons cause rest ih =>
      rw [List.getLast_cons_cons]
      exact ih (suffix_attach told cause)

-- A cause ends where the text that told it ended, wherever that text goes on.
theorem endsAt_of_prefix {text told cause : String} (h : told.toList <+: text.toList)
    (hc : cause.toList <:+ told.toList) : EndsAt text cause told.length := by
  have ht : text.toList.take told.length = told.toList := by
    rw [← String.length_toList]
    exact (List.prefix_iff_eq_take.1 h).symm
  refine ⟨?_, ht ▸ hc⟩
  simpa only [String.length_toList] using h.length_le

-- By induction on the causes: the text that tells one of them only grows, so that the places of
-- all others lie behind its end.
theorem exists_places (told : String) (rest : List String) :
    ∃ places, List.Forall₂ (EndsAt (rest.foldl attach told)) rest places ∧
      places.Pairwise (· ≤ ·) ∧ ∀ place ∈ places, told.length ≤ place := by
  induction rest generalizing told with
  | nil => exact ⟨[], .nil, .nil, by simp⟩
  | cons cause rest ih =>
      obtain ⟨places, hends, hsorted, hbehind⟩ := ih (attach told cause)
      have hlength : told.length ≤ (attach told cause).length := by
        simpa only [String.length_toList] using (prefix_attach told cause).length_le
      refine ⟨(attach told cause).length :: places, .cons ?_ hends, .cons hbehind hsorted, ?_⟩
      · exact endsAt_of_prefix (prefix_foldl _ rest) (suffix_attach told cause)
      · rintro place (_ | ⟨_, hp⟩)
        · exact hlength
        · exact hlength.trans (hbehind place hp)

-- Behind a text that ends with a cause, repeating that cause tells nothing new.
theorem exists_destutter' (last : String) (rest : List String) :
    ∃ kept, rest.destutter' (· ≠ ·) last = last :: kept ∧
      ∀ told : String, last.toList <:+ told.toList →
        kept.foldl attach told = rest.foldl attach told := by
  induction rest generalizing last with
  | nil => exact ⟨[], rfl, fun _ _ => rfl⟩
  | cons cause rest ih =>
      by_cases h : last ≠ cause
      · obtain ⟨kept, hk, hf⟩ := ih cause
        refine ⟨cause :: kept, by rw [List.destutter'_cons_pos _ h, hk], fun told _ => ?_⟩
        exact hf (attach told cause) (suffix_attach told cause)
      · obtain ⟨kept, hk, hf⟩ := ih last
        have he : last = cause := not_not.1 h
        refine ⟨kept, by rw [List.destutter'_cons_neg _ h, hk], fun told ht => ?_⟩
        rw [hf told ht, List.foldl_cons, ← he, attach_of_suffix ht]

theorem describe_destutter (top : String) (rest : List String) :
    describe ((top :: rest).destutter (· ≠ ·)) = describe (top :: rest) := by
  obtain ⟨kept, hk, hf⟩ := exists_destutter' top rest
  rw [List.destutter_cons', hk]
  exact hf top List.suffix_rfl

theorem intercalate_eq (top : String) (rest : List String) :
    ": ".intercalate (top :: rest) = rest.foldl join top := by
  induction rest generalizing top with
  | nil => exact String.intercalate_singleton
  | cons cause rest ih =>
      rw [List.foldl_cons, ← ih, join, String.intercalate_cons_append, String.intercalate_cons_cons]

theorem length_join (told cause : String) :
    (join told cause).length = told.length + 2 + cause.length := by
  rw [join, String.length_append, String.length_append]
  rfl

theorem length_attach_le (told cause : String) :
    (attach told cause).length ≤ (join told cause).length := by
  by_cases h : cause.toList <:+ told.toList
  · rw [attach_of_suffix h, length_join]
    omega
  · rw [attach_of_not_suffix h]

theorem length_lt_foldl_join {told joined : String} (h : told.length < joined.length)
    (rest : List String) : (rest.foldl attach told).length < (rest.foldl join joined).length := by
  induction rest generalizing told joined with
  | nil => exact h
  | cons cause rest ih =>
      apply ih
      have hl := length_attach_le told cause
      rw [length_join] at hl ⊢
      omega

-- A cause that is not said again makes the text shorter than all of them joined, and what comes
-- later cannot make up for that.
theorem foldl_attach_eq_iff (told : String) (rest : List String) :
    rest.foldl attach told = rest.foldl join told ↔
      ∀ before cause after, rest = before ++ cause :: after →
        ¬cause.toList <:+ (before.foldl attach told).toList := by
  induction rest generalizing told with
  | nil =>
      refine iff_of_true rfl fun before cause after h => ?_
      cases before <;> cases h
  | cons cause rest ih =>
      by_cases h : cause.toList <:+ told.toList
      · refine iff_of_false (fun he => ?_) (fun hn => hn [] cause rest rfl h)
        have hlt : told.length < (join told cause).length := by
          rw [length_join]
          omega
        have hl := length_lt_foldl_join hlt rest
        rw [List.foldl_cons, List.foldl_cons, attach_of_suffix h] at he
        rw [he] at hl
        exact Nat.lt_irrefl _ hl
      · rw [List.foldl_cons, List.foldl_cons, attach_of_not_suffix h, ih]
        constructor
        · rintro hn (_ | ⟨first, before⟩) cause' after he
          · cases he
            exact h
          · cases he
            rw [List.foldl_cons, attach_of_not_suffix h]
            exact hn before cause' after rfl
        · intro hn before cause' after he
          have hs := hn (cause :: before) cause' after (by rw [he]; rfl)
          rwa [List.foldl_cons, attach_of_not_suffix h] at hs

-- Nothing is lost of a chain of errors. Each of its texts ends at a place of its own in what is
-- told, in their order, from the outermost at the front to the innermost at the end. A text that
-- repeats the one before it makes no difference, and all are joined when none is there already.
theorem describe_tells_chain (top : String) (rest : List String) :
    let text := describe (top :: rest)
    top.toList <+: text.toList ∧
    ((top :: rest).getLast (List.cons_ne_nil top rest)).toList <:+ text.toList ∧
    (∃ places, List.Forall₂ (EndsAt text) (top :: rest) places ∧ places.Pairwise (· ≤ ·)) ∧
    text = describe ((top :: rest).destutter (· ≠ ·)) ∧
    (text = ": ".intercalate (top :: rest) ↔
      ∀ before cause after, rest = before ++ cause :: after →
        ¬cause.toList <:+ (describe (top :: before)).toList) := by
  intro text
  have hfront : top.toList <+: text.toList := prefix_describe top rest
  refine ⟨hfront, suffix_foldl List.suffix_rfl rest, ?_, (describe_destutter top rest).symm, ?_⟩
  · obtain ⟨places, hends, hsorted, hbehind⟩ := exists_places top rest
    have htop : EndsAt text top top.length := endsAt_of_prefix hfront List.suffix_rfl
    exact ⟨top.length :: places, .cons htop hends, .cons hbehind hsorted⟩
  · rw [intercalate_eq]
    exact foldl_attach_eq_iff top rest

-- The second cause is told by the end of the first already, the third one is not.
example : describe ["a: b", "b", "a"] = "a: b: a" := by decide +kernel

end ProbeReport.Causes
