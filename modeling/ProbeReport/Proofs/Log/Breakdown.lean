import ProbeReport.Proofs.Log.Directive

-- When the reading of directives breaks down: where an offset, counted without the blanks in front,
-- cuts a character. Without blanks in front, or within ASCII, that does not happen.
namespace ProbeReport.Log

open Text

namespace Directive

-- Where the part began that is being read.
def Place.start? : Place → Option Nat
  | .span n | .field n | .level n => some n
  | .start | .word | .behindFields | .behindSpan => none

-- A reading stands behind what has been read, and its part began behind some of it.
structure Reading.Stands (done : List Char) (r : Reading) : Prop where
  position : r.position = width done
  begins : ∀ start ∈ r.place.start?, ∃ front, front <+: done ∧ start = width front

-- All that has been read, and all that came before, can be cut off.
def Parts (whole done : List Char) : Prop :=
  ∀ front, front <+: done → IsBoundary whole (width front)

-- What a character may do: it goes on, perhaps with a part that begins behind it, or is refused.
inductive Turns (r : Reading) (c : Char) : Except Halt Reading → Prop where
  | goes {next : Reading} :
      (∀ start ∈ next.place.start?,
        start ∈ r.place.start? ∨ start = r.position + 1 ∧ c.utf8Size = 1) →
      Turns r c (.ok next)
  | refuses (error : FilterError) : Turns r c (.error (.refused error))

-- What has come of a reading, if nothing has broken down.
inductive Holds (done : List Char) : Except Halt Reading → Prop where
  | reads {r : Reading} : r.Stands done → Holds done (.ok r)
  | refuses (error : FilterError) : Holds done (.error (.refused error))

section Parts

variable {whole done rest front : List Char} {c : Char} {r : Reading}

theorem width_le_width (h : front <+: done) : width front ≤ width done := by
  obtain ⟨back, rfl⟩ := h
  rw [width_append]
  exact Nat.le_add_right _ _

theorem Parts.mono (h : Parts whole done) (hf : front <+: done) : Parts whole front :=
  fun part hp => h part (hp.trans hf)

-- The part that is being read can be cut out.
theorem Reading.Stands.exists_cut (hr : r.Stands done) (hp : Parts whole done) {start : Nat}
    (hs : start ∈ r.place.start? ∨ start = 0) :
    ∃ part, cut (slice? start r.position) whole = .ok part := by
  obtain ⟨front, hf, rfl⟩ : ∃ front, front <+: done ∧ start = width front := by
    obtain hs | rfl := hs
    · exact hr.begins start hs
    · exact ⟨[], List.nil_prefix, rfl⟩
  obtain ⟨part, h⟩ := exists_slice? (hp front hf) (hp done (List.prefix_refl done))
    (width_le_width hf)
  exact ⟨String.ofList part, by rw [cut, hr.position, h]⟩

theorem Reading.Stands.finish_ne (hr : r.Stands done) (hp : Parts whole done) :
    r.finish whole ≠ .error .panicked := by
  obtain ⟨place, position, target, span, fields⟩ := r
  unfold Reading.finish
  cases place with
  | level start =>
      obtain ⟨front, hf, rfl⟩ := hr.begins start rfl
      obtain ⟨part, h⟩ := exists_dropBytes? (hp front hf)
      simp only [cut, h, bind, Except.bind]
      split
      · simp
      · split <;> simp
  | word =>
      dsimp only
      split <;> simp
  | start | span | field | behindFields | behindSpan => simp

-- A part begins behind the mark in front of it.
theorem Turns.begins {next : Reading} {mark : Char}
    (h : next.place.start? = some (r.position + 1)) (hm : mark.utf8Size = 1) (hc : c = mark) :
    Turns r c (.ok next) :=
  .goes fun _ hs => .inr ⟨(Option.some.inj (h.symm.trans hs)).symm, hc ▸ hm⟩

end Parts

variable [Patterns]

section Reading

variable {whole done rest : List Char} {c : Char} {r : Reading}

-- A field has no offsets of its own.
theorem fieldOf_cases (s : String) :
    (∃ field, fieldOf s = .ok field) ∨ ∃ error, fieldOf s = .error (.refused error) := by
  unfold fieldOf
  split
  · exact .inr ⟨_, rfl⟩
  · exact .inr ⟨_, rfl⟩
  · exact .inl ⟨_, rfl⟩
  · split
    · exact .inl ⟨_, rfl⟩
    · exact .inr ⟨_, rfl⟩

theorem Reading.Stands.turns (hr : r.Stands done) (hp : Parts whole done) :
    Turns r c (r.turn whole c) := by
  obtain ⟨place, position, target, span, fields⟩ := r
  have hcut {start : Nat} (hs : start ∈ place.start? ∨ start = 0) := hr.exists_cut hp hs
  unfold Reading.turn
  cases place with
  | start =>
      dsimp only
      split
      · rename_i hc
        exact .begins rfl (by decide) hc
      · split
        · exact .goes nofun
        · exact .refuses _
  | word =>
      obtain ⟨part, h⟩ := hcut (.inr rfl)
      simp only [h, bind, Except.bind]
      split
      · rename_i hc
        exact .begins rfl (by decide) hc
      · split
        · rename_i hc
          exact .begins rfl (by decide) hc
        · exact .goes nofun
  | span start =>
      obtain ⟨part, h⟩ := hcut (.inl rfl)
      simp only [h, bind, Except.bind]
      split
      · exact .goes nofun
      · split
        · rename_i hc
          exact .begins rfl (by decide) hc
        · exact .goes fun start hs => .inl hs
  | field start =>
      obtain ⟨part, h⟩ := hcut (.inl rfl)
      simp only [h, bind, Except.bind]
      split
      · obtain ⟨field, hf⟩ | ⟨error, hf⟩ := fieldOf_cases part
        · rw [hf]
          exact .goes nofun
        · rw [hf]
          exact .refuses error
      · exact .goes fun start hs => .inl hs
  | behindFields =>
      dsimp only
      split
      · exact .goes nofun
      · exact .refuses _
  | behindSpan =>
      dsimp only
      split
      · rename_i hc
        exact .begins rfl (by decide) hc
      · exact .refuses _
  | level start => exact .goes fun start hs => .inl hs

-- One character is passed where all before it can be cut off.
theorem Reading.Stands.step (hr : r.Stands done) (hp : Parts whole done) :
    Holds (done ++ [c]) (r.step whole c) := by
  have hturn := hr.turns (c := c) hp
  rw [Reading.step]
  generalize r.turn whole c = turned at hturn ⊢
  cases hturn with
  | refuses error => exact .refuses error
  | @goes next hn =>
      refine .reads ⟨?_, fun start hs => ?_⟩
      · rw [width_append, ← hr.position]
        rfl
      · obtain hs | ⟨rfl, hc⟩ := hn start hs
        · obtain ⟨front, hf, he⟩ := hr.begins start hs
          exact ⟨front, hf.trans (List.prefix_append done [c]), he⟩
        · refine ⟨done ++ [c], List.prefix_refl _, ?_⟩
          rw [width_append, hr.position, width_cons, hc, width_nil]

theorem Reading.Stands.foldlM (hr : r.Stands done) (hp : Parts whole (done ++ rest)) :
    Holds (done ++ rest) (rest.foldlM (Reading.step whole) r) := by
  induction rest generalizing done r with
  | nil =>
      rw [List.append_nil]
      exact .reads hr
  | cons c rest ih =>
      have hstep := hr.step (c := c) (hp.mono (List.prefix_append done (c :: rest)))
      rw [List.foldlM_cons, List.append_cons]
      rw [List.append_cons] at hp
      generalize r.step whole c = stepped at hstep ⊢
      cases hstep with
      | refuses error => exact .refuses error
      | reads hn => exact ih hn hp

end Reading

section Texts

variable {s : List Char}

def Breaks (s : List Char) : Prop := ofText s = .error .panicked

theorem not_breaks_of_parts (h : Parts s (trim isSpace s)) : ¬Breaks s := by
  have hstart : Reading.Stands [] ⟨.start, 0, none, none, []⟩ := ⟨rfl, nofun⟩
  have hrun : Holds ([] ++ trim isSpace s) _ := hstart.foldlM h
  rw [List.nil_append] at hrun
  rw [Breaks, ofText]
  generalize (trim isSpace s).foldlM (Reading.step s) _ = read at hrun ⊢
  cases hrun with
  | refuses error =>
      intro hb
      cases hb
  | reads hr => exact hr.finish_ne h

-- Without blanks in front offsets are what they seem.
theorem not_breaks_of_head (h : ∀ c ∈ s.head?, isSpace c = false) : ¬Breaks s := by
  refine not_breaks_of_parts fun front hf => ?_
  have ht : trim isSpace s <+: s := by
    rw [trim, dropWhile_eq_self h, ← List.reverse_suffix, List.reverse_reverse]
    exact List.dropWhile_suffix isSpace
  obtain ⟨back, rfl⟩ := hf.trans ht
  exact ⟨front, back, rfl, rfl⟩

-- In ASCII no offset cuts a character.
theorem not_breaks_of_ascii (h : ∀ c ∈ s, c.toNat < 0x80) : ¬Breaks s := by
  refine not_breaks_of_parts fun front hf => ?_
  obtain ⟨before, after, hs, -⟩ := exists_trim isSpace s
  obtain ⟨back, ht⟩ := hf
  have hfront : ∀ c ∈ front, c.toNat < 0x80 := fun c hc => by
    refine h c ?_
    rw [hs, ← ht]
    simp [hc]
  have hl : front.length ≤ s.length := by
    rw [hs, ← ht]
    simp only [List.length_append]
    omega
  refine ⟨s.take front.length, s.drop front.length, (List.take_append_drop _ s).symm, ?_⟩
  rw [width_of_ascii fun c hc => h c (List.mem_of_mem_take hc), width_of_ascii hfront,
    List.length_take, Nat.min_eq_left hl]

-- With blanks in front, the offset of the mark that ends a target may cut a character.
theorem breaks_of_not_isBoundary {blanks name rest : List Char}
    (hb : ∀ c ∈ blanks, isSpace c = true) (hn : IsTarget name)
    (h : ¬IsBoundary (blanks ++ (name ++ '=' :: rest)) (width name)) :
    Breaks (blanks ++ (name ++ '=' :: rest)) := by
  obtain ⟨⟨c, more, he, hc⟩, -⟩ := id hn
  obtain ⟨kept, -, ht⟩ : ∃ kept, kept <+: rest ∧
      trim isSpace (name ++ '=' :: rest) = name ++ '=' :: kept :=
    exists_trim_append (fun d hd => by
      rw [he] at hd
      exact Option.some.inj hd ▸ isSpace_of_mayBegin hc) (by decide)
  have htrim : trim isSpace (blanks ++ (name ++ '=' :: rest)) = name ++ '=' :: kept := by
    rw [← ht, trim, List.dropWhile_append_of_pos hb, trim]
  have hcut : cut (slice? 0 (width name)) (blanks ++ (name ++ '=' :: rest)) =
      .error .panicked := by
    have hs : slice? 0 (width name) (blanks ++ (name ++ '=' :: rest)) = none := by
      rw [slice?_zero, Option.eq_none_iff_forall_ne_some]
      exact fun part hp => h (isBoundary_of_takeBytes? hp)
    rw [cut, hs]
  rw [Breaks, ofText, htrim, List.foldlM_append, foldlM_target hn]
  simp only [List.foldlM_cons, Reading.step, Reading.turn, Reading.behindTarget, hcut, bind,
    Except.bind, Except.map, if_true]

end Texts

end Directive

namespace Filter

variable [Patterns] {s : String} {texts : List String} {text : String}

def Breaks (s : String) : Prop := ofText s = .error .panicked

-- A list breaks down at its first directive that cannot be read.
theorem breaks_iff : Breaks s ↔ ∃ before piece after,
    (splitAt ',' s.toList).filter (· ≠ []) = before ++ piece :: after ∧
      (∀ earlier ∈ before, ∃ d, Directive.ofText earlier = .ok d) ∧ Directive.Breaks piece := by
  unfold Directive.Breaks
  rw [← mapM_eq_error_iff, Breaks, ofText]
  cases ((splitAt ',' s.toList).filter (· ≠ [])).mapM Directive.ofText <;> simp [Except.map]

theorem not_breaks_of_pieces
    (h : ∀ piece ∈ splitAt ',' s.toList,
      (∀ c ∈ piece.head?, Directive.isSpace c = false) ∨ ∀ c ∈ piece, c.toNat < 0x80) :
    ¬Breaks s := by
  rw [breaks_iff]
  rintro ⟨before, piece, after, hs, -, hb⟩
  have hp : piece ∈ (splitAt ',' s.toList).filter (· ≠ []) := by
    rw [hs]
    simp
  obtain hh | ha := h piece (List.mem_filter.1 hp).1
  · exact Directive.not_breaks_of_head hh hb
  · exact Directive.not_breaks_of_ascii ha hb

-- A level that is none spoils the whole list, unless the reading breaks down before it.
theorem exists_refused_of_spoils {before after : List String}
    (hc : ∀ piece ∈ before ++ text :: after, ',' ∉ piece.toList)
    (hs : Directive.Spoils text.toList)
    (hb : ∀ earlier ∈ before, ¬Directive.Breaks earlier.toList) :
    ∃ error, ofText (",".intercalate (before ++ text :: after)) = .error (.refused error) := by
  have hpieces : ((before ++ text :: after).map String.toList).filter (· ≠ []) =
      (before.map String.toList).filter (· ≠ []) ++
        text.toList :: (after.map String.toList).filter (· ≠ []) := by
    rw [List.map_append, List.filter_append, List.map_cons, List.filter_cons,
      if_pos (decide_eq_true hs.ne_nil)]
  obtain ⟨halt, hm, hh⟩ : ∃ halt, List.mapM Directive.ofText
      (((before ++ text :: after).map String.toList).filter (· ≠ [])) = .error halt ∧
      halt ≠ .panicked := by
    rw [hpieces]
    refine exists_error_of_mapM ⟨_, hs.ofText_eq⟩ ?_
    rintro piece hp halt he rfl
    rw [List.mem_append, List.mem_singleton] at hp
    obtain hp | rfl := hp
    · obtain ⟨earlier, hm, rfl⟩ := List.mem_map.1 (List.mem_filter.1 hp).1
      exact hb earlier hm he
    · rw [hs.ofText_eq] at he
      cases he
  rw [ofText_intercalate (by simp) hc, hm]
  cases halt with
  | refused error => exact ⟨error, rfl⟩
  | panicked => exact absurd rfl hh

end Filter

end ProbeReport.Log
