import ProbeReport.Sink

namespace ProbeReport

theorem utf8_append (first second : String) :
    utf8 (first ++ second) = utf8 first ++ utf8 second := by
  simp [utf8]

theorem utf8_join (parts : List String) : utf8 (String.join parts) = parts.flatMap utf8 := by
  induction parts with
  | nil => simp [utf8]
  | cons part rest ih => rw [String.join_cons, utf8_append, ih, List.flatMap_cons]

namespace Sink

variable {s : Sink} {first second bytes : List UInt8}

-- So many more bytes still fit.
def Fits (s : Sink) (count : Nat) : Prop := ∀ limit ∈ s.limit, count ≤ limit - s.bytes.length

instance (s : Sink) (count : Nat) : Decidable (s.Fits count) :=
  match h : s.limit with
  | none => isTrue (by simp [Fits, h])
  | some limit => decidable_of_iff (count ≤ limit - s.bytes.length) (by simp [Fits, h])

-- How a writer reports that a sink takes nothing any more.
def refusal (s : Sink) : IoError :=
  if s.silentWhenFull then .shortWrite else .custom .brokenPipe "sink closed"

-- A sink that has been given more bytes, of which it keeps those that fit.
def extend (s : Sink) (bytes : List UInt8) : Sink := { s with bytes := s.bytes ++ s.fitting bytes }

@[simp] theorem fitting_nil (s : Sink) : s.fitting [] = [] := by
  unfold fitting
  split <;> simp

@[simp] theorem extend_nil (s : Sink) : s.extend [] = s := by
  simp [extend]

@[simp] theorem refusal_extend (s : Sink) (bytes : List UInt8) :
    (s.extend bytes).refusal = s.refusal := rfl

theorem fitting_of_fits (h : s.Fits bytes.length) : s.fitting bytes = bytes := by
  unfold fitting
  split
  · rfl
  · rename_i limit hl
    exact List.take_of_length_le (h limit hl)

theorem fitting_length_lt (h : ¬s.Fits bytes.length) : (s.fitting bytes).length < bytes.length := by
  unfold Fits at h
  unfold fitting
  cases hl : s.limit with
  | none => simp [hl] at h
  | some limit =>
      simp only [hl, Option.mem_def, Option.some.injEq, forall_eq'] at h
      simp only [List.length_take]
      omega

theorem fits_iff_fitting : s.Fits bytes.length ↔ s.fitting bytes = bytes := by
  constructor
  · exact fitting_of_fits
  · intro h
    refine Decidable.byContradiction fun hn => ?_
    have hlt := fitting_length_lt hn
    rw [h] at hlt
    exact Nat.lt_irrefl _ hlt

theorem fits_nil (s : Sink) : s.Fits ([] : List UInt8).length :=
  fits_iff_fitting.mpr (fitting_nil s)

-- What fits of two texts is what fits of the first, and then what fits of the second behind it.
theorem fitting_append (s : Sink) (first second : List UInt8) :
    s.fitting (first ++ second) = s.fitting first ++ (s.extend first).fitting second := by
  unfold extend fitting
  cases hl : s.limit with
  | none => rfl
  | some limit =>
      simp only [List.take_append, List.length_append, List.length_take]
      congr 2
      omega

theorem extend_append (s : Sink) (first second : List UInt8) :
    s.extend (first ++ second) = (s.extend first).extend second := by
  have h := fitting_append s first second
  simp only [extend] at h ⊢
  rw [h, List.append_assoc]

theorem fits_append :
    s.Fits (first ++ second).length ↔
      s.Fits first.length ∧ (s.extend first).Fits second.length := by
  unfold Fits extend fitting
  cases hl : s.limit with
  | none => simp
  | some limit =>
      simp only [Option.mem_def, Option.some.injEq, forall_eq', List.length_append,
        List.length_take]
      omega

-- A sink that did not take all of a text is full.
theorem fitting_extend_of_not_fits (h : ¬s.Fits first.length) :
    (s.extend first).fitting second = [] := by
  unfold Fits at h
  unfold extend fitting
  cases hl : s.limit with
  | none => simp [hl] at h
  | some limit =>
      simp only [hl, Option.mem_def, Option.some.injEq, forall_eq'] at h
      simp only [List.length_append, List.length_take, List.take_eq_nil_iff]
      omega

theorem accept_of_nil (byte : UInt8) (more : List UInt8) (h : s.fitting (byte :: more) = []) :
    s.accept (byte :: more) =
      (if s.silentWhenFull then .ok 0 else .error (.custom .brokenPipe "sink closed"), s) := by
  have hs : { s with bytes := s.bytes ++ [] } = s := by rw [List.append_nil]
  simp only [accept, h, hs]
  cases s.silentWhenFull <;> simp

theorem accept_of_ne_nil (h : s.fitting bytes ≠ []) :
    s.accept bytes = (.ok (s.fitting bytes).length, s.extend bytes) := by
  simp [accept, h, extend]

-- Writing to a full sink fails at the first attempt and changes nothing.
theorem writeBytes_full (byte : UInt8) (more : List UInt8) (h : s.fitting (byte :: more) = []) :
    s.writeBytes (byte :: more) = (.error s.refusal, s) := by
  rw [writeBytes, accept_of_nil byte more h]
  cases hs : s.silentWhenFull <;> simp [refusal, hs]

-- The attempts together write what fits, and fail when that is not everything.
theorem writeBytes_eq (s : Sink) (bytes : List UInt8) :
    s.writeBytes bytes =
      (if s.Fits bytes.length then .ok () else .error s.refusal, s.extend bytes) := by
  cases bytes with
  | nil =>
      rw [writeBytes, if_pos s.fits_nil, extend_nil]
  | cons byte more =>
      by_cases hn : s.fitting (byte :: more) = []
      · have hf : ¬s.Fits (byte :: more).length := by rw [fits_iff_fitting, hn]; simp
        rw [writeBytes_full byte more hn, if_neg hf]
        simp [extend, hn]
      · rw [writeBytes, accept_of_ne_nil hn]
        obtain ⟨taken, ht⟩ := Nat.exists_eq_succ_of_ne_zero (mt List.length_eq_zero_iff.mp hn)
        simp only [ht, Nat.succ_eq_add_one]
        by_cases hf : s.Fits (byte :: more).length
        · -- the first attempt takes everything
          rw [fitting_of_fits hf, List.length_cons, Nat.add_right_cancel_iff] at ht
          rw [if_pos hf, ← ht, List.drop_length, writeBytes]
        · -- the first attempt fills the sink, and the second finds it full
          have hlt := fitting_length_lt hf
          rw [ht, List.length_cons] at hlt
          cases hd : more.drop taken with
          | nil =>
              rw [List.drop_eq_nil_iff] at hd
              omega
          | cons next rest =>
              rw [writeBytes_full next rest (fitting_extend_of_not_fits hf), if_neg hf]
              rfl

theorem write_eq (s : Sink) (text : String) :
    s.write text = (if s.Fits (utf8 text).length then .ok () else .error s.refusal,
      s.extend (utf8 text)) :=
  writeBytes_eq s (utf8 text)

end Sink

end ProbeReport
