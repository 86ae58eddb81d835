import ProbeReport.Text.Slice

-- What is cut from a text at the ends of its parts. Offsets count bytes.
namespace ProbeReport.Text

-- How many bytes a text takes.
def width : List Char → Nat
  | [] => 0
  | c :: s => c.utf8Size + width s

-- An offset that cuts no character.
def IsBoundary (s : List Char) (n : Nat) : Prop := ∃ front back, s = front ++ back ∧ width front = n

section Width

variable {c : Char} {s t : List Char}

@[simp]
theorem width_nil : width [] = 0 := rfl

@[simp]
theorem width_cons : width (c :: s) = c.utf8Size + width s := rfl

@[simp]
theorem width_append : width (s ++ t) = width s + width t := by
  induction s with
  | nil => rw [width_nil, Nat.zero_add, List.nil_append]
  | cons c s ih => rw [List.cons_append, width_cons, ih, width_cons, Nat.add_assoc]

theorem utf8Size_eq_one (h : c.toNat < 0x80) : c.utf8Size = 1 :=
  Char.utf8Size_eq_one_iff.2 (UInt32.le_iff_toNat_le.2 (Nat.le_of_lt_succ h))

theorem width_of_ascii (h : ∀ c ∈ s, c.toNat < 0x80) : width s = s.length := by
  induction s with
  | nil => rfl
  | cons c s ih =>
      rw [width_cons, utf8Size_eq_one (h c List.mem_cons_self),
        ih fun d hd => h d (List.mem_cons_of_mem c hd), List.length_cons, Nat.add_comm]

end Width

section Parts

variable {front part back s : List Char}

theorem dropBytes?_append (front back : List Char) :
    dropBytes? (width front) (front ++ back) = some back := by
  induction front with
  | nil => rw [width_nil, List.nil_append, dropBytes?]
  | cons c front ih =>
      obtain ⟨n, hn⟩ := Nat.exists_eq_succ_of_ne_zero (Nat.ne_of_gt c.utf8Size_pos)
      rw [width_cons, hn, Nat.succ_add, List.cons_append, dropBytes?, if_pos (by omega), hn]
      rwa [show n + width front + 1 - n.succ = width front by omega]

theorem takeBytes?_append (front back : List Char) :
    takeBytes? (width front) (front ++ back) = some front := by
  induction front with
  | nil => rw [width_nil, takeBytes?]
  | cons c front ih =>
      obtain ⟨n, hn⟩ := Nat.exists_eq_succ_of_ne_zero (Nat.ne_of_gt c.utf8Size_pos)
      rw [width_cons, hn, Nat.succ_add, List.cons_append, takeBytes?, if_pos (by omega), hn,
        show n + width front + 1 - n.succ = width front by omega, ih, Option.map_some]

theorem slice?_append (front part back : List Char) :
    slice? (width front) (width (front ++ part)) (front ++ (part ++ back)) = some part := by
  rw [slice?, dropBytes?_append, Option.bind_some, width_append, Nat.add_sub_cancel_left,
    takeBytes?_append]

end Parts

section Boundary

variable {s : List Char} {start stop : Nat}

theorem exists_dropBytes? (h : IsBoundary s start) : ∃ rest, dropBytes? start s = some rest := by
  obtain ⟨front, back, rfl, rfl⟩ := h
  exact ⟨back, dropBytes?_append front back⟩

theorem isBoundary_of_takeBytes? {part : List Char} (h : takeBytes? stop s = some part) :
    IsBoundary s stop := by
  fun_induction takeBytes? stop s generalizing part with
  | case1 s => exact ⟨[], s, rfl, rfl⟩
  | case2 n => cases h
  | case3 n c s hc ih =>
      obtain ⟨rest, hr, -⟩ := Option.map_eq_some_iff.1 h
      obtain ⟨front, back, rfl, hw⟩ := ih hr
      exact ⟨c :: front, back, rfl, by rw [width_cons, hw]; omega⟩
  | case4 n c s hc => cases h

instance (s : List Char) (n : Nat) : Decidable (IsBoundary s n) :=
  decidable_of_iff ((takeBytes? n s).isSome = true) ⟨fun h =>
    isBoundary_of_takeBytes? (Option.some_get h).symm, fun ⟨front, back, hs, hn⟩ => by
      rw [hs, ← hn, takeBytes?_append, Option.isSome_some]⟩

theorem slice?_zero : slice? 0 stop s = takeBytes? stop s := by
  rw [slice?, dropBytes?, Option.bind_some, Nat.sub_zero]

-- Of two ways to cut a text the narrower front begins the other.
theorem exists_slice? (h : IsBoundary s start) (h' : IsBoundary s stop) (hl : start ≤ stop) :
    ∃ part, slice? start stop s = some part := by
  obtain ⟨front, back, rfl, rfl⟩ := h
  obtain ⟨front', back', he, rfl⟩ := h'
  obtain ⟨part, rfl, rfl⟩ | ⟨part, rfl, rfl⟩ := List.append_eq_append_iff.1 he
  · exact ⟨part, slice?_append front part back'⟩
  · have hp : part = [] := by
      cases part with
      | nil => rfl
      | cons c part =>
          have hc := c.utf8Size_pos
          rw [width_append, width_cons] at hl
          omega
    subst hp
    exact ⟨[], by simpa using slice?_append front' [] back⟩

end Boundary

end ProbeReport.Text
