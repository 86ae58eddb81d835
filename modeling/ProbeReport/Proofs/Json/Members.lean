import ProbeReport.Proofs.Json.Grammar

namespace ProbeReport.Json

theorem nodup_eraseDups (keys : List String) : keys.eraseDups.Nodup := by
  match keys with
  | [] => simp
  | key :: rest =>
      rw [List.eraseDups_cons, List.nodup_cons]
      have hlt := List.length_filter_le (fun k => !k == key) rest
      exact ⟨by simp [List.mem_eraseDups], nodup_eraseDups _⟩
  termination_by keys.length

-- The members that a list of keys and a value for each of them make up.
def entries (keys : List String) (f : String → Option Json) : List (String × Json) :=
  keys.filterMap fun key => (f key).map fun value => (key, value)

variable {keys : List String} {f : String → Option Json} {key : String} {value : Json}

@[simp]
theorem mem_entries : (key, value) ∈ entries keys f ↔ key ∈ keys ∧ f key = some value := by
  simp only [entries, List.mem_filterMap, Option.map_eq_some_iff, Prod.mk.injEq]
  constructor
  · rintro ⟨k, hk, v, hv, rfl, rfl⟩
    exact ⟨hk, hv⟩
  · rintro ⟨hk, hv⟩
    exact ⟨key, hk, value, hv, rfl, rfl⟩

theorem keys_entries (h : ∀ k ∈ keys, (f k).isSome) : (entries keys f).map Prod.fst = keys := by
  induction keys with
  | nil => rfl
  | cons k rest ih =>
      obtain ⟨v, hv⟩ := Option.isSome_iff_exists.mp (h k (by simp))
      have hrest := ih fun k' hk' => h k' (by simp [hk'])
      simp only [entries] at hrest ⊢
      simp [hv, hrest]

theorem entries_congr {g : String → Option Json} (h : ∀ k ∈ keys, f k = g k) :
    entries keys f = entries keys g := by
  induction keys with
  | nil => rfl
  | cons k rest ih =>
      have hrest := ih fun k' hk' => h k' (by simp [hk'])
      simp only [entries, List.filterMap_cons] at hrest ⊢
      rw [h k (by simp), hrest]

theorem entries_append (first second : List String) (f : String → Option Json) :
    entries (first ++ second) f = entries first f ++ entries second f :=
  List.filterMap_append

theorem put_of_not_mem {members : List (String × Json)} (h : key ∉ members.map Prod.fst)
    (value : Json) : put members key value = members ++ [(key, value)] := by
  induction members with
  | nil => rfl
  | cons member rest ih =>
      simp only [List.map_cons, List.mem_cons, not_or] at h
      simp only [put]
      rw [if_neg (Ne.symm h.1), ih h.2]
      rfl

-- A key that is there takes the new value in its own place.
theorem put_entries (hn : keys.Nodup) (hk : key ∈ keys) (hf : ∀ k ∈ keys, (f k).isSome) :
    put (entries keys f) key value = entries keys fun k => if k = key then some value else f k := by
  induction keys with
  | nil => simp at hk
  | cons k rest ih =>
      obtain ⟨v, hv⟩ := Option.isSome_iff_exists.mp (hf k (by simp))
      have hcons (g : String → Option Json) (w : Json) (hg : g k = some w) :
          entries (k :: rest) g = (k, w) :: entries rest g := by
        simp [entries, hg]
      rw [List.nodup_cons] at hn
      rw [hcons f v hv]
      by_cases hkey : k = key
      · subst hkey
        rw [hcons _ value (by simp)]
        simp only [put, if_pos]
        rw [entries_congr fun k' hk' => (if_neg (ne_of_mem_of_not_mem hk' hn.1)).symm]
      · rw [hcons _ v (by simp [hkey, hv])]
        simp only [put, if_neg hkey]
        rw [ih hn.2 ((List.mem_cons.mp hk).resolve_left (Ne.symm hkey))
          fun k' hk' => hf k' (by simp [hk'])]

namespace Grammar

variable {members : List (String × Json)}

theorem merged_eq_entries :
    merged members = entries (members.map Prod.fst).eraseDups (lastValue? members) := rfl

theorem lastValue?_append_singleton :
    lastValue? (members ++ [(key, value)]) =
      fun k => if k = key then some value else lastValue? members k := by
  funext k
  by_cases hk : k = key
  · simp [lastValue?, hk]
  · simp [lastValue?, List.lookup_cons, hk, beq_false_of_ne hk]

theorem lastValue?_isSome_iff : (lastValue? members key).isSome ↔ key ∈ members.map Prod.fst := by
  simp [lastValue?]

theorem lastValue?_isSome (h : key ∈ (members.map Prod.fst).eraseDups) :
    (lastValue? members key).isSome :=
  lastValue?_isSome_iff.mpr (List.mem_eraseDups.mp h)

theorem keys_merged : (merged members).map Prod.fst = (members.map Prod.fst).eraseDups :=
  keys_entries fun _ => lastValue?_isSome

-- One more member either takes the place of its key or comes last.
theorem put_merged : put (merged members) key value = merged (members ++ [(key, value)]) := by
  have hmerged : merged (members ++ [(key, value)]) =
      entries
        ((members.map Prod.fst).eraseDups ++ ([key].removeAll (members.map Prod.fst)).eraseDups)
        fun k => if k = key then some value else lastValue? members k := by
    rw [merged_eq_entries, lastValue?_append_singleton, List.map_append, List.eraseDups_append]
    rfl
  rw [hmerged]
  by_cases hk : key ∈ members.map Prod.fst
  · have hnone : [key].removeAll (members.map Prod.fst) = [] := by simp [List.removeAll, hk]
    rw [hnone, List.eraseDups_nil, List.append_nil]
    exact put_entries (nodup_eraseDups _) (List.mem_eraseDups.mpr hk) fun _ => lastValue?_isSome
  · have hone : [key].removeAll (members.map Prod.fst) = [key] := by simp [List.removeAll, hk]
    have hkeys : key ∉ (merged members).map Prod.fst := by rwa [keys_merged, List.mem_eraseDups]
    have hold : merged members = entries (members.map Prod.fst).eraseDups
        fun k => if k = key then some value else lastValue? members k :=
      entries_congr fun k hmem =>
        (if_neg (ne_of_mem_of_not_mem (List.mem_eraseDups.mp hmem) hk)).symm
    have hnew (f : String → Option Json) (hf : f key = some value) :
        entries [key].eraseDups f = [(key, value)] := by
      simp [entries, List.eraseDups_cons, hf]
    rw [hone, put_of_not_mem hkeys, entries_append, hnew _ (if_pos rfl), hold]

-- Members that are put one after the other come out merged.
theorem foldl_put (members : List (String × Json)) :
    members.foldl (fun before member => put before member.1 member.2) [] = merged members := by
  have h (done : List (String × Json)) :
      members.foldl (fun before member => put before member.1 member.2) (merged done) =
        merged (done ++ members) := by
    induction members generalizing done with
    | nil => simp
    | cons member rest ih =>
        rw [List.foldl_cons, put_merged, ih, List.append_assoc]
        rfl
  exact h []

-- Members with different keys are merged already.
theorem merged_of_nodup (h : (members.map Prod.fst).Nodup) : merged members = members := by
  have hput (done : List (String × Json)) (hn : ((done ++ members).map Prod.fst).Nodup) :
      members.foldl (fun before member => put before member.1 member.2) done = done ++ members := by
    clear h
    induction members generalizing done with
    | nil => simp
    | cons member rest ih =>
        have hkey : member.1 ∉ done.map Prod.fst := by
          rw [List.map_append, List.nodup_append] at hn
          exact fun hmem => hn.2.2 _ hmem _ (by simp) rfl
        rw [List.foldl_cons, put_of_not_mem hkey, ih _ (by simpa using hn), List.append_assoc]
        rfl
  rw [← foldl_put, hput [] h]
  rfl

theorem nodup_keys_merged : ((merged members).map Prod.fst).Nodup := by
  rw [keys_merged]
  exact nodup_eraseDups _

theorem head?_keys_merged :
    (merged members).head?.map Prod.fst = members.head?.map Prod.fst := by
  rw [← List.head?_map, ← List.head?_map, keys_merged]
  cases members with
  | nil => rfl
  | cons member rest => simp [List.eraseDups_cons]

theorem mem_of_mem_merged (h : (key, value) ∈ merged members) : (key, value) ∈ members := by
  rw [merged_eq_entries, mem_entries, lastValue?] at h
  obtain ⟨before, after, heq, -⟩ := List.lookup_eq_some_iff.mp h.2
  have hmem : (key, value) ∈ members.reverse := by simp [heq]
  exact List.mem_reverse.mp hmem

end Grammar

end ProbeReport.Json
