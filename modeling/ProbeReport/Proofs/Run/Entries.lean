import ProbeReport.Proofs.Run.Announced

-- A report that is put together from any entries in any order, also behind a failure. Whatever is
-- refused, the sink holds the text of the whole up to its limit.
namespace ProbeReport

namespace Report

-- The text of some entries together.
def textOf (entries : List Entry) : String := String.join (entries.map Entry.text)

-- How many bytes of this text come before an entry. Its own end where those of the next begin.
def offset (entries : List Entry) (i : Nat) : Nat := (utf8 (textOf (entries.take i))).length

section Texts

variable {entries : List Entry} {i j : Nat}

theorem utf8_textOf (entries : List Entry) :
    utf8 (textOf entries) = entries.flatMap fun entry => utf8 entry.text := by
  rw [textOf, utf8_join, List.flatMap_map]

theorem textOf_append (before after : List Entry) :
    utf8 (textOf (before ++ after)) = utf8 (textOf before) ++ utf8 (textOf after) := by
  rw [utf8_textOf, utf8_textOf, utf8_textOf, List.flatMap_append]

theorem textOf_cons (entry : Entry) (rest : List Entry) :
    utf8 (textOf (entry :: rest)) = utf8 entry.text ++ utf8 (textOf rest) := by
  rw [utf8_textOf, utf8_textOf, List.flatMap_cons]

theorem textOf_take_succ (hi : i < entries.length) :
    utf8 (textOf (entries.take (i + 1))) =
      utf8 (textOf (entries.take i)) ++ utf8 entries[i].text := by
  rw [List.take_succ_eq_append_getElem hi, textOf_append, utf8_textOf [_], List.flatMap_singleton]

theorem offset_succ (hi : i < entries.length) :
    offset entries (i + 1) = offset entries i + (utf8 entries[i].text).length := by
  rw [offset, textOf_take_succ hi, List.length_append, offset]

theorem offset_le (h : i ≤ j) : offset entries i ≤ offset entries j := by
  obtain ⟨more, hm⟩ := List.take_prefix_take_left (l := entries) h
  have hl := congrArg List.length (textOf_append (entries.take i) more)
  rw [hm, List.length_append] at hl
  simp only [offset]
  omega

theorem take_offset (entries : List Entry) (i : Nat) :
    (utf8 (textOf entries)).take (offset entries i) = utf8 (textOf (entries.take i)) := by
  have h := textOf_append (entries.take i) (entries.drop i)
  rw [List.take_append_drop] at h
  rw [h, offset, List.take_left]

-- No entry is empty, so that a full sink refuses it.
theorem length_text_pos (entry : Entry) : 0 < (utf8 entry.text).length := by
  have hn : 0 < (utf8 "\n").length := by decide
  cases entry with
  | start =>
      rw [Entry.text, Entry.parts, ← start, start_eq, utf8_append, List.length_append]
      omega
  | header title =>
      rw [Entry.text, Entry.parts, ← header, header_eq]
      simp only [utf8_append, List.length_append]
      omega
  | status code =>
      rw [Entry.text, Entry.parts, ← status, status_eq]
      simp only [utf8_append, List.length_append]
      omega
  | outcome told =>
      rw [Entry.text, Entry.parts, String.join_cons, String.join_nil, String.append_empty]
      cases told with
      | response code contentType body =>
          simp only [outcome, utf8_append, List.length_append]
          omega
      | exception reason =>
          simp only [outcome, utf8_append, List.length_append]
          omega
  | completion dashboard =>
      simp only [Entry.text, Entry.parts, completionParts, String.join_cons, utf8_append,
        List.length_append]
      omega

end Texts

end Report

namespace Run

open Report

section Entries

variable {entry : Entry} {j : Journal}

-- The parts of an entry are written as if they were one text.
theorem run_enter (entry : Entry) (j : Journal) :
    (enter entry).run j =
      (if j.sink.Fits (utf8 entry.text).length then .ok () else .error (.io j.sink.refusal),
        { j with sink := j.sink.extend (utf8 entry.text) }) := by
  have hr := @trace_reached_writes _ Action.requests (fun _ => rfl) j.sink entry.parts
  have he := @trace_reached_writes _ Action.events (fun _ => rfl) j.sink entry.parts
  rw [enter, ← performAll_writes, run_performAll, Journal.extend, outputOf_writes, hr, he,
    List.append_nil, List.append_nil]
  rfl

theorem enterEach_cons (entry : Entry) (rest : List Entry) (j : Journal) :
    enterEach (entry :: rest) j =
      (⟨j.sink.fitting (utf8 entry.text),
          if j.sink.Fits (utf8 entry.text).length then .ok () else .error (.io j.sink.refusal)⟩ ::
          (enterEach rest { j with sink := j.sink.extend (utf8 entry.text) }).1,
        (enterEach rest { j with sink := j.sink.extend (utf8 entry.text) }).2) := by
  have hw : (j.sink.extend (utf8 entry.text)).bytes.drop j.sink.bytes.length =
      j.sink.fitting (utf8 entry.text) := List.drop_left
  simp only [enterEach, run_enter, hw]

-- Together the entries add what fits of their text. They leave no other trace.
theorem journal_enterEach (entries : List Entry) (j : Journal) :
    (enterEach entries j).2 = { j with sink := j.sink.extend (utf8 (textOf entries)) } := by
  induction entries generalizing j with
  | nil =>
      have ht : utf8 (textOf []) = [] := rfl
      rw [ht, Sink.extend_nil]
      rfl
  | cons entry rest ih => rw [enterEach_cons, ih, textOf_cons, Sink.extend_append]

theorem length_enterEach (entries : List Entry) (j : Journal) :
    (enterEach entries j).1.length = entries.length := by
  induction entries generalizing j with
  | nil => rfl
  | cons entry rest ih => rw [enterEach_cons, List.length_cons, List.length_cons, ih]

-- An entry finds the sink as those before it have left it.
theorem getElem?_enterEach {entries : List Entry} {i : Nat} (hi : i < entries.length)
    (j : Journal) :
    let found := j.sink.extend (utf8 (textOf (entries.take i)))
    (enterEach entries j).1[i]? =
      some ⟨found.fitting (utf8 entries[i].text),
        if found.Fits (utf8 entries[i].text).length then .ok ()
          else .error (.io j.sink.refusal)⟩ := by
  intro found
  induction entries generalizing i j with
  | nil => exact absurd hi (Nat.not_lt_zero i)
  | cons entry rest ih =>
      cases i with
      | zero =>
          have hf : found = j.sink := Sink.extend_nil j.sink
          rw [hf, enterEach_cons]
          rfl
      | succ i =>
          have hf : found =
              (j.sink.extend (utf8 entry.text)).extend (utf8 (textOf (rest.take i))) := by
            simp only [found, List.take_succ_cons, textOf_cons, Sink.extend_append]
          rw [hf, enterEach_cons, List.getElem?_cons_succ, ih (Nat.lt_of_succ_lt_succ hi)]
          rfl

end Entries

section Limited

variable {n : Nat} {silentWhenFull flushFails : Bool} {before text : List UInt8}

-- What a limited sink takes of a text is what its limit leaves of it.
theorem fitting_behind :
    ((freshSink (some n) silentWhenFull flushFails).extend before).fitting text =
      ((before ++ text).take n).drop before.length := by
  have hl : (before.take n).length = min n before.length := List.length_take
  rw [List.drop_take, List.drop_left]
  simp only [Sink.fitting, Sink.extend, freshSink, List.nil_append, List.length_nil, Nat.sub_zero]
  rw [hl]
  congr 1
  omega

theorem fits_behind (n : Nat) (silentWhenFull flushFails : Bool) (before : List UInt8)
    (h : 0 < text.length) :
    ((freshSink (some n) silentWhenFull flushFails).extend before).Fits text.length ↔
      before.length + text.length ≤ n := by
  have hl : (before.take n).length = min n before.length := List.length_take
  simp only [Sink.Fits, Sink.fitting, Sink.extend, freshSink, List.nil_append, List.length_nil,
    Nat.sub_zero, Option.mem_def, Option.some.injEq, forall_eq', hl]
  omega

-- An entry adds what the limit leaves of its own text, and fails when that is not all of it.
theorem getElem?_limited {entries : List Entry} {i : Nat} (hi : i < entries.length) :
    (enterEach entries ⟨freshSink (some n) silentWhenFull flushFails, [], []⟩).1[i]? =
      some ⟨(((utf8 (textOf entries)).take n).take (offset entries (i + 1))).drop
          (offset entries i),
        if offset entries (i + 1) ≤ n then .ok ()
          else .error (.io (freshSink (some n) silentWhenFull flushFails).refusal)⟩ := by
  have hwrote : (((utf8 (textOf entries)).take n).take (offset entries (i + 1))).drop
      (offset entries i) =
      ((utf8 (textOf (entries.take i)) ++ utf8 entries[i].text).take n).drop
        (utf8 (textOf (entries.take i))).length := by
    rw [List.take_take, Nat.min_comm, ← List.take_take, take_offset, textOf_take_succ hi, offset]
  have hfits := fits_behind n silentWhenFull flushFails (utf8 (textOf (entries.take i)))
    (length_text_pos entries[i])
  rw [← offset, ← offset_succ hi] at hfits
  rw [getElem?_enterEach hi, fitting_behind, hwrote]
  simp only [hfits]

end Limited

-- On a sink without a limit each entry writes its text. On a limited one the bytes that are there
-- in the end are the first of the whole text, each entry has added those that lie within its own,
-- and it has failed when its own ends behind the limit. After that nothing is added.
theorem enterEach_limited (entries : List Entry) (n : Nat) (silentWhenFull flushFails : Bool) :
    let whole := utf8 (textOf entries)
    let sink := freshSink (some n) silentWhenFull flushFails
    let contributions := (enterEach entries ⟨sink, [], []⟩).1
    let bytes := (enterEach entries ⟨sink, [], []⟩).2.sink.bytes
    (∀ entry, (enter entry).run ⟨.unlimited, [], []⟩ =
      (.ok (), ⟨{ Sink.unlimited with bytes := utf8 entry.text }, [], []⟩)) ∧
    bytes = whole.take n ∧
    contributions.length = entries.length ∧
    (∀ i : Fin entries.length,
      contributions[i.val]? =
        some ⟨(bytes.take (offset entries (i + 1))).drop (offset entries i),
          if offset entries (i + 1) ≤ n then .ok () else .error (.io sink.refusal)⟩) ∧
    ∀ (i k : Fin entries.length) (failed : Contribution), i < k →
      contributions[i.val]? = some failed → failed.result ≠ .ok () →
      contributions[k.val]? = some ⟨[], .error (.io sink.refusal)⟩ := by
  intro whole sink contributions bytes
  have hunlimited : ∀ entry, (enter entry).run ⟨.unlimited, [], []⟩ =
      (.ok (), ⟨{ Sink.unlimited with bytes := utf8 entry.text }, [], []⟩) := by
    intro entry
    rw [run_enter, if_pos (fits_unlimited _)]
    rfl
  have hbytes : bytes = whole.take n := by
    simp only [bytes, journal_enterEach]
    exact bytes_extend_freshSink (some n) silentWhenFull flushFails whole
  have hparts : ∀ i : Fin entries.length, contributions[i.val]? =
      some ⟨(bytes.take (offset entries (i + 1))).drop (offset entries i),
        if offset entries (i + 1) ≤ n then .ok () else .error (.io sink.refusal)⟩ := by
    intro i
    rw [hbytes]
    exact getElem?_limited i.isLt
  refine ⟨hunlimited, hbytes, length_enterEach entries _, hparts, fun i k failed hik hi hf => ?_⟩
  have hend : n < offset entries (i + 1) := by
    rw [hparts i, Option.some.injEq] at hi
    rw [← hi] at hf
    exact Nat.lt_of_not_le fun hle => hf (if_pos hle)
  have hbegin : offset entries (i + 1) ≤ offset entries k := offset_le hik
  have hlater : offset entries k ≤ offset entries (k + 1) := offset_le (Nat.le_succ k)
  have hlength : bytes.length ≤ n := by
    rw [hbytes]
    exact List.length_take_le n whole
  have hnone : (bytes.take (offset entries (k + 1))).drop (offset entries k) = [] := by
    rw [List.drop_eq_nil_iff, List.length_take]
    omega
  rw [hparts k, hnone, if_neg (by omega)]

-- A limit within the first character of the banner, and an entry behind it.
theorem enterEach_limited_cut :
    let entries : List Entry := [.status 404, .start, .header "Health Check"]
    let contributions := (enterEach entries ⟨freshSink (some 14) true false, [], []⟩).1
    contributions[1]? = some ⟨[0xf0, 0x9f], .error (.io .shortWrite)⟩ ∧
      contributions[2]? = some ⟨[], .error (.io .shortWrite)⟩ := by
  intro entries contributions
  obtain ⟨-, hbytes, -, hparts, hlater⟩ := enterEach_limited entries 14 true false
  have hcut : contributions[1]? = some ⟨[0xf0, 0x9f], .error (.io .shortWrite)⟩ := by
    have hwrote : (((utf8 (textOf entries)).take 14).take (offset entries 2)).drop
        (offset entries 1) = [0xf0, 0x9f] := by decide +kernel
    have hend : ¬offset entries 2 ≤ 14 := by decide +kernel
    have h := hparts ⟨1, by decide⟩
    rw [hbytes, if_neg hend] at h
    refine h.trans ?_
    rw [Option.some.injEq, Contribution.mk.injEq]
    exact ⟨hwrote, rfl⟩
  exact ⟨hcut, hlater ⟨1, by decide⟩ ⟨2, by decide⟩ _ (by decide) hcut (by simp)⟩

end Run

end ProbeReport
