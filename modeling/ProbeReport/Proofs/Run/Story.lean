import Mathlib.Data.List.Forall2
import ProbeReport.Proofs.Run.Announced

-- What the log tells of a run, and that the report tells the same.
namespace ProbeReport.Run

def Says (e : Log.Event) (text : String) : Prop := e.message = .shown text

instance (e : Log.Event) (text : String) : Decidable (Says e text) :=
  inferInstanceAs (Decidable (e.message = .shown text))

-- An event that tells that a run is over.
def IsEnding (e : Log.Event) : Prop :=
  Says e "Dashboard probes finished" ∨ Says e "Aborting probe run"

-- An event that tells what became of a probe.
def IsVerdict (e : Log.Event) : Prop :=
  Says e "Probe completed" ∨ Says e "Probe failed" ∨ Says e "Aborting probe run"

instance (e : Log.Event) : Decidable (IsEnding e) :=
  inferInstanceAs (Decidable (_ ∨ _))

instance (e : Log.Event) : Decidable (IsVerdict e) :=
  inferInstanceAs (Decidable (_ ∨ _))

-- A section of the report tells what an event tells.
inductive Shows (title : String) : Log.Event → String → Prop where
  | completed {e : Log.Event} {status : Nat} {detail : String} :
      Says e "Probe completed" → ("status", .uint64 (.ofNat status)) ∈ e.fields →
      Shows title e
        (Report.header title ++ "Status: " ++ toString status ++ "\n" ++ detail ++ "\n")
  | failed {e : Log.Event} {reason : String} :
      Says e "Probe failed" → ("error", .shown reason) ∈ e.fields →
      Shows title e (Report.header title ++ "Exception: " ++ reason ++ "\n")
  | aborted {e : Log.Event} :
      Says e "Aborting probe run" → Shows title e (Report.header title ++ "Status: 200\n")

theorem events_writes (parts : List String) :
    (parts.map Action.write).flatMap Action.events = [] :=
  trace_writes (fun _ => rfl) parts

section Kinds

variable {address : String} {events : List Log.Event} {result : Except Error Unit}

theorem not_isEnding_sendingEvent (address : String) (probe : Probe) :
    ¬IsEnding (sendingEvent address probe) := by
  simp [IsEnding, Says, sendingEvent, event]

theorem not_isEnding_outcomeEvent (probe : Probe) (outcome : Outcome) :
    ¬IsEnding (outcomeEvent probe outcome) := by
  cases outcome <;> simp [IsEnding, Says, outcomeEvent, event]

theorem isVerdict_outcomeEvent (probe : Probe) (outcome : Outcome) :
    IsVerdict (outcomeEvent probe outcome) := by
  cases outcome <;> simp [IsVerdict, Says, outcomeEvent, event]

-- That a probe is asked for is told before what becomes of it.
theorem filter_isVerdict_sending {e : Log.Event} (probe : Probe) (rest : List Log.Event)
    (h : IsVerdict e) :
    ((sendingEvent address probe :: e :: rest).filter fun e => IsVerdict e) =
      e :: rest.filter fun e => IsVerdict e := by
  have hn : ¬IsVerdict (sendingEvent address probe) := by
    simp [IsVerdict, Says, sendingEvent, event]
  rw [List.filter_cons_of_neg (by simpa using hn), List.filter_cons_of_pos (by simpa using h)]

-- The end of a run is told at most once, as the last thing.
inductive Closes : List Log.Event → Except Error Unit → Prop where
  | finished {earlier : List Log.Event} :
      (∀ e ∈ earlier, ¬IsEnding e) → Closes (earlier ++ [finishEvent]) (.ok ())
  | aborted {earlier : List Log.Event} {error : DecodeError} :
      (∀ e ∈ earlier, ¬IsEnding e) →
      Closes (earlier ++ [abortEvent error]) (.error (.decode error))
  | refused {events : List Log.Event} {error : IoError} :
      (∀ e ∈ events, ¬IsEnding e) → Closes events (.error (.io error))

theorem Closes.cons {e : Log.Event} (hn : ¬IsEnding e) (h : Closes events result) :
    Closes (e :: events) result := by
  cases h with
  | @finished earlier he => exact @finished (e :: earlier) (List.forall_mem_cons.2 ⟨hn, he⟩)
  | @aborted earlier error he =>
      exact @aborted (e :: earlier) error (List.forall_mem_cons.2 ⟨hn, he⟩)
  | refused he => exact .refused (List.forall_mem_cons.2 ⟨hn, he⟩)

theorem Closes.dropLast (h : Closes events result) : ∀ e ∈ events.dropLast, ¬IsEnding e := by
  cases h with
  | finished he => rwa [List.dropLast_concat]
  | aborted he => rwa [List.dropLast_concat]
  | refused he => exact fun e hm => he e (List.dropLast_subset _ hm)

-- Only the last event can tell the end.
theorem exists_mem_concat_iff {earlier : List Log.Event} {last : Log.Event} {text : String}
    (he : ∀ e ∈ earlier, ¬IsEnding e) (ht : ∀ e, Says e text → IsEnding e) :
    (∃ e ∈ earlier ++ [last], Says e text) ↔ Says last text := by
  constructor
  · rintro ⟨e, hm, hs⟩
    obtain hm | hm := List.mem_append.1 hm
    · exact absurd (ht e hs) (he e hm)
    · rwa [List.mem_singleton.1 hm] at hs
  · exact fun hs => ⟨last, List.mem_append_right _ (List.mem_singleton_self last), hs⟩

theorem Closes.eq_ok_iff (h : Closes events result) :
    result = .ok () ↔ ∃ e ∈ events, Says e "Dashboard probes finished" := by
  have ht (e : Log.Event) : Says e "Dashboard probes finished" → IsEnding e := .inl
  cases h with
  | finished he =>
      rw [exists_mem_concat_iff he ht]
      exact iff_of_true rfl rfl
  | aborted he =>
      rw [exists_mem_concat_iff he ht]
      exact iff_of_false nofun (by simp [Says, abortEvent, event])
  | refused he => exact iff_of_false nofun fun ⟨e, hm, hs⟩ => he e hm (ht e hs)

theorem Closes.exists_decode_iff (h : Closes events result) :
    (∃ error, result = .error (.decode error)) ↔ ∃ e ∈ events, Says e "Aborting probe run" := by
  have ht (e : Log.Event) : Says e "Aborting probe run" → IsEnding e := .inr
  cases h with
  | finished he =>
      rw [exists_mem_concat_iff he ht]
      exact iff_of_false nofun (by simp [Says, finishEvent, event])
  | aborted he =>
      rw [exists_mem_concat_iff he ht]
      exact iff_of_true ⟨_, rfl⟩ rfl
  | refused he => exact iff_of_false nofun fun ⟨e, hm, hs⟩ => he e hm (ht e hs)

theorem Closes.exists_io_iff (h : Closes events result) :
    (∃ error, result = .error (.io error)) ↔ ∀ e ∈ events, ¬IsEnding e := by
  have hlast {earlier : List Log.Event} {last : Log.Event} (hl : IsEnding last) :
      ¬∀ e ∈ earlier ++ [last], ¬IsEnding e :=
    fun hn => hn last (List.mem_append_right _ (List.mem_singleton_self last)) hl
  cases h with
  | finished => exact iff_of_false nofun (hlast (.inl rfl))
  | aborted => exact iff_of_false nofun (hlast (.inr rfl))
  | refused he => exact iff_of_true ⟨_, rfl⟩ he

end Kinds

variable [Url.Idna] [Text.Decoders]

-- What is logged for probes that are asked for one after another, and how the run ends. For each
-- of them it is told that it is asked for, and then what became of it; only when the report of an
-- answer that cannot be decoded is refused is the latter left out.
inductive Story (network : Http.Network) (address : String) :
    List Probe → List Log.Event → Except Error Unit → Prop where
  | finished : Story network address [] [finishEvent] (.ok ())
  | refused {error : IoError} : Story network address [] [] (.error (.io error))
  | answered {probe : Probe} {outcome : Outcome} {probes : List Probe} {events : List Log.Event}
      {result : Except Error Unit} :
      (execute network address probe).result = .ok outcome →
      Story network address probes events result →
      Story network address (probe :: probes)
        (sendingEvent address probe :: outcomeEvent probe outcome :: events) result
  | aborted {probe : Probe} {error : DecodeError} :
      (execute network address probe).result = .error error →
      Story network address [probe] [sendingEvent address probe, abortEvent error]
        (.error (.decode error))
  | dropped {probe : Probe} {error : DecodeError} {refusal : IoError} :
      (execute network address probe).result = .error error →
      Story network address [probe] [sendingEvent address probe] (.error (.io refusal))

section Events

variable {network : Http.Network} {address : String} {probe : Probe}

-- What is logged for a probe before its section of the report is written.
def sectionEvents (network : Http.Network) (address : String) (probe : Probe) :
    List Log.Event :=
  sendingEvent address probe ::
    match (execute network address probe).result with
    | .ok outcome => [outcomeEvent probe outcome]
    | .error _ => []

theorem events_section (network : Http.Network) (address : String) (probe : Probe) :
    (sectionActions network address probe).flatMap Action.events =
      sectionEvents network address probe := by
  simp only [sectionActions, List.flatMap_append, events_writes, List.flatMap_cons,
    List.nil_append, sectionEvents, reportActions]
  cases (execute network address probe).result with
  | ok outcome => rfl
  | error error => simp only [events_writes]; rfl

theorem events_run (network : Http.Network) (target : Target) (s : Sink) :
    (run network target s).2.events =
      startEvent target ::
        ((asked network target s).flatMap (sectionEvents network target.address) ++
          if s.Fits (utf8 (reportText network target)).length ∧ s.flushFails = false then
            [Course.closing (firstFailure network target.address target.probes)]
          else []) := by
  have hbody := @trace_reached_course _ _ network target _ Action.events (fun _ => rfl) s
  have h := (course network target).events_perform ⟨s, [], []⟩
  rw [outputOf_course, Journal.extend] at h
  simp only [hbody, List.flatMap_assoc, events_section] at h
  rw [run, whole_eq_perform]
  exact h

theorem result_run (network : Http.Network) (target : Target) (s : Sink) :
    (run network target s).1 =
      if s.Fits (utf8 (reportText network target)).length then
        if s.flushFails then .error (.io (.custom .other "flush failed"))
        else Course.verdict (firstFailure network target.address target.probes)
      else .error (.io s.refusal) := by
  rw [(run_eq network target s).1, Course.outcome, outputOf_course]
  rfl

end Events

section Probes

variable {network : Http.Network} {address : String}

-- When all sections fit, so do all heads.
theorem announced_of_fits {s : Sink} {probes : List Probe}
    (h : s.Fits (utf8 (String.join (probes.map (sectionText network address)))).length) :
    announced network address s probes = probes := by
  induction probes generalizing s with
  | nil => rfl
  | cons probe rest ih =>
      rw [List.map_cons, String.join_cons, utf8_append, Sink.fits_append] at h
      have hhead : s.Fits (utf8 (Report.header probe.title)).length := by
        have hsection := h.1
        rw [utf8_sectionText, Sink.fits_append] at hsection
        exact hsection.1
      rw [announced, if_pos hhead, ih h.2]

theorem asked_of_fits {target : Target} {s : Sink}
    (h : s.Fits (utf8 (reportText network target)).length) :
    asked network target s = executed network target.address target.probes := by
  rw [reportText, ← Report.start_eq, utf8_append, utf8_append, Sink.fits_append,
    Sink.fits_append] at h
  exact announced_of_fits h.1.2

theorem read_or_failed (network : Http.Network) (address : String) (probe : Probe) :
    (∃ outcome, failure? network address probe = none ∧
      (execute network address probe).result = .ok outcome) ∨
    ∃ error, failure? network address probe = some error ∧
      (execute network address probe).result = .error error := by
  unfold failure?
  cases (execute network address probe).result with
  | ok outcome => exact .inl ⟨outcome, rfl, rfl⟩
  | error error => exact .inr ⟨error, rfl, rfl⟩

-- What is logged for some of the probes up to a refusal.
theorem story_refused {probes first : List Probe} (h : first <+: executed network address probes)
    (error : IoError) :
    Story network address first (first.flatMap (sectionEvents network address))
      (.error (.io error)) := by
  induction probes generalizing first with
  | nil =>
      rw [List.prefix_nil.1 h]
      exact .refused
  | cons probe rest ih =>
      cases first with
      | nil => exact .refused
      | cons other more =>
          obtain ⟨outcome, hf, hr⟩ | ⟨failure, hf, hr⟩ := read_or_failed network address probe
          · rw [executed_cons_of_read rest hf, List.cons_prefix_cons] at h
            obtain ⟨rfl, hmore⟩ := h
            rw [List.flatMap_cons, sectionEvents, hr]
            exact .answered hr (ih hmore)
          · rw [executed_cons_of_failure rest hf, List.cons_prefix_cons, List.prefix_nil] at h
            obtain ⟨rfl, rfl⟩ := h
            rw [List.flatMap_cons, sectionEvents, hr]
            exact .dropped hr

-- What is logged when nothing is refused.
theorem story_complete (network : Http.Network) (address : String) (probes : List Probe) :
    Story network address (executed network address probes)
      ((executed network address probes).flatMap (sectionEvents network address) ++
        [Course.closing (firstFailure network address probes)])
      (Course.verdict (firstFailure network address probes)) := by
  induction probes with
  | nil => exact .finished
  | cons probe rest ih =>
      obtain ⟨outcome, hf, hr⟩ | ⟨failure, hf, hr⟩ := read_or_failed network address probe
      · rw [executed_cons_of_read rest hf, firstFailure_cons_of_read rest hf, List.flatMap_cons,
          sectionEvents, hr]
        exact .answered hr ih
      · rw [executed_cons_of_failure rest hf, firstFailure_cons_of_failure rest hf,
          List.flatMap_cons, sectionEvents, hr]
        exact .aborted hr

end Probes

section Story

variable {network : Http.Network} {address : String} {probes : List Probe}
  {events : List Log.Event} {result : Except Error Unit}

theorem story_run (network : Http.Network) (target : Target) (s : Sink) :
    ∃ events, (run network target s).2.events = startEvent target :: events ∧
      Story network target.address (asked network target s) events (run network target s).1 := by
  refine ⟨_, events_run network target s, ?_⟩
  rw [result_run]
  by_cases hfits : s.Fits (utf8 (reportText network target)).length
  · rw [if_pos hfits]
    cases hflush : s.flushFails with
    | false =>
        rw [if_pos ⟨hfits, rfl⟩, asked_of_fits hfits]
        exact story_complete network target.address target.probes
    | true =>
        rw [if_neg (by simp), List.append_nil]
        exact story_refused (announced_isPrefix _ _) _
  · rw [if_neg hfits, if_neg (fun h => hfits h.1), List.append_nil]
    exact story_refused (announced_isPrefix _ _) _

theorem shows_outcome {probe : Probe} {outcome : Outcome}
    (h : (execute network address probe).result = .ok outcome) :
    Shows probe.title (outcomeEvent probe outcome) (sectionText network address probe) := by
  rw [sectionText, ← Report.header_eq, h]
  cases outcome with
  | response status contentType body =>
      have htext : Report.outcome (.response status contentType body) =
          "Status: " ++ toString status ++ "\n" ++ Report.detail body ++ "\n" :=
        congrArg (· ++ Report.detail body ++ "\n") (Report.status_eq status)
      have hshows := @Shows.completed probe.title
        (outcomeEvent probe (.response status contentType body)) status (Report.detail body) rfl
        (by simp [outcomeEvent, event])
      simpa only [htext, String.append_assoc] using hshows
  | exception reason =>
      have hshows := @Shows.failed probe.title (outcomeEvent probe (.exception reason)) reason rfl
        (by simp [outcomeEvent, event])
      simpa only [Report.outcome, String.append_assoc] using hshows

theorem shows_abort {probe : Probe} {error : DecodeError}
    (h : (execute network address probe).result = .error error) :
    Shows probe.title (abortEvent error) (sectionText network address probe) := by
  rw [sectionText, ← Report.header_eq, h]
  exact .aborted rfl

theorem Story.closes (h : Story network address probes events result) : Closes events result := by
  induction h with
  | finished => exact @Closes.finished [] nofun
  | refused => exact .refused nofun
  | answered hr _ ih =>
      exact (ih.cons (not_isEnding_outcomeEvent _ _)).cons (not_isEnding_sendingEvent _ _)
  | aborted hr =>
      exact .cons (not_isEnding_sendingEvent _ _) (@Closes.aborted [] _ nofun)
  | dropped hr =>
      exact .refused (List.forall_mem_singleton.2 (not_isEnding_sendingEvent _ _))

-- Unless the report was refused, the sections show one after another what was told of the probes.
theorem Story.shows (h : Story network address probes events result)
    (hr : ∀ error, result ≠ .error (.io error)) :
    List.Forall₂ (fun e probe => Shows probe.title e (sectionText network address probe))
      (events.filter fun e => IsVerdict e) probes := by
  induction h with
  | finished =>
      have hn : ¬IsVerdict finishEvent := by simp [IsVerdict, Says, finishEvent, event]
      rw [List.filter_singleton, decide_eq_false hn]
      exact .nil
  | refused => exact absurd rfl (hr _)
  | @answered probe outcome probes events result he _ ih =>
      rw [filter_isVerdict_sending probe events (isVerdict_outcomeEvent probe outcome)]
      exact .cons (shows_outcome he) (ih hr)
  | @aborted probe error he =>
      have hy : IsVerdict (abortEvent error) := .inr (.inr rfl)
      rw [filter_isVerdict_sending probe [] hy]
      exact .cons (shows_abort he) .nil
  | dropped => exact absurd rfl (hr _)

end Story

end ProbeReport.Run
