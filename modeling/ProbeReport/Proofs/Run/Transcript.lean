import ProbeReport.Proofs.Run.Whole

namespace ProbeReport.Run

section Reached

variable {s : Sink}

-- When all texts fit, everything is reached.
theorem reached_of_fits (actions : List Action) (h : s.Fits (outputOf actions).length) :
    reached s actions = actions := by
  induction actions generalizing s with
  | nil => rfl
  | cons a rest ih =>
      rw [outputOf_cons, Sink.fits_append] at h
      rw [reached, if_pos h.1, ih h.2]

theorem fits_unlimited (count : Nat) : Sink.unlimited.Fits count := by
  simp [Sink.Fits, Sink.unlimited]

theorem outcome_unlimited (c : Course) : c.outcome .unlimited = Course.verdict c.failure := by
  rw [Course.outcome, if_pos (fits_unlimited _)]
  rfl

-- A sink as it is before the run.
def freshSink (limit : Option Nat) (silentWhenFull flushFails : Bool) : Sink :=
  ⟨limit, silentWhenFull, flushFails, [], 0⟩

theorem bytes_extend_unlimited (bytes : List UInt8) :
    (Sink.unlimited.extend bytes).bytes = bytes := by
  simp [Sink.extend, Sink.fitting, Sink.unlimited]

theorem bytes_extend_freshSink (limit : Option Nat) (silentWhenFull flushFails : Bool)
    (bytes : List UInt8) :
    ((freshSink limit silentWhenFull flushFails).extend bytes).bytes =
      limit.elim bytes fun n => bytes.take n := by
  cases limit <;> simp [Sink.extend, Sink.fitting, freshSink]

theorem fits_freshSink (limit : Option Nat) (silentWhenFull flushFails : Bool) (count : Nat) :
    (freshSink limit silentWhenFull flushFails).Fits count ↔ limit.any (· < count) = false := by
  cases limit <;> simp [Sink.Fits, freshSink]

end Reached

-- What the report says at its end.
def closingText (target : Target) : Option DecodeError → String
  | none =>
    "\n" ++ Report.completionBanner ++ "\n" ++ "🌐 Open the dashboard: " ++ target.address ++
      "/admin" ++ "\n"
  | some _ => ""

theorem join_statusParts_ok : String.join (Report.statusParts 200) = "Status: 200\n" := by
  decide

theorem outputOf_closing (target : Target) (failure : Option DecodeError) :
    outputOf (closingActions target.dashboardUrl failure) = utf8 (closingText target failure) := by
  cases failure with
  | none =>
      simp only [closingActions, closingText, outputOf_writes, Report.completionParts,
        Target.dashboardUrl, String.join_cons, String.join_nil, String.append_empty,
        String.append_assoc]
  | some error => rfl

theorem requests_writes (parts : List String) :
    (parts.map Action.write).flatMap Action.requests = [] := by
  simp [Action.requests]

variable [Url.Idna] [Text.Decoders] (network : Http.Network)

-- What the report says of one probe.
def sectionText (address : String) (probe : Probe) : String :=
  "\n" ++ "=== " ++ probe.title ++ " ===\n" ++
    match (execute network address probe).result with
    | .ok outcome => Report.outcome outcome
    | .error _ => "Status: 200\n"

def reportText (target : Target) : String :=
  Report.startBanner ++ "\n" ++
    String.join
      ((executed network target.address target.probes).map (sectionText network target.address)) ++
    closingText target (firstFailure network target.address target.probes)

theorem outputOf_report (address : String) (probe : Probe) :
    outputOf (reportActions network address probe) =
      utf8 (match (execute network address probe).result with
        | .ok outcome => Report.outcome outcome
        | .error _ => "Status: 200\n") := by
  unfold reportActions
  cases hr : (execute network address probe).result with
  | ok outcome => simp [Action.output, outputOf]
  | error error =>
      have hf : failure? network address probe = some error := by simp [failure?, hr]
      simp only [outputOf_writes, (failure_path_status hf).2, join_statusParts_ok]

theorem outputOf_section (address : String) (probe : Probe) :
    outputOf (sectionActions network address probe) = utf8 (sectionText network address probe) := by
  have hh : String.join (Report.headerParts probe.title) =
      "\n" ++ "=== " ++ probe.title ++ " ===\n" := Report.header_eq probe.title
  simp only [sectionActions, outputOf_append, outputOf_writes, outputOf_cons, Action.output, hh,
    outputOf_report, sectionText, utf8_append, List.nil_append]

theorem outputOf_sections (address : String) (probes : List Probe) :
    outputOf (probes.flatMap (sectionActions network address)) =
      utf8 (String.join (probes.map (sectionText network address))) := by
  simp only [utf8_join, List.flatMap_map, ← outputOf_section, outputOf, List.flatMap_assoc]

theorem outputOf_course (target : Target) :
    outputOf (course network target).body = utf8 (reportText network target) := by
  have hs : String.join Report.startParts = Report.startBanner ++ "\n" := Report.start_eq
  simp only [course, outputOf_append, outputOf_cons, outputOf_writes, outputOf_sections,
    outputOf_closing, reportText, utf8_append, Action.output, List.nil_append, List.cons_append, hs]

theorem requests_section (address : String) (probe : Probe) :
    (sectionActions network address probe).flatMap Action.requests =
      (execute network address probe).requests := by
  have hr : (reportActions network address probe).flatMap Action.requests = [] := by
    unfold reportActions
    split
    · rfl
    · exact requests_writes _
  simp only [sectionActions, List.flatMap_append, List.flatMap_cons, requests_writes, hr,
    Action.requests, List.nil_append, List.append_nil]

theorem requests_course (target : Target) :
    (course network target).body.flatMap Action.requests =
      (executed network target.address target.probes).flatMap
        fun probe => (execute network target.address probe).requests := by
  have hc (failure : Option DecodeError) :
      (closingActions target.dashboardUrl failure).flatMap Action.requests = [] := by
    cases failure with
    | none => exact requests_writes _
    | some error => rfl
  simp only [course, List.flatMap_append, List.flatMap_cons, requests_writes, hc, Action.requests,
    List.nil_append, List.append_nil, List.flatMap_assoc, requests_section, List.cons_append]

theorem executed_of_no_failure (address : String) (probes : List Probe)
    (h : firstFailure network address probes = none) :
    executed network address probes = probes := by
  induction probes with
  | nil => rfl
  | cons probe rest ih =>
      cases hf : failure? network address probe with
      | some error => simp [firstFailure_cons_of_failure rest hf] at h
      | none =>
          rw [firstFailure_cons_of_read rest hf] at h
          rw [executed_cons_of_read rest hf, ih h]

-- The last probe that is executed is the one that fails to decode.
theorem getLast?_executed (address : String) (probes : List Probe) {error : DecodeError}
    (h : firstFailure network address probes = some error) :
    ∃ probe, (executed network address probes).getLast? = some probe ∧
      failure? network address probe = some error := by
  induction probes with
  | nil => simp [firstFailure] at h
  | cons probe rest ih =>
      cases hf : failure? network address probe with
      | some other =>
          rw [firstFailure_cons_of_failure rest hf] at h
          exact ⟨probe, by rw [executed_cons_of_failure rest hf]; rfl, by rw [hf, h]⟩
      | none =>
          rw [firstFailure_cons_of_read rest hf] at h
          obtain ⟨last, hl, he⟩ := ih h
          refine ⟨last, ?_, he⟩
          rw [executed_cons_of_read rest hf, List.getLast?_cons, hl]
          rfl

-- How a run ends on any sink, and what it leaves there.
theorem run_eq (target : Target) (s : Sink) :
    (run network target s).1 = (course network target).outcome s ∧
      (run network target s).2.sink.bytes =
        (s.extend (utf8 (reportText network target))).bytes ∧
      (run network target s).2.requests =
        (reached s (course network target).body).flatMap Action.requests := by
  have h := (course network target).run_perform ⟨s, [], []⟩
  rw [outputOf_course] at h
  unfold run
  rw [whole_eq_perform]
  exact h

-- The report is the text of the executed probes between the banners, and a run ends well
-- exactly when every answer was decoded.
theorem run_unlimited (target : Target) :
    let probes := executed network target.address target.probes
    let failure := firstFailure network target.address target.probes
    let ran := run network target .unlimited
    ran.1 = (match failure with
      | none => .ok ()
      | some error => .error (.decode error)) ∧
    ran.2.sink.bytes = utf8 (reportText network target) ∧
    ran.2.requests =
      probes.flatMap (fun probe => (execute network target.address probe).requests) ∧
    (failure = none → probes = target.probes) ∧
    (∀ error, failure = some error → ∃ probe, probes.getLast? = some probe ∧
      (execute network target.address probe).result = .error error ∧
      error.path = probe.path ∧ error.status = 200) := by
  intro probes failure ran
  obtain ⟨hresult, hbytes, hrequests⟩ := run_eq network target .unlimited
  have hfits := fits_unlimited (outputOf (course network target).body).length
  rw [bytes_extend_unlimited] at hbytes
  refine ⟨?_, hbytes, ?_, ?_, ?_⟩
  · have hv : ran.1 = Course.verdict failure := hresult.trans (outcome_unlimited _)
    rw [hv]
    cases failure <;> rfl
  · rw [hrequests, reached_of_fits _ hfits, requests_course]
  · exact executed_of_no_failure network target.address target.probes
  · intro error he
    obtain ⟨probe, hl, hf⟩ := getLast?_executed network target.address target.probes he
    exact ⟨probe, hl, execute_of_failure hf, failure_path_status hf⟩

-- A sink that is too small holds the beginning of the full report. Its refusal wins over the
-- failure of the flush, and either of them over what the run had to tell.
theorem run_limited (target : Target) (limit : Option Nat) (silentWhenFull flushFails : Bool) :
    let whole := run network target .unlimited
    let cut := run network target (freshSink limit silentWhenFull flushFails)
    let refusal : IoError :=
      if silentWhenFull then .shortWrite else .custom .brokenPipe "sink closed"
    let flushFailure : IoError := .custom .other "flush failed"
    cut.2.sink.bytes = limit.elim whole.2.sink.bytes (fun n => whole.2.sink.bytes.take n) ∧
    cut.1 =
      (if limit.any (· < whole.2.sink.bytes.length) then .error (.io refusal)
      else if flushFails then .error (.io flushFailure)
      else whole.1) ∧
    refusal.message =
      (if silentWhenFull then "failed to write whole buffer" else "sink closed") := by
  intro whole cut refusal flushFailure
  have hwhole := run_eq network target .unlimited
  have hcut := run_eq network target (freshSink limit silentWhenFull flushFails)
  have hbytes : whole.2.sink.bytes = utf8 (reportText network target) :=
    hwhole.2.1.trans (bytes_extend_unlimited _)
  refine ⟨?_, ?_, ?_⟩
  · rw [hbytes, hcut.2.1, bytes_extend_freshSink]
  · have hfull : whole.1 = Course.verdict (course network target).failure :=
      hwhole.1.trans (outcome_unlimited _)
    rw [hbytes, hfull, hcut.1, Course.outcome, outputOf_course]
    simp only [fits_freshSink]
    cases limit.any (· < (utf8 (reportText network target)).length) <;> rfl
  · cases silentWhenFull <;> rfl

end ProbeReport.Run
