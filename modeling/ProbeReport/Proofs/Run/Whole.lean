import ProbeReport.Proofs.Run.Course

namespace ProbeReport.Run

variable [Url.Idna] [Text.Decoders] (network : Http.Network) (address : String)

def failure? (probe : Probe) : Option DecodeError :=
  match (execute network address probe).result with
  | .ok _ => none
  | .error error => some error

def isRead (probe : Probe) : Bool := (failure? network address probe).isNone

-- How a run over these probes fails to decode an answer, if it does.
def firstFailure (probes : List Probe) : Option DecodeError :=
  probes.findSome? (failure? network address)

-- The probes up to and including the first whose answer cannot be decoded.
def executed (probes : List Probe) : List Probe :=
  probes.takeWhile (isRead network address) ++
    (probes.find? fun probe => !isRead network address probe).toList

-- What follows the request for a probe, up to the end of its section of the report.
def reportActions (probe : Probe) : List Action :=
  match (execute network address probe).result with
  | .ok outcome => [.log (outcomeEvent probe outcome), .write (Report.outcome outcome)]
  | .error error => (Report.statusParts error.status).map .write

def sectionActions (probe : Probe) : List Action :=
  (Report.headerParts probe.title).map .write ++
    .log (sendingEvent address probe) :: .ask (execute network address probe).requests ::
      reportActions network address probe

-- The closing texts are only written when every answer was decoded.
def closingActions (dashboard : String) : Option DecodeError → List Action
  | none => (Report.completionParts dashboard).map .write
  | some _ => []

-- All that a run does.
def course (target : Target) : Course :=
  let failure := firstFailure network target.address target.probes
  { body :=
      .log (startEvent target) :: Report.startParts.map .write ++
        (executed network target.address target.probes).flatMap
          (sectionActions network target.address) ++
        closingActions target.dashboardUrl failure
    failure := failure }

section Probes

variable {network address} {probe : Probe}

theorem isRead_eq_true_iff : isRead network address probe = true ↔
    failure? network address probe = none := by
  simp [isRead]

theorem executed_cons_of_read (rest : List Probe) (h : failure? network address probe = none) :
    executed network address (probe :: rest) = probe :: executed network address rest := by
  have hr := isRead_eq_true_iff.mpr h
  simp [executed, hr]

theorem executed_cons_of_failure (rest : List Probe) {error : DecodeError}
    (h : failure? network address probe = some error) :
    executed network address (probe :: rest) = [probe] := by
  have hr : isRead network address probe = false := by simp [isRead, h]
  simp [executed, hr]

theorem firstFailure_cons_of_read (rest : List Probe)
    (h : failure? network address probe = none) :
    firstFailure network address (probe :: rest) = firstFailure network address rest := by
  simp [firstFailure, h]

theorem firstFailure_cons_of_failure (rest : List Probe) {error : DecodeError}
    (h : failure? network address probe = some error) :
    firstFailure network address (probe :: rest) = some error := by
  simp [firstFailure, h]

-- Only a successful answer can fail to decode, and the failure tells the path that was asked.
theorem failure_path_status {error : DecodeError}
    (h : failure? network address probe = some error) :
    error.path = probe.path ∧ error.status = 200 := by
  unfold failure? execute at h
  cases hf : (Http.fetch network (probe.url address)).result with
  | error failure => simp [hf] at h
  | ok answer =>
      simp only [hf] at h
      cases hc : Body.classify answer.status answer.contentType answer.text with
      | ok body => simp [hc] at h
      | error fault =>
          simp only [hc, Option.some.injEq] at h
          subst h
          refine ⟨rfl, Decidable.byContradiction fun hs => ?_⟩
          simp [Body.classify, hs] at hc

theorem execute_of_failure {error : DecodeError}
    (h : failure? network address probe = some error) :
    (execute network address probe).result = .error error := by
  unfold failure? at h
  split at h
  · simp at h
  · rename_i other he
    rw [he, Option.some.inj h]

end Probes

-- Up to the outcome of the request, all probes are treated alike.
theorem performAll_section (probe : Probe) :
    performAll (sectionActions network address probe) = (do
      writeParts (Report.headerParts probe.title)
      log (sendingEvent address probe)
      modify fun j => { j with requests := j.requests ++ (execute network address probe).requests }
      performAll (reportActions network address probe)) := by
  simp only [sectionActions, performAll_append, performAll_cons, performAll_writes]
  rfl

theorem runProbe_of_read (target : Target) (probe : Probe)
    (h : failure? network target.address probe = none) :
    runProbe network target probe = performAll (sectionActions network target.address probe) := by
  rw [performAll_section]
  unfold failure? at h
  cases hr : (execute network target.address probe).result with
  | error error => simp [hr] at h
  | ok outcome =>
      have hw : performAll [.write (Report.outcome outcome)] = write (Report.outcome outcome) :=
        bind_pure_unit
      simp only [runProbe, reportActions, hr, performAll_cons _ [_], hw]
      rfl

theorem runProbe_of_failure (target : Target) (probe : Probe) {error : DecodeError}
    (h : failure? network target.address probe = some error) :
    runProbe network target probe =
      (do performAll (sectionActions network target.address probe)
          Course.finish (some error)) := by
  rw [performAll_section]
  simp only [runProbe, reportActions, execute_of_failure h, performAll_writes, bind_assoc]
  rfl

theorem runProbes_eq (target : Target) (probes : List Probe) (next : Step Unit) :
    (do runProbes network target probes; next) =
      (do performAll ((executed network target.address probes).flatMap
            (sectionActions network target.address))
          match firstFailure network target.address probes with
          | none => next
          | some error => Course.finish (some error)) := by
  induction probes with
  | nil => rfl
  | cons probe rest ih =>
      have hb : runProbes network target (probe :: rest) =
          (do runProbe network target probe; runProbes network target rest) := rfl
      rw [hb, bind_assoc]
      cases h : failure? network target.address probe with
      | none =>
          rw [ih, runProbe_of_read network target probe h, executed_cons_of_read rest h,
            firstFailure_cons_of_read rest h, List.flatMap_cons, performAll_append, bind_assoc]
      | some error =>
          rw [runProbe_of_failure network target probe h, executed_cons_of_failure rest h,
            firstFailure_cons_of_failure rest h, List.flatMap_cons, List.flatMap_nil,
            List.append_nil, bind_assoc, Course.finish_failure_bind]

-- A run is the performance of its course.
theorem whole_eq_perform (target : Target) :
    whole network target = (course network target).perform := by
  unfold whole Course.perform course
  rw [runProbes_eq]
  simp only [performAll_append, performAll_cons, performAll_writes, bind_assoc, List.cons_append]
  cases firstFailure network target.address target.probes with
  | none => simp only [closingActions, performAll_writes]; rfl
  | some error => rfl

end ProbeReport.Run
