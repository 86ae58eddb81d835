import ProbeReport.Proofs.Run.Transcript

-- Which probes a run asks for when its output is cut: those whose heads came out in full.
namespace ProbeReport.Run

section Reached

variable {s : Sink} {actions : List Action}

theorem reached_isPrefix (s : Sink) (actions : List Action) : reached s actions <+: actions := by
  induction actions generalizing s with
  | nil => exact List.prefix_rfl
  | cons a rest ih =>
      rw [reached]
      split
      · exact List.cons_prefix_cons.2 ⟨rfl, ih _⟩
      · exact List.nil_prefix

theorem reached_append (s : Sink) (first second : List Action) :
    reached s (first ++ second) =
      if s.Fits (outputOf first).length then first ++ reached (s.extend (outputOf first)) second
      else reached s first := by
  induction first generalizing s with
  | nil =>
      have ho : outputOf [] = [] := rfl
      rw [ho, if_pos s.fits_nil, Sink.extend_nil]
      rfl
  | cons a rest ih =>
      rw [List.cons_append, reached, reached, ih, outputOf_cons, Sink.extend_append]
      by_cases ha : s.Fits a.output.length
      · simp only [Sink.fits_append, ha, true_and, if_true]
        split <;> rfl
      · simp only [Sink.fits_append, ha, false_and, if_false]

-- An action without output is reached whenever what stands before it is.
theorem reached_cons_of_silent (rest : List Action) {a : Action} (h : a.output = []) :
    reached s (a :: rest) = a :: reached s rest := by
  rw [reached, h, if_pos s.fits_nil, Sink.extend_nil]

-- What a trace shows of actions when writing leaves none in it: requests, for example.
variable {α : Type} {trace : Action → List α} (silent : ∀ text, trace (.write text) = [])

include silent

theorem trace_writes (parts : List String) : (parts.map Action.write).flatMap trace = [] := by
  rw [List.flatMap_map, List.flatMap_eq_nil_iff]
  exact fun text _ => silent text

theorem trace_reached_writes (s : Sink) (parts : List String) :
    (reached s (parts.map .write)).flatMap trace = [] := by
  have hall := List.flatMap_eq_nil_iff.1 (trace_writes silent parts)
  rw [List.flatMap_eq_nil_iff]
  exact fun a ha => hall a ((reached_isPrefix s _).subset ha)

end Reached

section Heads

variable {s : Sink}

theorem outputOf_start : outputOf (Report.startParts.map .write) = utf8 Report.start :=
  outputOf_writes _

theorem outputOf_header (title : String) :
    outputOf ((Report.headerParts title).map .write) = utf8 (Report.header title) :=
  outputOf_writes _

theorem head_ne_nil (title : String) : utf8 (Report.header title) ≠ [] := by
  simp [Report.header, Report.headerParts, utf8]

-- A sink that was given more than it takes does not take another head.
theorem not_fits_head {bytes : List UInt8} (h : ¬s.Fits bytes.length) (title : String) :
    ¬(s.extend bytes).Fits (utf8 (Report.header title)).length := by
  rw [Sink.fits_iff_fitting, Sink.fitting_extend_of_not_fits h]
  exact (head_ne_nil title).symm

end Heads

section Limits

theorem countP_eq_zero_of_lt {first limit : Nat} {rest : List Nat}
    (hp : (first :: rest).Pairwise (· ≤ ·)) (hl : limit < first) :
    (first :: rest).countP (· ≤ limit) = 0 := by
  rw [List.countP_eq_zero]
  intro e he
  have hle : first ≤ e := by
    obtain rfl | hm := List.mem_cons.1 he
    · exact Nat.le_refl e
    · exact (List.pairwise_cons.1 hp).1 e hm
  simp only [decide_eq_true_eq]
  omega

theorem countP_cons_of_le {first limit : Nat} (rest : List Nat) (hl : first ≤ limit) :
    (first :: rest).countP (· ≤ limit) = rest.countP (· ≤ limit) + 1 := by
  rw [List.countP_cons, if_pos (decide_eq_true hl)]

-- In a rising list the numbers up to a limit are the first ones.
theorem lt_countP_iff {ends : List Nat} (hp : ends.Pairwise (· ≤ ·)) {limit i e : Nat}
    (he : ends[i]? = some e) : i < ends.countP (· ≤ limit) ↔ e ≤ limit := by
  induction ends generalizing i with
  | nil => cases he
  | cons first rest ih =>
      obtain ⟨hfirst, hrest⟩ := List.pairwise_cons.1 hp
      by_cases hl : first ≤ limit
      · rw [countP_cons_of_le rest hl]
        cases i with
        | zero =>
            cases he
            exact iff_of_true (Nat.succ_pos _) hl
        | succ i => rw [Nat.succ_lt_succ_iff, ih hrest he]
      · have hle : first ≤ e := by
          obtain rfl | hm := List.mem_cons.1 (List.mem_of_getElem? he)
          · exact Nat.le_refl e
          · exact hfirst e hm
        rw [countP_eq_zero_of_lt hp (Nat.lt_of_not_le hl)]
        omega

end Limits

variable [Url.Idna] [Text.Decoders]

section Sections

variable {network : Http.Network} {address : String} {s : Sink}

theorem utf8_sectionText (probe : Probe) :
    utf8 (sectionText network address probe) =
      utf8 (Report.header probe.title) ++ outputOf (reportActions network address probe) := by
  rw [← outputOf_section, sectionActions, outputOf_append, outputOf_writes, outputOf_cons,
    outputOf_cons]
  rfl

-- The probes whose heads a sink takes in full when it is given one section after another.
def announced (network : Http.Network) (address : String) (s : Sink) : List Probe → List Probe
  | [] => []
  | probe :: rest =>
    if s.Fits (utf8 (Report.header probe.title)).length then
      probe :: announced network address (s.extend (utf8 (sectionText network address probe))) rest
    else []

theorem announced_isPrefix (s : Sink) (probes : List Probe) :
    announced network address s probes <+: probes := by
  induction probes generalizing s with
  | nil => exact List.prefix_rfl
  | cons probe rest ih =>
      rw [announced]
      split
      · exact List.cons_prefix_cons.2 ⟨rfl, ih _⟩
      · exact List.nil_prefix

theorem announced_full {bytes : List UInt8} (h : ¬s.Fits bytes.length) (probes : List Probe) :
    announced network address (s.extend bytes) probes = [] := by
  cases probes with
  | nil => rfl
  | cons probe rest => rw [announced, if_neg (not_fits_head h probe.title)]

variable {α : Type} {trace : Action → List α} (silent : ∀ text, trace (.write text) = [])

include silent

-- All that is told of the outcome besides the report is told before the report goes on.
theorem trace_reached_report (s : Sink) (probe : Probe) :
    (reached s (reportActions network address probe)).flatMap trace =
      (reportActions network address probe).flatMap trace := by
  unfold reportActions
  split
  · rename_i outcome _
    rw [reached_cons_of_silent _ rfl, List.flatMap_cons, List.flatMap_cons]
    congr 1
    exact (trace_reached_writes silent s [Report.outcome outcome]).trans
      (trace_writes silent [Report.outcome outcome]).symm
  · rw [trace_reached_writes silent, trace_writes silent]

-- Of a section everything is done or nothing, and it is the head that decides.
theorem trace_reached_section (s : Sink) (probe : Probe) :
    (reached s (sectionActions network address probe)).flatMap trace =
      if s.Fits (utf8 (Report.header probe.title)).length then
        (sectionActions network address probe).flatMap trace
      else [] := by
  rw [sectionActions, reached_append, outputOf_header]
  split
  · rw [reached_cons_of_silent _ rfl, reached_cons_of_silent _ rfl]
    simp only [List.flatMap_append, List.flatMap_cons, trace_reached_report silent]
  · exact trace_reached_writes silent s _

-- By induction on the probes: a section that is cut fills the sink, so no head follows.
theorem trace_reached_sections (s : Sink) (probes : List Probe) (closing : List String) :
    (reached s (probes.flatMap (sectionActions network address) ++ closing.map .write)).flatMap
        trace =
      ((announced network address s probes).flatMap (sectionActions network address)).flatMap
        trace := by
  induction probes generalizing s with
  | nil => exact trace_reached_writes silent s closing
  | cons probe rest ih =>
      rw [List.flatMap_cons, List.append_assoc, reached_append, outputOf_section, announced]
      have hsplit := @Sink.fits_append s (utf8 (Report.header probe.title))
        (outputOf (reportActions network address probe))
      rw [← utf8_sectionText] at hsplit
      by_cases hs : s.Fits (utf8 (sectionText network address probe)).length
      · rw [if_pos hs, if_pos (hsplit.1 hs).1, List.flatMap_append, ih, List.flatMap_cons,
          List.flatMap_append]
      · rw [if_neg hs, trace_reached_section silent, announced_full hs]
        split
        · rw [List.flatMap_cons, List.flatMap_nil, List.append_nil]
        · rfl

end Sections

-- The probes of a run whose heads come out in full.
def asked (network : Http.Network) (target : Target) (s : Sink) : List Probe :=
  announced network target.address (s.extend (utf8 Report.start))
    (executed network target.address target.probes)

section Whole

variable {network : Http.Network} {target : Target} {α : Type} {trace : Action → List α}
  (silent : ∀ text, trace (.write text) = [])

include silent

theorem trace_reached_course (s : Sink) :
    (reached s (course network target).body).flatMap trace =
      trace (.log (startEvent target)) ++
        ((asked network target s).flatMap (sectionActions network target.address)).flatMap
          trace := by
  have hc (failure : Option DecodeError) :
      ∃ parts : List String, closingActions target.dashboardUrl failure = parts.map .write := by
    cases failure with
    | none => exact ⟨_, rfl⟩
    | some error => exact ⟨[], rfl⟩
  obtain ⟨closing, hclosing⟩ := hc (firstFailure network target.address target.probes)
  simp only [course, hclosing, List.cons_append, List.append_assoc]
  rw [reached_cons_of_silent _ rfl, List.flatMap_cons, reached_append, outputOf_start, asked]
  congr 1
  by_cases hs : s.Fits (utf8 Report.start).length
  · rw [if_pos hs, List.flatMap_append, trace_writes silent, List.nil_append,
      trace_reached_sections silent]
  · rw [if_neg hs, trace_reached_writes silent, announced_full hs]
    rfl

end Whole

theorem requests_run (network : Http.Network) (target : Target) (s : Sink) :
    (run network target s).2.requests =
      (asked network target s).flatMap fun probe =>
        (execute network target.address probe).requests := by
  rw [(run_eq network target s).2.2, trace_reached_course fun _ => rfl, List.flatMap_assoc]
  simp only [requests_section]
  rfl

section Ends

variable (network : Http.Network) (address : String)

-- The report up to the end of the head of a probe that comes behind so many others.
def throughHead (before : String) (probes : List Probe) (i : Nat) (probe : Probe) : String :=
  before ++ String.join ((probes.take i).map (sectionText network address)) ++
    Report.header probe.title

-- Where the heads of probes end that are reported one after another.
def headEnds (before : String) (probes : List Probe) : List Nat :=
  probes.mapIdx fun i probe => (utf8 (throughHead network address before probes i probe)).length

variable {network address} {before : String}

theorem headEnds_cons (probe : Probe) (rest : List Probe) :
    headEnds network address before (probe :: rest) =
      (utf8 (before ++ Report.header probe.title)).length ::
        headEnds network address (before ++ sectionText network address probe) rest := by
  simp only [headEnds, List.mapIdx_cons, throughHead, List.take_zero, List.map_nil,
    String.join_nil, String.empty_append, List.take_succ_cons, List.map_cons, String.join_cons,
    String.append_assoc]

theorem length_head_le (before : String) (probe : Probe) :
    (utf8 (before ++ Report.header probe.title)).length ≤
      (utf8 (before ++ sectionText network address probe)).length := by
  simp only [utf8_append, utf8_sectionText, List.length_append]
  omega

theorem le_of_mem_headEnds {probes : List Probe} {e : Nat}
    (h : e ∈ headEnds network address before probes) : (utf8 before).length ≤ e := by
  induction probes generalizing before with
  | nil => cases h
  | cons probe rest ih =>
      rw [headEnds_cons, List.mem_cons] at h
      obtain rfl | h := h
      · simp only [utf8_append, List.length_append, Nat.le_add_right]
      · refine Nat.le_trans ?_ (ih h)
        simp only [utf8_append, List.length_append, Nat.le_add_right]

theorem pairwise_headEnds (before : String) (probes : List Probe) :
    (headEnds network address before probes).Pairwise (· ≤ ·) := by
  induction probes generalizing before with
  | nil => exact .nil
  | cons probe rest ih =>
      rw [headEnds_cons]
      refine .cons (fun e he => ?_) (ih _)
      exact Nat.le_trans (length_head_le before probe) (le_of_mem_headEnds he)

-- On a new sink the heads that come out are those that end within its limit.
theorem announced_freshSink (limit : Nat) (silentWhenFull flushFails : Bool) (before : String)
    (probes : List Probe) :
    announced network address
        ((freshSink (some limit) silentWhenFull flushFails).extend (utf8 before)) probes =
      probes.take ((headEnds network address before probes).countP (· ≤ limit)) := by
  let s := freshSink (some limit) silentWhenFull flushFails
  have hfits (text : String) : s.Fits (utf8 text).length ↔ (utf8 text).length ≤ limit := by
    simp [s, fits_freshSink]
  induction probes generalizing before with
  | nil => rfl
  | cons probe rest ih =>
      have hsplit := @Sink.fits_append s (utf8 before) (utf8 (Report.header probe.title))
      rw [← utf8_append, hfits] at hsplit
      have hp := @pairwise_headEnds _ _ network address before (probe :: rest)
      rw [headEnds_cons] at hp
      rw [announced, headEnds_cons]
      by_cases hl : (utf8 (before ++ Report.header probe.title)).length ≤ limit
      · rw [if_pos (hsplit.1 hl).2, countP_cons_of_le _ hl, List.take_succ_cons,
          ← Sink.extend_append, ← utf8_append, ih]
      · have hhead : ¬(s.extend (utf8 before)).Fits (utf8 (Report.header probe.title)).length := by
          by_cases hb : s.Fits (utf8 before).length
          · exact fun hh => hl (hsplit.2 ⟨hb, hh⟩)
          · exact not_fits_head hb probe.title
        rw [if_neg hhead, countP_eq_zero_of_lt hp (Nat.lt_of_not_le hl), List.take_zero]

-- Up to each of its heads a text is the beginning of the whole.
theorem throughHead_isPrefix {probes : List Probe} {i : Nat} {probe : Probe}
    (h : probes[i]? = some probe) (closing : String) :
    utf8 (throughHead network address before probes i probe) <+:
      utf8 (before ++ String.join (probes.map (sectionText network address)) ++ closing) := by
  obtain ⟨hi, rfl⟩ := List.getElem?_eq_some_iff.1 h
  have hsplit : probes.map (sectionText network address) =
      (probes.take i).map (sectionText network address) ++
        sectionText network address probes[i] ::
          (probes.drop (i + 1)).map (sectionText network address) := by
    rw [← List.map_cons, ← List.map_append, List.getElem_cons_drop, List.take_append_drop]
  rw [throughHead, hsplit]
  simp only [utf8_append, utf8_join, List.flatMap_append, List.flatMap_cons, utf8_sectionText,
    List.append_assoc, List.prefix_append_right_inj]
  exact List.prefix_append _ _

end Ends

-- A sink of limited size decides which probes are asked for: those whose heads end within the
-- limit, which are the first ones, and which are the ones whose heads can be read in full.
theorem run_asks_behind_heads (network : Http.Network) (target : Target) (limit : Nat)
    (silentWhenFull flushFails : Bool) :
    let whole := run network target .unlimited
    let cut := run network target (freshSink (some limit) silentWhenFull flushFails)
    let probes := executed network target.address target.probes
    let through := throughHead network target.address Report.start probes
    let count := (probes.mapIdx fun i probe => (utf8 (through i probe)).length).countP (· ≤ limit)
    cut.2.requests =
      (probes.take count).flatMap (fun probe => (execute network target.address probe).requests) ∧
    ∀ i probe, probes[i]? = some probe →
      utf8 (through i probe) <+: whole.2.sink.bytes ∧
      (i < count ↔ utf8 (through i probe) <+: cut.2.sink.bytes) := by
  intro whole cut probes through count
  have hwhole : whole.2.sink.bytes = utf8 (reportText network target) :=
    (run_eq network target .unlimited).2.1.trans (bytes_extend_unlimited _)
  have hcut : cut.2.sink.bytes = (utf8 (reportText network target)).take limit :=
    (run_eq network target _).2.1.trans (bytes_extend_freshSink _ _ _ _)
  refine ⟨?_, fun i probe hp => ?_⟩
  · rw [requests_run, asked, announced_freshSink]
    rfl
  · have hbegins : utf8 (through i probe) <+: utf8 (reportText network target) := by
      rw [reportText, ← Report.start_eq]
      exact throughHead_isPrefix hp _
    have hend : (headEnds network target.address Report.start probes)[i]? =
        some (utf8 (through i probe)).length := by
      rw [headEnds, List.getElem?_mapIdx, hp]
      rfl
    rw [hwhole, hcut, List.prefix_take_iff]
    refine ⟨hbegins, (lt_countP_iff (pairwise_headEnds _ _) hend).trans ?_⟩
    exact ⟨fun h => ⟨hbegins, h⟩, fun h => h.2⟩

end ProbeReport.Run
