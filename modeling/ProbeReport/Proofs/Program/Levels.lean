import ProbeReport.Proofs.Log.Decision
import ProbeReport.Proofs.Program.Visible
import ProbeReport.Proofs.Run.Story
import ProbeReport.Proofs.Text.Lowercase

-- What the level that is set for the log changes: which events are printed, and nothing else.
namespace ProbeReport

-- A variable that spells a severity, in letters of any case.
def Environment.Spells (value : Option (List UInt8)) (severity : Log.Severity) : Prop :=
  ∃ text : String, value = some (utf8 text) ∧
    text.toList.map Char.toLower = severity.name.toList

-- A level for the whole program is set by a text whose small form is its name.
def Environment.SetsLevel (env : Environment) (severity : Log.Severity) : Prop :=
  ∃ text, env.logLevel = some (utf8 text) ∧ Text.lowercase text = severity.name

section Variables

variable {env env' : Environment}

theorem Environment.Spells.setsLevel {severity : Log.Severity}
    (h : Environment.Spells env.logLevel severity) : env.SetsLevel severity := by
  obtain ⟨text, ht, hs⟩ := h
  have hname : ∀ c ∈ severity.name.toList, c.toNat < 0x80 := by
    cases severity <;> exact Text.forall_mem_of_all (by decide)
  exact ⟨text, ht, Text.lowercase_of_map_toLower hs hname⟩

theorem Target.ofEnvironment_congr [Url.Idna] (h : env'.dashboardUrl = env.dashboardUrl) :
    ofEnvironment env' = ofEnvironment env := by
  rw [ofEnvironment, ofEnvironment, h]

theorem Log.Settings.resolveFormat_congr (h : env'.logFormat = env.logFormat) :
    resolveFormat env' = resolveFormat env := by
  rw [resolveFormat, resolveFormat, h]

end Variables

namespace Log

theorem Severity.le_trans {a b c : Severity} (h : a ≤ b) (h' : b ≤ c) : a ≤ c :=
  Nat.le_trans (m := b.rank) h h'

namespace Settings

variable {env : Environment} {severity : Severity}

theorem resolveFilter_of_setsLevel (h : env.SetsLevel severity) :
    resolveFilter env = ("dashboard_probe=" ++ severity.name, []) := by
  obtain ⟨text, ht, hs⟩ := h
  have hlevel : levels.contains severity.name = true := by cases severity <;> decide
  rw [resolveFilter, Environment.text?_eq_some_iff.2 ht, Option.map_some, hs]
  exact if_pos hlevel

theorem ofEnvironment_of_spells (h : Environment.Spells env.logLevel severity) :
    ofEnvironment env =
      (⟨"dashboard_probe=" ++ severity.name, resolveFormat env,
        (Environment.text? env.serviceName).getD defaultService⟩, []) := by
  rw [ofEnvironment, resolveFilter_of_setsLevel h.setsLevel]

end Settings

-- A single directive decides about all events that it covers.
theorem Filter.enables_singleton {d : Directive} {target : String} {names : List String}
    (h : d.covers target names = true) (severity : Severity) :
    Filter.enables [d] target names severity = d.threshold.admits severity := by
  simp [Filter.enables, Filter.decisive?, h]

end Log

namespace Program

section Printed

variable [Log.Patterns]

-- Whether a process prints the events of a target that record some names and are so severe.
def enables (env : Environment) (target : String) (names : List String)
    (severity : Log.Severity) : Bool :=
  match filterOf env.filterText with
  | none => false
  | some (filter, _) => filter.enables target names severity

variable [Url.Idna]

-- What is said of variables that cannot be used.
def warningLines (env : Environment) : List String :=
  match Target.ofEnvironment env with
  | .error _ => []
  | .ok _ =>
    (Log.Settings.ofEnvironment env).2 ++
      match filterOf env.filterText with
      | none => []
      | some (_, warnings) => warnings

variable [Text.Decoders]

-- All events of a process, whatever is printed of them. There are none when its address is
-- refused or its filter breaks down.
def logged (network : Http.Network) (env : Environment) : List Log.Event :=
  match Target.ofEnvironment env, filterOf env.filterText with
  | .ok target, some _ =>
    events ⟨target, (Log.Settings.ofEnvironment env).1⟩ (run network target .unlimited).2
  | _, _ => []

def printed (network : Http.Network) (env : Environment) : List Log.Event :=
  (logged network env).filter fun e => enables env e.target e.names e.severity

-- What is said at the end of a process that fails.
def failureLines (network : Http.Network) (env : Environment) : List String :=
  match Target.ofEnvironment env, filterOf env.filterText with
  | .error error, _ => [errorLine (.settings error)]
  | .ok _, none => []
  | .ok target, some _ =>
    match (run network target .unlimited).1 with
    | .ok () => []
    | .error error => [errorLine error]

theorem diagnostics_transcript (network : Http.Network) (env : Environment) (stamp : String) :
    (transcript network env stamp).diagnostics =
      (warningLines env).map endLine ++
        (printed network env).map (line (Log.Settings.ofEnvironment env).1 stamp) ++
        (failureLines network env).map endLine := by
  have hfilter : filterOf (Log.Settings.ofEnvironment env).1.filter = filterOf env.filterText := rfl
  rw [transcript, Settings.ofEnvironment, warningLines, printed, logged, failureLines]
  unfold enables
  cases Target.ofEnvironment env with
  | error error => rfl
  | ok target =>
      simp only [Except.map, hfilter]
      cases filterOf env.filterText with
      | none => simp
      | some found =>
          simp only [proceed]
          cases (run network target .unlimited).1 <;> rfl

end Printed

-- The one event that tells the filter itself.
def filterEvent (severity : Log.Severity) : Log.Event :=
  summaryEvent ("  Log filter: dashboard_probe=" ++ severity.name)

-- An event of a process with one level, as a process with another level tells it.
def retell (most least : Log.Severity) (e : Log.Event) : Log.Event :=
  if e = filterEvent most then filterEvent least else e

section Targets

variable [Url.Idna] [Text.Decoders] {network : Http.Network} {target : Target} {s : Sink}
  {e : Log.Event}

theorem target_of_mem_sectionEvents {address : String} {probe : Probe}
    (h : e ∈ Run.sectionEvents network address probe) : e.target = Run.logTarget := by
  rw [Run.sectionEvents, List.mem_cons] at h
  obtain rfl | h := h
  · rfl
  · split at h
    · rw [List.mem_singleton.1 h]
      rename_i outcome _
      cases outcome <;> rfl
    · cases h

-- All that is logged during a run comes from one place.
theorem target_of_mem_run (h : e ∈ (run network target s).2.events) : e.target = Run.logTarget := by
  rw [Run.events_run, List.mem_cons, List.mem_append, List.mem_flatMap] at h
  obtain rfl | ⟨probe, -, hp⟩ | hc := h
  · rfl
  · exact target_of_mem_sectionEvents hp
  · split at hc
    · rw [List.mem_singleton.1 hc]
      cases Run.firstFailure network target.address target.probes <;> rfl
    · cases hc

theorem covers_of_mem_logged [Log.Patterns] {env : Environment} (h : e ∈ logged network env) :
    "dashboard_probe".toList <+: e.target.toList := by
  rw [logged] at h
  split at h
  · rename_i target _ _ _
    have hall : ∀ name ∈ ["dashboard_probe", "dashboard_probe::config", Run.logTarget],
        "dashboard_probe".toList <+: name.toList := by decide
    rw [events, List.mem_append, List.mem_cons, summary, List.mem_map] at h
    obtain (rfl | ⟨text, -, rfl⟩) | hr := h
    · exact hall _ (by simp [startEvent])
    · exact hall _ (by simp [summaryEvent])
    · exact hall _ (by simp [target_of_mem_run hr])
  · cases h

end Targets

section Retelling

variable {network : Http.Network} {env env' : Environment} {least most : Log.Severity}
  {e : Log.Event}

theorem retell_of_ne (h : e ≠ filterEvent most) : retell most least e = e := if_neg h

theorem retell_summaryEvent {text : String}
    (h : text.toList ≠ ("  Log filter: dashboard_probe=" ++ most.name).toList) :
    retell most least (summaryEvent text) = summaryEvent text := by
  refine retell_of_ne fun he => h ?_
  rw [filterEvent, summaryEvent, summaryEvent] at he
  injection he with _ _ hm
  injection hm with ht
  rw [ht]

theorem severity_retell (e : Log.Event) : (retell most least e).severity = e.severity := by
  rw [retell]
  split
  · rename_i h
    rw [h]
    rfl
  · rfl

-- Above the level of the summary, and with the same level anyway, nothing is told otherwise.
theorem retell_eq_self (h : ¬least ≤ .debug ∨ most = least) (he : least ≤ e.severity) :
    retell most least e = e := by
  obtain hd | rfl := h
  · refine retell_of_ne ?_
    rintro rfl
    exact hd he
  · rw [retell]
    split
    · rename_i hf
      exact hf.symm
    · rfl

theorem reads_level (severity : Log.Severity) :
    Log.Directive.Reads ("dashboard_probe=" ++ severity.name).toList
      ⟨some "dashboard_probe", [], some severity⟩ := by
  have hname : (String.ofList (severity.name.toList.map Char.toLower), some severity) ∈
      Log.Threshold.names := by cases severity <;> decide
  have htext : ("dashboard_probe=" ++ severity.name).toList =
      "dashboard_probe".toList ++ '=' :: severity.name.toList := by
    rw [String.toList_append]
    rfl
  rw [htext]
  exact .targetLevel (by decide) (.name hname)

variable [Log.Patterns]

theorem filterOf_level (severity : Log.Severity) :
    filterOf ("dashboard_probe=" ++ severity.name) =
      some ([⟨some "dashboard_probe", [], some severity⟩], []) := by
  have hr := reads_level severity
  have hf : Log.Filter.ofText ("dashboard_probe=" ++ severity.name) =
      .ok [⟨some "dashboard_probe", [], some severity⟩] :=
    (Log.Filter.Reads.cons hr .nil).ofText_eq (List.cons_ne_nil _ _)
      (List.forall_mem_singleton.2 hr.stands.2)
  rw [filterOf, hf]

theorem filterOf_of_setsLevel (h : env.SetsLevel least) :
    filterOf env.filterText = some ([⟨some "dashboard_probe", [], some least⟩], []) := by
  have ht : env.filterText = "dashboard_probe=" ++ least.name :=
    congrArg Prod.fst (Log.Settings.resolveFilter_of_setsLevel h)
  rw [ht, filterOf_level]

variable [Url.Idna]

theorem warningLines_of_spells (h : Environment.Spells env.logLevel least) :
    warningLines env = [] := by
  rw [warningLines, Log.Settings.ofEnvironment_of_spells h, filterOf_of_setsLevel h.setsLevel]
  split <;> rfl

variable [Text.Decoders]

-- With a level for the whole program it is the severity alone that decides.
theorem printed_of_spells (h : Environment.Spells env.logLevel least) :
    printed network env = (logged network env).filter (least ≤ ·.severity) := by
  refine List.filter_congr fun e he => ?_
  have hc : (Log.Directive.mk (some "dashboard_probe") [] (some least)).covers e.target e.names =
      true := (Log.Filter.covers_iff rfl).2 (covers_of_mem_logged he)
  rw [enables, filterOf_of_setsLevel h.setsLevel]
  exact Log.Filter.enables_singleton hc e.severity

-- A process with another level logs the same, but for the event that tells the filter.
theorem logged_retell (hleast : Environment.Spells env.logLevel least)
    (hmost : Environment.Spells env'.logLevel most)
    (hurl : env'.dashboardUrl = env.dashboardUrl) (hformat : env'.logFormat = env.logFormat) :
    logged network env = (logged network env').map (retell most least) := by
  rw [logged, logged, Target.ofEnvironment_congr hurl, Log.Settings.ofEnvironment_of_spells hleast,
    Log.Settings.ofEnvironment_of_spells hmost, Log.Settings.resolveFormat_congr hformat,
    filterOf_of_setsLevel hleast.setsLevel, filterOf_of_setsLevel hmost.setsLevel]
  cases Target.ofEnvironment env with
  | error error => rfl
  | ok target =>
      have hrun : (run network target .unlimited).2.events.map (retell most least) =
          (run network target .unlimited).2.events := by
        refine (List.map_congr_left fun e he => retell_of_ne ?_).trans (List.map_id _)
        rintro rfl
        exact absurd (target_of_mem_run he) (by simp [filterEvent, summaryEvent, Run.logTarget])
      have hstart : retell most least startEvent = startEvent :=
        retell_of_ne (by simp [startEvent, filterEvent, summaryEvent])
      have hfilter : retell most least
          (summaryEvent ("  Log filter: " ++ ("dashboard_probe=" ++ most.name))) =
          summaryEvent ("  Log filter: " ++ ("dashboard_probe=" ++ least.name)) := by
        rw [← String.append_assoc, ← String.append_assoc]
        exact if_pos rfl
      -- every other line of the summary begins otherwise
      simp only [events, summary, List.map_append, List.map_cons, List.map_nil, hrun, hstart,
        hfilter]
      rw [retell_summaryEvent (by simp), retell_summaryEvent (by simp),
        retell_summaryEvent (by simp), retell_summaryEvent (by simp)]

theorem printed_retell (hleast : Environment.Spells env.logLevel least)
    (hmost : Environment.Spells env'.logLevel most) (hle : most ≤ least)
    (hurl : env'.dashboardUrl = env.dashboardUrl) (hformat : env'.logFormat = env.logFormat) :
    printed network env =
      ((printed network env').filter (least ≤ ·.severity)).map (retell most least) := by
  have hadmits : (fun e : Log.Event => decide (least ≤ e.severity)) ∘ retell most least =
      fun e => decide (least ≤ e.severity) := by
    funext e
    simp only [Function.comp_apply, severity_retell]
  rw [printed_of_spells hleast, printed_of_spells hmost, logged_retell hleast hmost hurl hformat,
    List.filter_map, hadmits, List.filter_filter]
  congr 1
  refine List.filter_congr fun e _ => ?_
  rw [eq_comm, Bool.and_eq_left_iff_imp, decide_eq_true_eq, decide_eq_true_eq]
  exact fun h => Log.Severity.le_trans hle h

-- The summary of an accepted process always tells its filter.
theorem filterEvent_mem_logged {target : Target}
    (h : Environment.Spells env.logLevel most) (ht : Target.ofEnvironment env = .ok target) :
    filterEvent most ∈ logged network env := by
  have hm : filterEvent most =
      summaryEvent ("  Log filter: " ++ ("dashboard_probe=" ++ most.name)) := by
    rw [← String.append_assoc]
    rfl
  rw [logged, ht, hm, Log.Settings.ofEnvironment_of_spells h, filterOf_of_setsLevel h.setsLevel]
  simp [events, summary]

-- A level goes before any filter.
theorem transcript_setFilter (network : Http.Network) (h : Environment.Spells env.logLevel least)
    (filter : Option (List UInt8)) (stamp : String) :
    transcript network { env with logFilter := filter } stamp = transcript network env stamp := by
  have hset : Environment.Spells { env with logFilter := filter }.logLevel least := h
  have hlog : Log.Settings.ofEnvironment { env with logFilter := filter } =
      Log.Settings.ofEnvironment env := by
    rw [Log.Settings.ofEnvironment_of_spells hset, Log.Settings.ofEnvironment_of_spells h]
    rfl
  rw [transcript, transcript, Settings.ofEnvironment, Settings.ofEnvironment, hlog]
  rfl

theorem diagnostics_of_spells (h : Environment.Spells env.logLevel least) (stamp : String) :
    (transcript network env stamp).diagnostics =
      (printed network env).map (line (Log.Settings.ofEnvironment env).1 stamp) ++
        (failureLines network env).map endLine := by
  rw [diagnostics_transcript, warningLines_of_spells h, List.map_nil, List.nil_append]

end Retelling

section Louder

variable [Url.Idna] [Text.Decoders] [Log.Patterns]

-- With two levels, the process with the higher one prints those events of the other that are as
-- severe as it asks for, each as it stands there, but for the one that tells the filter. The
-- other variables being the same, the lines look alike, and what the filter variable holds
-- plays no part.
theorem printed_louder (network : Http.Network) {env env' : Environment}
    {least most : Log.Severity} (hleast : Environment.Spells env.logLevel least)
    (hmost : Environment.Spells env'.logLevel most) (hle : most ≤ least)
    (hurl : env'.dashboardUrl = env.dashboardUrl) (hformat : env'.logFormat = env.logFormat)
    (hservice : env'.serviceName = env.serviceName) (stamp stamp' : String) :
    let quiet := printed network env
    let loud := printed network env'
    let render := line (Log.Settings.ofEnvironment env).1
    quiet = (loud.filter (least ≤ ·.severity)).map
      (fun e => if e = filterEvent most then filterEvent least else e) ∧
    (¬least ≤ .debug ∨ most = least → quiet = loud.filter (least ≤ ·.severity)) ∧
    (transcript network env stamp).diagnostics =
      quiet.map (render stamp) ++ (failureLines network env).map endLine ∧
    (transcript network env' stamp').diagnostics =
      loud.map (render stamp') ++ (failureLines network env).map endLine ∧
    ∀ filter,
      transcript network { env with logFilter := filter } stamp = transcript network env stamp ∧
      transcript network { env' with logFilter := filter } stamp' =
        transcript network env' stamp' := by
  intro quiet loud render
  have hretell : quiet = (loud.filter (least ≤ ·.severity)).map (retell most least) :=
    printed_retell hleast hmost hle hurl hformat
  have hfailure : failureLines network env' = failureLines network env := by
    rw [failureLines, failureLines, Target.ofEnvironment_congr hurl,
      filterOf_of_setsLevel hleast.setsLevel, filterOf_of_setsLevel hmost.setsLevel]
    cases Target.ofEnvironment env <;> rfl
  have hrender : line (Log.Settings.ofEnvironment env').1 = render := by
    simp only [render, Log.Settings.ofEnvironment_of_spells hleast,
      Log.Settings.ofEnvironment_of_spells hmost, Log.Settings.resolveFormat_congr hformat,
      hservice]
    rfl
  refine ⟨hretell, fun h => ?_, diagnostics_of_spells hleast stamp, ?_, fun filter =>
    ⟨transcript_setFilter network hleast filter stamp,
      transcript_setFilter network hmost filter stamp'⟩⟩
  · rw [hretell]
    refine (List.map_congr_left fun e he => retell_eq_self h ?_).trans (List.map_id _)
    exact of_decide_eq_true (List.mem_filter.1 he).2
  · rw [diagnostics_of_spells hmost stamp', hrender, hfailure]

end Louder

-- Two levels in mixed letters, each beside a filter that would say otherwise.
theorem printed_louder_mixed :
    let quiet : Environment :=
      ⟨none, some (utf8 "Debug"), some (utf8 "off"), some (utf8 "JSON"), none⟩
    let loud : Environment :=
      ⟨none, some (utf8 "TRACE"), some (utf8 "[["), some (utf8 "JSON"), none⟩
    printed .unrouted quiet =
      ((printed .unrouted loud).filter (Log.Severity.debug ≤ ·.severity)).map
        (fun e => if e = filterEvent .trace then filterEvent .debug else e) := by
  intro quiet loud
  have hquiet : Environment.Spells quiet.logLevel .debug := ⟨"Debug", rfl, by decide⟩
  have hloud : Environment.Spells loud.logLevel .trace := ⟨"TRACE", rfl, by decide⟩
  exact (printed_louder .unrouted hquiet hloud (by decide) rfl rfl rfl "1970" "2024").1

-- The event that tells the filter is printed by both, and says something else in each.
theorem printed_tells_filter :
    let quiet : Environment := ⟨none, some (utf8 "debug"), none, none, none⟩
    let loud : Environment := ⟨none, some (utf8 "trace"), none, none, none⟩
    Environment.Spells quiet.logLevel .debug ∧ Environment.Spells loud.logLevel .trace ∧
      printed .unrouted quiet ≠
        (printed .unrouted loud).filter (Log.Severity.debug ≤ ·.severity) := by
  intro quiet loud
  have hquiet : Environment.Spells quiet.logLevel .debug := ⟨"debug", rfl, by decide⟩
  have hloud : Environment.Spells loud.logLevel .trace := ⟨"trace", rfl, by decide⟩
  have htarget : Target.ofEnvironment loud = .ok ⟨Target.defaultAddress, Probe.standard⟩ := by
    decide +kernel
  have hmem : filterEvent .trace ∈
      (printed .unrouted loud).filter (Log.Severity.debug ≤ ·.severity) := by
    rw [printed_of_spells hloud, List.mem_filter, List.mem_filter]
    exact ⟨⟨filterEvent_mem_logged hloud htarget, by decide⟩, by decide⟩
  refine ⟨hquiet, hloud, fun heq => ?_⟩
  rw [← heq, printed_retell hquiet hloud (by decide) rfl rfl, List.mem_map] at hmem
  obtain ⟨e, -, he⟩ := hmem
  rw [retell] at he
  split at he
  · exact absurd he (by decide)
  · rename_i hne
    exact hne he

end Program

end ProbeReport
