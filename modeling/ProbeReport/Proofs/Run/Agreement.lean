import ProbeReport.Http.Redirect
import ProbeReport.Proofs.Http.Agreement
import ProbeReport.Proofs.Run.Story
import ProbeReport.Proofs.Url.Mapping
import ProbeReport.StandIns

-- A run against two servers goes the same way as long as they answer alike what it asks for.
namespace ProbeReport.Run

-- The journal behind the first lines of the report.
def started (target : Target) (s : Sink) : Journal :=
  Journal.extend ⟨s, [], [startEvent target]⟩ (Report.startParts.map .write)

theorem sink_started (target : Target) (s : Sink) :
    (started target s).sink = s.extend (utf8 Report.start) := by
  rw [← outputOf_start]
  rfl

section Sections

variable [Url.Idna] [Text.Decoders]

theorem executed_cons {network : Http.Network} {address : String} (probe : Probe)
    (rest : List Probe) :
    ∃ more, executed network address (probe :: rest) = probe :: more := by
  cases hf : failure? network address probe with
  | none => exact ⟨_, executed_cons_of_read rest hf⟩
  | some error => exact ⟨_, executed_cons_of_failure rest hf⟩

variable {network other : Http.Network} {target : Target} {probe : Probe} {j k : Journal}

theorem runProbe_congr
    (h : execute other target.address probe = execute network target.address probe) :
    runProbe other target probe = runProbe network target probe := by
  rw [runProbe, h, ← runProbe]

-- Without its head a section is refused before anybody is asked.
theorem run_runProbe_of_cut (h : ¬j.sink.Fits (utf8 (Report.header probe.title)).length) :
    (runProbe network target probe).run j =
      (.error (.io j.sink.refusal), j.extend ((Report.headerParts probe.title).map .write)) := by
  rw [runProbe, ← performAll_writes, run_bind, run_performAll, outputOf_header, if_neg h]

-- A run only goes on behind a section that came out in full.
theorem of_run_runProbe_eq_ok (h : (runProbe network target probe).run j = (.ok (), k)) :
    failure? network target.address probe = none ∧
      k.sink = j.sink.extend (utf8 (sectionText network target.address probe)) := by
  cases hf : failure? network target.address probe with
  | none =>
      rw [runProbe_of_read network target probe hf, run_performAll] at h
      have hk : j.extend (sectionActions network target.address probe) = k :=
        congrArg Prod.snd h
      rw [← hk, ← outputOf_section]
      exact ⟨rfl, rfl⟩
  | some error =>
      rw [runProbe_of_failure network target probe hf, run_bind, run_performAll] at h
      split at h
      · have hr := congrArg Prod.fst h
        rw [(Course.run_finish _ _).1] at hr
        split at hr <;> cases hr
      · cases h

end Sections

section Runs

variable [Url.Idna] [Text.Decoders] {network other : Http.Network} {target : Target}

-- By induction on the probes, step by step: either the head of a section is refused on both
-- sides, or both do the same for the probe and go on alike.
theorem run_runProbes_congr (j : Journal) (probes : List Probe)
    (h : ∀ probe ∈ announced network target.address j.sink
        (executed network target.address probes),
      execute other target.address probe = execute network target.address probe) :
    (runProbes other target probes).run j = (runProbes network target probes).run j := by
  induction probes generalizing j with
  | nil => rfl
  | cons probe rest ih =>
      rw [runProbes, runProbes, run_bind, run_bind]
      by_cases hhead : j.sink.Fits (utf8 (Report.header probe.title)).length
      · have hprobe : execute other target.address probe =
            execute network target.address probe := by
          refine h probe ?_
          obtain ⟨more, hmore⟩ := executed_cons probe rest
          rw [hmore, announced, if_pos hhead]
          exact List.mem_cons_self
        rw [runProbe_congr hprobe]
        rcases hk : (runProbe network target probe).run j with ⟨_ | _, k⟩
        · rfl
        · obtain ⟨hread, hsink⟩ := of_run_runProbe_eq_ok hk
          refine ih k fun later hlater => h later ?_
          rw [executed_cons_of_read rest hread, announced, if_pos hhead, ← hsink]
          exact List.mem_cons_of_mem _ hlater
      · rw [run_runProbe_of_cut hhead, run_runProbe_of_cut hhead]

theorem run_eq_started (network : Http.Network) (target : Target) (s : Sink) :
    run network target s =
      if s.Fits (utf8 Report.start).length then
        ((do
          runProbes network target target.probes
          writeParts (Report.completionParts target.dashboardUrl)
          flush
          log finishEvent) : Step Unit).run (started target s)
      else (.error (.io s.refusal), started target s) := by
  rw [run, whole, run_bind, run_log, ← performAll_writes]
  dsimp only
  rw [run_bind, run_performAll, outputOf_start]
  by_cases hs : s.Fits (utf8 Report.start).length
  · rw [if_pos hs, if_pos hs]
    rfl
  · rw [if_neg hs, if_neg hs]
    rfl

theorem run_congr {s : Sink} (h : ∀ probe ∈ asked network target s,
      execute other target.address probe = execute network target.address probe) :
    run other target s = run network target s := by
  have hprobes : (runProbes other target target.probes).run (started target s) =
      (runProbes network target target.probes).run (started target s) := by
    refine run_runProbes_congr (started target s) target.probes ?_
    rwa [sink_started]
  rw [run_eq_started, run_eq_started, run_bind, run_bind, hprobes]

-- What a sink gets when every answer can be decoded: a section for each probe.
theorem bytes_run_of_decoded (s : Sink)
    (h : ∀ error, (run network target .unlimited).1 ≠ .error (.decode error)) :
    (run network target s).2.sink.bytes =
      (s.extend (utf8 (Report.start ++
        String.join (target.probes.map (sectionText network target.address)) ++
        closingText target none))).bytes := by
  have hfailure : firstFailure network target.address target.probes = none := by
    cases hf : firstFailure network target.address target.probes with
    | none => rfl
    | some error =>
        refine absurd ?_ (h error)
        rw [(run_eq network target .unlimited).1, outcome_unlimited]
        exact congrArg Course.verdict hf
  rw [(run_eq network target s).2.1, reportText, hfailure, Report.start_eq,
    executed_of_no_failure network target.address target.probes hfailure]

end Runs

-- A run depends on the answers to what it asks for and on nothing else that a server could
-- answer. When all answers can be decoded there is a section for each probe, and it depends on
-- the answers to what is asked for on behalf of this probe only.
theorem run_depends_on_answers [Url.Idna] [Text.Decoders] (network other : Http.Network)
    (target : Target) (s : Sink) :
    let isSent (probe : Probe) := ∃ first, Http.Opening (probe.url target.address) first
    let text (n : Http.Network) := Report.start ++
      String.join (target.probes.map (sectionText n target.address)) ++ closingText target none
    (((∃ probe ∈ asked network target s, isSent probe) → Http.ReachedAlike network other) →
      Http.AnsweredAlike network other (run network target s).2.requests →
      run other target s = run network target s) ∧
    ((∀ error, (run network target .unlimited).1 ≠ .error (.decode error)) →
      (∀ error, (run other target .unlimited).1 ≠ .error (.decode error)) →
      (run network target s).2.sink.bytes = (s.extend (utf8 (text network))).bytes ∧
      (run other target s).2.sink.bytes = (s.extend (utf8 (text other))).bytes ∧
      ∀ probe ∈ target.probes, (isSent probe → Http.ReachedAlike network other) →
        Http.AnsweredAlike network other (execute network target.address probe).requests →
        sectionText other target.address probe = sectionText network target.address probe) := by
  intro isSent text
  refine ⟨fun hreach halike => run_congr fun probe hm => ?_, fun hn ho => ⟨?_, ?_, ?_⟩⟩
  · refine execute_congr (fun first hfirst => hreach ⟨probe, hm, first, hfirst⟩) ?_
    intro r hr
    apply halike r
    rw [requests_run]
    exact List.mem_flatMap.2 ⟨probe, hm, hr⟩
  · exact bytes_run_of_decoded s hn
  · exact bytes_run_of_decoded s ho
  · intro probe _ hreach halike
    rw [sectionText, sectionText,
      execute_congr (fun first hfirst => hreach ⟨first, hfirst⟩) halike]

-- A server that sends on whoever asks for one page, with more pages besides.
def forwarding (more : List (String × Http.Reply)) : Http.Network :=
  ⟨.standard, true, true,
    .ofTable (("/a", ⟨⟨302, [], some "/b".toUTF8.toList, []⟩, none⟩) :: more) none⟩

-- A page that comes to be changes nothing for a probe that only asks for others.
theorem run_depends_on_answers_forwarding :
    let less : Http.Network := forwarding []
    let more : Http.Network := forwarding [("/c", ⟨⟨500, [], none, []⟩, none⟩)]
    let probe : Probe := ⟨"/a", "A"⟩
    let other : Probe := ⟨"/c", "C"⟩
    let requests : List Http.Request := [⟨.get, "http://h/a", none⟩, ⟨.get, "http://h/b", none⟩]
    (execute less "http://h" probe).requests = requests ∧
    Http.AnsweredAlike less more requests ∧
    (run more ⟨"http://h", [probe]⟩ .unlimited = run less ⟨"http://h", [probe]⟩ .unlimited) ∧
    (run less ⟨"http://h", [probe, other]⟩ .unlimited).1 = .ok () ∧
    (run more ⟨"http://h", [probe, other]⟩ .unlimited).1 = .ok () ∧
    sectionText more "http://h" probe = sectionText less "http://h" probe ∧
    sectionText more "http://h" other ≠ sectionText less "http://h" other := by
  intro less more probe other requests
  have hrequests : (execute less "http://h" probe).requests = requests := by decide +kernel
  have halike : Http.AnsweredAlike less more requests := by
    unfold Http.AnsweredAlike
    decide +kernel
  have hran : (run less ⟨"http://h", [probe]⟩ .unlimited).2.requests = requests := by
    rw [requests_run, asked_of_fits (fits_unlimited _)]
    decide +kernel
  have hless : (run less ⟨"http://h", [probe, other]⟩ .unlimited).1 = .ok () := by
    have hfailure : firstFailure less "http://h" [probe, other] = none := by decide +kernel
    rw [(run_unlimited less _).1, hfailure]
  have hmore : (run more ⟨"http://h", [probe, other]⟩ .unlimited).1 = .ok () := by
    have hfailure : firstFailure more "http://h" [probe, other] = none := by decide +kernel
    rw [(run_unlimited more _).1, hfailure]
  refine ⟨hrequests, halike, ?_, hless, hmore, ?_, ?_⟩
  · exact (run_depends_on_answers less more ⟨"http://h", [probe]⟩ .unlimited).1
      (fun _ => ⟨rfl, rfl, fun _ => rfl⟩) (by rwa [hran])
  · have hsections := (run_depends_on_answers less more ⟨"http://h", [probe, other]⟩ .unlimited).2
      (by simp [hless]) (by simp [hmore])
    exact hsections.2.2 probe List.mem_cons_self (fun _ => ⟨rfl, rfl, fun _ => rfl⟩)
      (by rwa [hrequests])
  · decide +kernel

end ProbeReport.Run
