import ProbeReport.Http.Redirect
import ProbeReport.Program
import ProbeReport.Proofs.Http.Opening
import ProbeReport.Proofs.Log.Breakdown
import ProbeReport.Proofs.Run.Transcript
import ProbeReport.Proofs.Text.Split
import ProbeReport.Proofs.Text.Utf8
import ProbeReport.Proofs.Url.Mapping
import ProbeReport.StandIns

-- What the variables for the log have to do with what is seen outside of the log: nothing, unless
-- the reading of the filter breaks down.
namespace ProbeReport

-- The address that an environment names. A variable that is unset, empty or no text names the
-- usual one.
inductive Environment.Names (env : Environment) : String → Prop where
  | given {address : String} :
      env.dashboardUrl = some (utf8 address) → address ≠ "" → env.Names address
  | usual :
      (∀ address, address ≠ "" → env.dashboardUrl ≠ some (utf8 address)) →
      env.Names Target.defaultAddress

namespace Environment

section Names

variable {env : Environment} {address : String}

theorem text?_eq_some_iff {value : Option (List UInt8)} {s : String} :
    text? value = some s ↔ value = some (utf8 s) := by
  rw [text?, Option.bind_eq_some_iff]
  simp only [Text.Utf8.decode?_eq_some_iff]
  exact ⟨fun ⟨bytes, hv, hb⟩ => hb ▸ hv, fun h => ⟨_, h, rfl⟩⟩

-- Every environment names one, be it the usual one.
theorem exists_names (env : Environment) : ∃ address, env.Names address := by
  by_cases h : ∃ address, address ≠ "" ∧ env.dashboardUrl = some (utf8 address)
  · obtain ⟨address, hn, ha⟩ := h
    exact ⟨address, .given ha hn⟩
  · exact ⟨_, .usual fun address hn ha => h ⟨address, hn, ha⟩⟩

theorem Names.ofEnvironment_eq [Url.Idna] (h : env.Names address) :
    Target.ofEnvironment env = Target.ofAddress address := by
  rw [Target.ofEnvironment]
  cases h with
  | given ha hn =>
      have hf : (text? env.dashboardUrl).filter (· ≠ "") = some address := by
        rw [Option.filter_eq_some_iff, text?_eq_some_iff]
        exact ⟨ha, decide_eq_true hn⟩
      rw [hf]
  | usual hu =>
      have hf : (text? env.dashboardUrl).filter (· ≠ "") = none := by
        rw [Option.filter_eq_none_iff]
        intro s hs hn
        exact hu s (of_decide_eq_true hn) (text?_eq_some_iff.1 hs)
      rw [hf]

end Names

-- The filter that the variables for the log come to, as a text.
def filterText (env : Environment) : String := (Log.Settings.ofEnvironment env).1.filter

-- Where that text cannot even be refused.
def BreaksDown [Log.Patterns] (env : Environment) : Prop := Log.Filter.Breaks env.filterText

end Environment

namespace Run

variable [Url.Idna] [Text.Decoders]

theorem firstFailure_eq_none_iff {network : Http.Network} {address : String}
    {probes : List Probe} :
    firstFailure network address probes = none ↔
      ∀ probe ∈ probes, ∃ outcome, (execute network address probe).result = .ok outcome := by
  rw [firstFailure, List.findSome?_eq_none_iff]
  refine forall₂_congr fun probe _ => ?_
  rw [failure?]
  cases (execute network address probe).result <;> simp

theorem run_eq_ok_iff {network : Http.Network} {target : Target} :
    (run network target .unlimited).1 = .ok () ↔
      ∀ probe ∈ target.probes, ∃ outcome,
        (execute network target.address probe).result = .ok outcome := by
  rw [← firstFailure_eq_none_iff, (run_eq network target .unlimited).1, outcome_unlimited, course]
  cases firstFailure network target.address target.probes <;> simp [Course.verdict]

end Run

section Outcomes

variable [Url.Idna] [Text.Decoders]

-- An answer that is not a success is never decoded, and neither is one that does not arrive.
theorem exists_outcome_of_not_ok {network : Http.Network} {address : String} {probe : Probe}
    (h : ∀ answer, (Http.fetch network (probe.url address)).result = .ok answer →
      answer.status ≠ 200) :
    ∃ outcome, (execute network address probe).result = .ok outcome := by
  rw [execute]
  cases hf : (Http.fetch network (probe.url address)).result with
  | error failure => exact ⟨_, rfl⟩
  | ok answer => exact ⟨_, by simp [Body.classify, h answer hf]; rfl⟩

end Outcomes

namespace Program

-- What is seen of a process without its diagnostics.
structure Visible where
  exitCode : Nat
  output : List UInt8
  requests : List Http.Request

def Transcript.visible (t : Transcript) : Visible := ⟨t.exitCode, t.output, t.requests⟩

section Parts

variable {t : Transcript} {v : Visible}

theorem exitCode_of_visible (h : t.visible = v) : t.exitCode = v.exitCode :=
  congrArg Visible.exitCode h

theorem output_of_visible (h : t.visible = v) : t.output = v.output := congrArg Visible.output h

theorem requests_of_visible (h : t.visible = v) : t.requests = v.requests :=
  congrArg Visible.requests h

end Parts

theorem filterOf_eq_none_iff [Log.Patterns] {text : String} :
    filterOf text = none ↔ Log.Filter.Breaks text := by
  rw [filterOf, Log.Filter.Breaks]
  split <;> simp_all

section Transcripts

variable [Url.Idna] [Text.Decoders]

-- The same for the address alone.
def visibleOf (network : Http.Network) (address : String) : Visible :=
  match Target.ofAddress address with
  | .error _ => ⟨1, [], []⟩
  | .ok target =>
    let (result, journal) := run network target .unlimited
    ⟨match result with
      | .ok () => 0
      | .error _ => 1,
      journal.sink.bytes, journal.requests⟩

theorem exitCode_visibleOf (network : Http.Network) (address : String) :
    (visibleOf network address).exitCode = 0 ↔
      ∃ target, Target.ofAddress address = .ok target ∧
        ∀ probe ∈ target.probes, ∃ outcome,
          (execute network target.address probe).result = .ok outcome := by
  rw [visibleOf]
  cases Target.ofAddress address with
  | error error => simp
  | ok target =>
      simp only [Except.ok.injEq, exists_eq_left', ← Run.run_eq_ok_iff]
      cases (run network target .unlimited).1 <;> simp

theorem exitCode_visibleOf_ne_panicCode (network : Http.Network) (address : String) :
    (visibleOf network address).exitCode ≠ panicCode := by
  rw [visibleOf]
  cases Target.ofAddress address with
  | error error => nofun
  | ok target =>
      dsimp only
      cases (run network target .unlimited).1 <;> nofun

-- Of an accepted address at least the first banner is told.
theorem output_visibleOf_ne_nil (network : Http.Network) {address : String} {target : Target}
    (h : Target.ofAddress address = .ok target) : (visibleOf network address).output ≠ [] := by
  have hbytes := (Run.run_eq network target .unlimited).2.1
  rw [Run.bytes_extend_unlimited] at hbytes
  rw [visibleOf, h]
  dsimp only
  have hbanner : utf8 Report.startBanner ≠ [] := by decide
  rw [hbytes, Run.reportText]
  simp only [utf8_append]
  simp [hbanner]

variable [Log.Patterns]

theorem visible_transcript (network : Http.Network) {env : Environment} {address : String}
    (h : env.Names address) (hb : ¬env.BreaksDown) (stamp : String) :
    (transcript network env stamp).visible = visibleOf network address := by
  rw [transcript, Settings.ofEnvironment, h.ofEnvironment_eq, visibleOf]
  cases Target.ofAddress address with
  | error error => rfl
  | ok target =>
      obtain ⟨⟨filter, more⟩, hf⟩ :=
        Option.ne_none_iff_exists'.1 (mt filterOf_eq_none_iff.1 hb)
      rw [Environment.filterText] at hf
      simp only [Except.map, hf, Transcript.visible, proceed]
      cases (run network target .unlimited).1 <;> rfl

theorem visible_transcript_of_breaksDown (network : Http.Network) {env : Environment}
    {address : String} (h : env.Names address) (hb : env.BreaksDown) {target : Target}
    (ht : Target.ofAddress address = .ok target) (stamp : String) :
    (transcript network env stamp).visible = ⟨panicCode, [], []⟩ := by
  have hf := filterOf_eq_none_iff.2 hb
  rw [Environment.filterText] at hf
  rw [transcript, Settings.ofEnvironment, h.ofEnvironment_eq, ht]
  simp only [Except.map, hf, Transcript.visible]

end Transcripts

theorem isAscii_defaultFilter : ∀ piece ∈ Text.splitAt ',' Log.Settings.defaultFilter.toList,
    (∀ c ∈ piece.head?, Log.Directive.isSpace c = false) ∨ ∀ c ∈ piece, c.toNat < 0x80 := by
  have hall : ∀ c ∈ Log.Settings.defaultFilter.toList, c.toNat < 0x80 :=
    Text.forall_mem_of_all (by decide)
  exact fun piece hm => .inr fun c hc => hall c (Text.of_mem_splitAt hm hc).1

end Program

end ProbeReport
