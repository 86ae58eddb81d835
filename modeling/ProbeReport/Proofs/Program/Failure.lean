import ProbeReport.Proofs.Layout
import ProbeReport.Proofs.Log.Line
import ProbeReport.Proofs.Program.Levels

-- What is said when a process fails, and what can be learned from it.
namespace ProbeReport

-- One line that tells a text in quotes, whatever follows it.
def Text.Quoted.Shows (t s : String) : Prop :=
  IsOneLine t ∧ ∀ rest, read? (t.toList ++ rest) = some (s, rest)

-- One line that tells these texts and no others, each under its name.
def Layout.Shows (line : String) (texts : List (String × String)) : Prop :=
  Text.IsOneLine line ∧ texts? line = some texts

theorem Text.Quoted.shows_encode (s : String) : Shows (encode s) s :=
  ⟨isOneLine_encode s, read?_encode s⟩

-- A text that is recorded in quotes is told in quotes.
theorem Log.Event.exists_shown {e : Event} (hn : (e.fields.map Prod.fst).Nodup)
    {data : List (String × Json)} (hd : data.Perm e.members) {name s : String}
    (h : (name, Value.shown (Text.Quoted.encode s)) ∈ e.fields) :
    ∃ told, (name, Json.string told) ∈ data ∧ Text.Quoted.Shows told s :=
  ⟨Text.Quoted.encode s, (mem_data_iff hn hd).2 ⟨_, h, rfl⟩, Text.Quoted.shows_encode s⟩

-- Only a client that could not be built is left to others.
theorem Run.ne_client_of_run [Url.Idna] [Text.Decoders] {network : Http.Network}
    {target : Target} {s : Sink} {e : Error} (h : (run network target s).1 = .error e) (causes : Causes) : e ≠ .client causes := by
  rw [(run_eq network target s).1, Course.outcome] at h
  rintro rfl
  split at h
  · split at h
    · cases h
    · cases hf : (course network target).failure <;> simp [hf, Course.verdict] at h
  · cases h

namespace Program

theorem shows_errorLine {e : Error} (h : ∀ causes, e ≠ .client causes) :
    Layout.Shows (errorLine e) e.texts := by
  have hlayout : ∃ layout, Layout.ofError? e = some layout := by
    cases e with
    | client causes => exact absurd rfl (h causes)
    | settings error => exact ⟨_, rfl⟩
    | decode error => exact ⟨_, rfl⟩
    | io error => exact ⟨_, rfl⟩
  obtain ⟨layout, hl⟩ := hlayout
  have htells : Layout.Tells (errorLine e) fun _ => e.texts := by
    rw [errorLine, hl]
    exact (Layout.tells_plain (by decide)).append (Layout.tells_of_ofError? hl)
  exact ⟨htells.isOneLine, htells.texts?_eq⟩

section Failing

variable [Url.Idna] [Text.Decoders]

-- What ends a process before its time: an address that is refused, or an answer that cannot be
-- decoded.
inductive Fails (network : Http.Network) (env : Environment) : Error → Prop where
  | refused {address : String} {error : SettingsError} :
      env.Names address → Target.ofAddress address = .error error →
      Fails network env (.settings error)
  | undecoded {address : String} {target : Target} {probe : Probe} {error : DecodeError} :
      env.Names address → Target.ofAddress address = .ok target → probe ∈ target.probes →
      (execute network target.address probe).result = .error error →
      Fails network env (.decode error)

variable {network : Http.Network} {env : Environment} {stamp : String} {e : Error}

theorem Fails.ne_client (h : Fails network env e) (causes : Causes) : e ≠ .client causes := by
  rintro rfl
  cases h

variable [Log.Patterns]

-- Which error ends a process whose filter does not break down.
theorem exists_failureLines {address : String} (hn : env.Names address)
    (hb : ¬env.BreaksDown) (hexit : (visibleOf network address).exitCode ≠ 0) :
    ∃ e, Fails network env e ∧ failureLines network env = [errorLine e] := by
  obtain ⟨found, hfilter⟩ := Option.ne_none_iff_exists'.1 (mt filterOf_eq_none_iff.1 hb)
  rw [failureLines, hn.ofEnvironment_eq, hfilter]
  cases ht : Target.ofAddress address with
  | error error => exact ⟨_, .refused hn ht, rfl⟩
  | ok target =>
      have hrun : (run network target .unlimited).1 =
          Run.Course.verdict (Run.firstFailure network target.address target.probes) :=
        (Run.run_eq network target .unlimited).1.trans (Run.outcome_unlimited _)
      cases hf : Run.firstFailure network target.address target.probes with
      | none =>
          rw [hf] at hrun
          exact absurd (by simp [visibleOf, ht, hrun, Run.Course.verdict]) hexit
      | some error =>
          obtain ⟨probe, hm, hp⟩ := List.exists_of_findSome?_eq_some hf
          refine ⟨_, .undecoded hn ht hm (Run.execute_of_failure hp), ?_⟩
          rw [hf] at hrun
          simp only [hrun, Run.Course.verdict]

-- A process that fails says why, and says it last, unless its filter broke down.
theorem exists_fails (h : (transcript network env stamp).exitCode ≠ 0) :
    (env.BreaksDown ∧ (transcript network env stamp).exitCode = panicCode) ∨
      ∃ e, Fails network env e ∧
        (transcript network env stamp).diagnostics.getLast? = some (endLine (errorLine e)) := by
  obtain ⟨address, hn⟩ := env.exists_names
  have hlast {e : Error} (hl : failureLines network env = [errorLine e]) :
      (transcript network env stamp).diagnostics.getLast? = some (endLine (errorLine e)) := by
    rw [diagnostics_transcript, hl, List.map_singleton, List.getLast?_concat]
  by_cases hb : env.BreaksDown
  · cases ht : Target.ofAddress address with
    | error error =>
        refine .inr ⟨_, .refused hn ht, hlast ?_⟩
        rw [failureLines, hn.ofEnvironment_eq, ht]
    | ok target =>
        exact .inl ⟨hb, exitCode_of_visible
          (visible_transcript_of_breaksDown network hn hb ht stamp)⟩
  · have hexit : (visibleOf network address).exitCode ≠ 0 := by
      rwa [← exitCode_of_visible (visible_transcript network hn hb stamp)]
    obtain ⟨e, he, hl⟩ := exists_failureLines hn hb hexit
    exact .inr ⟨e, he, hlast hl⟩

-- A text in quotes is one line and is read back as it was, in the log and wherever else it stands.
-- So the line that ends a process, whatever its environment and the answers hold, is one line from
-- which the texts of the error are read, each under its name, be it one of the settings, of an
-- answer or of the output. Only a process whose filter broke down ends without such a line.
theorem errorLine_reads_back :
    (∀ s, Text.Quoted.Shows (Text.Quoted.encode s) s ∧
      Text.Quoted.Shows (Log.Value.text s).toText s) ∧
    (∀ (e : Log.Event) (data : List (String × Json)) (service stamp name s : String),
      (e.fields.map Prod.fst).Nodup → Json.numberKey ∉ e.fields.map Prod.fst →
      data.Perm e.members → (name, Log.Value.shown (Text.Quoted.encode s)) ∈ e.fields →
      (∃ text, e.jsonLineOf data service stamp = endLine text ∧
        Json.parse text = .ok (e.document data service stamp)) ∧
        ∃ told, (name, Json.string told) ∈ data ∧ Text.Quoted.Shows told s) ∧
    (∀ e : Error, (∀ causes, e ≠ .client causes) → Layout.Shows (errorLine e) e.texts) ∧
    (∀ network target sink e, (run network target sink).1 = .error e →
      Layout.Shows (errorLine e) e.texts) ∧
    ∀ network env stamp, (transcript network env stamp).exitCode ≠ 0 →
      (env.BreaksDown ∧ (transcript network env stamp).exitCode = panicCode) ∨
      ∃ e, Fails network env e ∧
        (transcript network env stamp).diagnostics.getLast? = some (endLine (errorLine e)) ∧
        Layout.Shows (errorLine e) e.texts := by
  refine ⟨fun s => ⟨Text.Quoted.shows_encode s, Text.Quoted.shows_encode s⟩, ?_,
    fun e he => shows_errorLine he, ?_, ?_⟩
  · intro e data service stamp name s hn hk hd hm
    exact ⟨⟨_, rfl, Log.parse_document hn hk hd service stamp⟩,
      Log.Event.exists_shown hn hd hm⟩
  · intro network target sink e he
    exact shows_errorLine (Run.ne_client_of_run he)
  · intro network env stamp hexit
    obtain hb | ⟨e, he, hl⟩ := exists_fails hexit
    · exact .inl hb
    · exact .inr ⟨e, he, hl, shows_errorLine he.ne_client⟩

end Failing

-- An address that pretends to end its line and to be a field, a full sink, and a line feed in the
-- log.
theorem errorLine_reads_back_pretended :
    let address := "\", error: \"\n\x1b\\"
    let env : Environment := ⟨some (utf8 address), none, none, none, none⟩
    let refused : Error :=
      .settings (.unparsable "DASHBOARD_URL" address "relative URL without a base")
    let full : Error := .io (.custom .brokenPipe "sink closed")
    let e : Log.Event :=
      ⟨.info, "t", .none, [("url", .shown (Text.Quoted.encode "\n"))], by decide⟩
    (transcript .unrouted env "1970").exitCode = 1 ∧
      (∃ e, Fails .unrouted env e ∧
        (transcript .unrouted env "1970").diagnostics.getLast? = some (endLine (errorLine e)) ∧
        Layout.Shows (errorLine e) e.texts) ∧
      Layout.Shows (errorLine refused)
        [("key", "DASHBOARD_URL"), ("value", address), ("error", "relative URL without a base")] ∧
      (run .unrouted ⟨"http://h", []⟩ ⟨some 0, false, false, [], 0⟩).1 = .error full ∧
      Layout.Shows (errorLine full) [("error", "sink closed")] ∧
      ∃ told, ("url", Json.string told) ∈ e.members ∧ Text.Quoted.Shows told "\n" := by
  intro address env refused full e
  obtain ⟨-, hlog, herror, hrun, hprocess⟩ := errorLine_reads_back
  have hexit : (transcript .unrouted env "1970").exitCode = 1 := by decide +kernel
  have hfull : (run .unrouted ⟨"http://h", []⟩ ⟨some 0, false, false, [], 0⟩).1 = .error full := by
    decide +kernel
  have hends := hprocess .unrouted env "1970" (by rw [hexit]; decide)
  refine ⟨hexit, hends.resolve_left fun hb => ?_, herror refused fun _ => nofun, hfull,
    hrun _ _ _ _ hfull,
    (hlog e e.members "s" "t" "url" "\n" (by decide) (by decide) (.refl _) List.mem_cons_self).2⟩
  exact absurd (hexit.symm.trans hb.2) (by decide)

end Program

end ProbeReport
