import ProbeReport.Proofs.Log.Decision
import ProbeReport.Proofs.Log.Directive
import ProbeReport.Proofs.Program.Levels

-- Which events an environment lets through, whatever their targets and severities.
namespace ProbeReport

namespace Environment

-- A variable that lists texts, with commas between them.
structure Lists (value : Option (List UInt8)) (texts : List String) : Prop where
  nonempty : texts ≠ []
  pieces : ∀ text ∈ texts, ',' ∉ text.toList
  holds : value = some (utf8 (",".intercalate texts))

end Environment

namespace Log

namespace Settings

variable {env : Environment}

-- Anything else than a level is as good as none.
theorem resolveFilter_of_not_setsLevel (h : ∀ least, ¬env.SetsLevel least) :
    (resolveFilter env).1 = (Environment.text? env.logFilter).getD defaultFilter := by
  have hnamed : ∀ level ∈ levels, ∃ least ∈ Severity.all, least.name = level := by decide
  rw [resolveFilter]
  cases ht : Environment.text? env.logLevel with
  | none => rfl
  | some text =>
      have hlevel : levels.contains (Text.lowercase text) = false := by
        rw [Bool.eq_false_iff]
        intro hc
        obtain ⟨least, -, hl⟩ := hnamed _ (List.contains_iff_mem.1 hc)
        exact h least ⟨text, Environment.text?_eq_some_iff.1 ht, hl.symm⟩
      rw [Option.map_some]
      simp only [hlevel]
      rfl

end Settings

theorem Filter.enables_singleton_iff {name target : String} {names : List String}
    {least severity : Severity} :
    Filter.enables [⟨some name, [], some least⟩] target names severity = true ↔
      name.toList <+: target.toList ∧ least ≤ severity := by
  have hcovers : (Directive.mk (some name) [] (some least)).covers target names = true ↔
      name.toList <+: target.toList := Filter.covers_iff rfl
  rw [← hcovers]
  by_cases hc : (Directive.mk (some name) [] (some least)).covers target names = true
  · rw [Filter.enables_singleton hc]
    simp [Threshold.admits, hc]
  · simp [Filter.enables, Filter.decisive?, hc]

theorem Directive.Reads.names_eq {s : List Char} {d : Directive} (h : Directive.Reads s d) :
    d.names = [] := by
  cases h <;> rfl

-- Plain texts make plain filters.
theorem Filter.Reads.isPlain {texts : List String} {f : Filter} (h : Filter.Reads texts f) :
    f.IsPlain := by
  induction h with
  | nil => exact List.forall_mem_nil _
  | cons hd _ ih => exact List.forall_mem_cons.2 ⟨hd.names_eq, ih⟩

end Log

namespace Program

section Enabling

variable {env : Environment} {target : String} {names : List String}
  {severity : Log.Severity}

theorem filterText_of_not_setsLevel (h : ∀ least, ¬env.SetsLevel least) :
    env.filterText = (Environment.text? env.logFilter).getD Log.Settings.defaultFilter :=
  Log.Settings.resolveFilter_of_not_setsLevel h

theorem filterText_of_lists {texts : List String} (h : ∀ least, ¬env.SetsLevel least)
    (hl : Environment.Lists env.logFilter texts) : env.filterText = ",".intercalate texts := by
  rw [filterText_of_not_setsLevel h, Environment.text?_eq_some_iff.2 hl.holds, Option.getD_some]

variable [Log.Patterns]

theorem enables_of_setsLevel {least : Log.Severity} (h : env.SetsLevel least) :
    enables env target names severity = true ↔
      "dashboard_probe".toList <+: target.toList ∧ least ≤ severity := by
  rw [enables, filterOf_of_setsLevel h]
  exact Log.Filter.enables_singleton_iff

theorem enables_of_reads {texts : List String} {f : Log.Filter}
    (h : ∀ least, ¬env.SetsLevel least) (hl : Environment.Lists env.logFilter texts)
    (hf : Log.Filter.Reads texts f) :
    enables env target names severity = f.enables target names severity := by
  rw [enables, filterText_of_lists h hl, filterOf, hf.ofText_eq hl.nonempty hl.pieces]

-- Without a list that can be read the default decides.
theorem enables_of_unreadable (h : ∀ least, ¬env.SetsLevel least)
    (hl : (∀ text, env.logFilter ≠ some (utf8 text)) ∨
      ∃ before text after, Environment.Lists env.logFilter (before ++ text :: after) ∧
        Log.Directive.Spoils text.toList ∧
          ∀ earlier ∈ before, ¬Log.Directive.Breaks earlier.toList) :
    enables env target names severity = true ↔
      "dashboard_probe".toList <+: target.toList ∧ .warn ≤ severity := by
  have hdefault : enables env target names severity =
      defaultFilter.enables target names severity := by
    obtain hn | ⟨before, text, after, hl, hs, hb⟩ := hl
    · have hnone : Environment.text? env.logFilter = none :=
        Option.eq_none_iff_forall_ne_some.2 fun text ht =>
          hn text (Environment.text?_eq_some_iff.1 ht)
      have hfilter : filterOf Log.Settings.defaultFilter = some (defaultFilter, []) :=
        filterOf_level .warn
      rw [enables, filterText_of_not_setsLevel h, hnone, Option.getD_none, hfilter]
    · obtain ⟨error, he⟩ := Log.Filter.exists_refused_of_spoils hl.pieces hs hb
      rw [enables, filterText_of_lists h hl, filterOf, he]
  rw [hdefault]
  exact Log.Filter.enables_singleton_iff

variable [Url.Idna] [Text.Decoders]

-- What a process prints is decided by its environment alone. A level goes before everything else
-- and is one for this program. Otherwise a list of directives is asked: of those in force the one
-- with the longest target that the target of the event begins with decides. Where there is no list,
-- or one with a level that is none, this program's warnings and worse are printed. The order in
-- which directives with different targets are listed plays no part. A list with a level that is
-- none must be read as far as that, since a directive before it might break the reading down.
theorem enables_of_environment (env : Environment) :
    (∀ network stamp, (transcript network env stamp).diagnostics =
      (warningLines env).map endLine ++
        ((logged network env).filter fun e => enables env e.target e.names e.severity).map
          (line (Log.Settings.ofEnvironment env).1 stamp) ++
        (failureLines network env).map endLine) ∧
    (∀ least, env.SetsLevel least → ∀ target names severity,
      enables env target names severity = true ↔
        "dashboard_probe".toList <+: target.toList ∧ least ≤ severity) ∧
    ((∀ least, ¬env.SetsLevel least) →
      (∀ texts f, Environment.Lists env.logFilter texts → Log.Filter.Reads texts f →
        (∀ target names severity, enables env target names severity = true ↔
          ∃ d least, f.Decides target d ∧ d.threshold = some least ∧ least ≤ severity) ∧
        ∀ env' texts' g, (∀ least, ¬Environment.SetsLevel env' least) →
          Environment.Lists env'.logFilter texts' → Log.Filter.Reads texts' g → f.Reorders g →
          ∀ target names severity,
            enables env' target names severity = enables env target names severity) ∧
      ((∀ text, env.logFilter ≠ some (utf8 text)) ∨
          (∃ before text after, Environment.Lists env.logFilter (before ++ text :: after) ∧
            Log.Directive.Spoils text.toList ∧
              ∀ earlier ∈ before, ¬Log.Directive.Breaks earlier.toList) →
        ∀ target names severity, enables env target names severity = true ↔
          "dashboard_probe".toList <+: target.toList ∧ .warn ≤ severity)) := by
  refine ⟨fun network stamp => diagnostics_transcript network env stamp,
    fun least h target names severity => enables_of_setsLevel h,
    fun h => ⟨fun texts f hl hf => ⟨?_, ?_⟩,
      fun hl target names severity => enables_of_unreadable h hl⟩⟩
  · intro target names severity
    rw [enables_of_reads h hl hf]
    exact Log.Filter.enables_iff hf.isPlain
  · intro env' texts' g h' hl' hg ho target names severity
    rw [enables_of_reads h hl hf, enables_of_reads h' hl' hg]
    exact ho.enables_eq hf.isPlain hg.isPlain target names severity

end Enabling

-- A level that is none, beside directives in two orders.
theorem enables_of_environment_loud :
    let env : Environment :=
      ⟨none, some (utf8 "loud"), some (utf8 "off,hyper,dashboard_probe=Debug"), none, none⟩
    let env' : Environment :=
      ⟨none, some (utf8 "loud"), some (utf8 "dashboard_probe=Debug,off,hyper"), none, none⟩
    enables env "dashboard_probe::config" ["message"] .debug = true ∧
      ¬enables env "reqwest" [] .error = true ∧
      ∀ target names severity,
        enables env' target names severity = enables env target names severity := by
  intro env env'
  let everything : Log.Directive := ⟨none, [], none⟩
  let hyper : Log.Directive := ⟨some "hyper", [], some .trace⟩
  let program : Log.Directive := ⟨some "dashboard_probe", [], some .debug⟩
  have hlevel (filter : Option (List UInt8)) (least : Log.Severity) :
      ¬Environment.SetsLevel ⟨none, some (utf8 "loud"), filter, none, none⟩ least := by
    rintro ⟨text, ht, hs⟩
    have hd : Environment.text? (some (utf8 "loud")) = some "loud" :=
      Environment.text?_eq_some_iff.2 rfl
    rw [Environment.text?_eq_some_iff.2 ht, Option.some.injEq] at hd
    rw [hd] at hs
    exact absurd hs (by cases least <;> decide)
  have hoff : Log.Directive.Reads "off".toList everything := .level (by decide) (by decide)
  have hhyper : Log.Directive.Reads "hyper".toList hyper :=
    .target (by decide) (Log.Threshold.ofText?_eq_none_iff.1 (by decide))
  have hprogram : Log.Directive.Reads "dashboard_probe=Debug".toList program := by
    have ht : "dashboard_probe=Debug".toList =
        "dashboard_probe".toList ++ '=' :: "Debug".toList := by decide
    rw [ht]
    exact .targetLevel (by decide) (by decide)
  have hl : Environment.Lists env.logFilter ["off", "hyper", "dashboard_probe=Debug"] :=
    ⟨by simp, by decide, by decide⟩
  have hl' : Environment.Lists env'.logFilter ["dashboard_probe=Debug", "off", "hyper"] :=
    ⟨by simp, by decide, by decide⟩
  have hf : Log.Filter.Reads ["off", "hyper", "dashboard_probe=Debug"]
      [everything, hyper, program] := .cons hoff (.cons hhyper (.cons hprogram .nil))
  have hg : Log.Filter.Reads ["dashboard_probe=Debug", "off", "hyper"]
      [program, everything, hyper] := .cons hprogram (.cons hoff (.cons hhyper .nil))
  obtain ⟨-, -, hlist⟩ := enables_of_environment env
  obtain ⟨hdecides, hreorders⟩ := (hlist (hlevel _)).1 _ _ hl hf
  refine ⟨?_, ?_, hreorders env' _ _ (hlevel _) hl' hg
    (Log.Filter.reorders_of_perm (by decide) (by decide))⟩
  · exact (hdecides _ _ _).2 ⟨program, .debug, by decide, rfl, by decide⟩
  · rw [hdecides]
    rintro ⟨d, least, hd, ht, -⟩
    have he : Log.Filter.Decides [everything, hyper, program] "reqwest" everything := by decide
    rw [hd.eq he] at ht
    cases ht

end Program

end ProbeReport
