import DeviceSpec.Proofs.Check.Verdict

/-!
# What a report says of its rules

Whether a report passes is read off how serious its findings are, and which rules failed off the
names that the findings carry. The two agree as long as every finding carries the name of a rule
that ran.

* **reports** — a report whose findings carry names of rules that ran (`Report.Attributed`) passes
  exactly when it names no failed rule (`Report.Attributed.passed_iff`), and two such reports can be
  put together (`Report.Attributed.append`);
* **one rule** — a rule makes findings under its own name, and each rule of one kind only: warnings,
  failures, or one of each at most (`Rule.grades_check`);
* **all rules** — so no list of rules, run in any order and any number of times, loses a failure
  (`reports_attributed`).
-/

namespace DeviceSpec

/-! ## Reports -/

/-- The findings carry names of rules that ran. -/
def Report.Attributed (r : Report) : Prop := ∀ f ∈ r.findings, f.rule ∈ r.rulesRun

/-- A report followed by another. -/
def Report.append (a b : Report) : Report := ⟨a.rulesRun ++ b.rulesRun, a.findings ++ b.findings⟩

section
variable {r a b : Report} {name : String}

theorem Report.Attributed.append (ha : a.Attributed) (hb : b.Attributed) :
    (a.append b).Attributed := by
  intro f hf
  rcases List.mem_append.mp hf with hf | hf
  · exact List.mem_append_left _ (ha f hf)
  · exact List.mem_append_right _ (hb f hf)

theorem Report.passed_iff : r.passed = true ↔ r.failures = [] := by
  simp [passed, failures, List.filter_eq_nil_iff]

theorem Report.mem_failedRules :
    name ∈ r.failedRules ↔ name ∈ r.rulesRun ∧ ∃ f ∈ r.failures, f.rule = name := by
  simp [failedRules]

/-- No failure is lost: the rules that failed are the names that failures carry. -/
theorem Report.Attributed.mem_failedRules (h : r.Attributed) :
    name ∈ r.failedRules ↔ ∃ f ∈ r.failures, f.rule = name := by
  refine Report.mem_failedRules.trans (and_iff_right_of_imp ?_)
  rintro ⟨f, hf, rfl⟩
  exact h f (List.mem_filter.mp hf).1

theorem Report.Attributed.passed_iff (h : r.Attributed) :
    r.passed = true ↔ r.failedRules = [] := by
  rw [Report.passed_iff, List.eq_nil_iff_forall_not_mem, List.eq_nil_iff_forall_not_mem]
  constructor
  · intro hnone name hname
    obtain ⟨f, hf, -⟩ := h.mem_failedRules.mp hname
    exact hnone f hf
  · intro hnone f hf
    exact hnone f.rule (h.mem_failedRules.mpr ⟨f, hf, rfl⟩)

/-- A failure under any other name makes a report fail that names no rule. -/
example :
    let report : Report := ⟨["partitions"], [⟨"partition", .fail, "no mounts"⟩]⟩
    report.passed = false ∧ report.failedRules = [] := by
  decide

theorem Report.length_failedRules_le (r : Report) :
    r.failedRules.length ≤ r.rulesRun.length :=
  List.length_filter_le _ _

end

/-! ## One rule -/

/-- How serious the findings of a rule are, one after the other. -/
def Rule.Grades (r : Rule) (grades : List Severity) : Prop :=
  match r with
  | .kernelImages | .ramdiskScripts | .halScripts => ∀ g ∈ grades, g = .warn
  | .halNames | .partitions | .loadAddress | .modules => ∀ g ∈ grades, g = .fail
  | .features | .runtimeConfigs | .copiedFiles => grades.Sublist [.warn, .fail]

section
variable {rules more : List Rule} {r : Rule} {s : Spec} {env : Surroundings} {d : Disk}

theorem Rule.Reports.grade {severity : Severity} {findings : List Finding}
    (h : r.Reports severity findings) : ∀ g ∈ findings.map Finding.severity, g = severity :=
  List.forall_mem_map.mpr fun f hf => (h f hf).2

/-- One finding at most about sources that cannot be looked at, then one at most about those that
are missing. -/
theorem grades_checkSources {rule what : String} {sources : List String} {severity : Severity} :
    ((checkSources rule what sources env severity d).map Finding.severity).Sublist
      ([.warn] ++ [severity]) := by
  rw [checkSources, List.map_append]
  refine List.Sublist.append ?_ ?_ <;> split <;> simp

theorem Rule.grades_check : r.Grades ((r.check s env d).map Finding.severity) := by
  cases r with
  | halNames => exact (reports_checkHalNames _).grade
  | kernelImages => exact (reports_checkKernelImages _ env d).grade
  | ramdiskScripts => exact (reports_checkScripts _ _ env d).grade
  | partitions => exact (reports_checkPartitions _ _).grade
  | loadAddress => exact (reports_checkLoadAddress _).grade
  | features => exact grades_checkSources
  | runtimeConfigs => exact grades_checkSources
  | copiedFiles => exact grades_checkSources
  | halScripts => exact (reports_checkScripts _ _ env d).grade
  | modules => exact (Rule.reports_flatMap (reports_checkHalModules env d)).grade

/-! ## All rules -/

theorem runRules_append : runRules (rules ++ more) s env d =
    (runRules rules s env d).append (runRules more s env d) := by
  simp [runRules, Report.append]

theorem attributed_runRules_singleton : (runRules [r] s env d).Attributed := by
  intro f hf
  rw [runRules, List.flatMap_singleton] at hf
  exact List.mem_singleton.mpr (Rule.rule_of_mem_check hf)

theorem attributed_runRules : (runRules rules s env d).Attributed := by
  induction rules with
  | nil => exact nofun
  | cons r rest ih =>
    rw [← List.singleton_append, runRules_append]
    exact attributed_runRules_singleton.append ih

end

/-- A report neither loses a failure nor blames it on another rule. Whichever rules run, in any
order and any number of times, the report has their names and, one after the other, what each of
them finds on its own. What a rule finds carries its name and is as serious as the rule can be. The
rules that failed are those under whose names there are failures, so the report passes exactly when
there are none, and there are no more of them than rules that ran. -/
theorem reports_attributed (rules : List Rule) (s : Spec) (env : Surroundings) (d : Disk) :
    let report := runRules rules s env d
    report.rulesRun = rules.map Rule.name ∧
    report.findings = rules.flatMap (fun r => (runRules [r] s env d).findings) ∧
    (∀ r : Rule, (runRules [r] s env d).findings = r.check s env d ∧
      (∀ f ∈ r.check s env d, f.rule = r.name) ∧
      r.Grades ((r.check s env d).map Finding.severity)) ∧
    (∀ name, name ∈ report.failedRules ↔ ∃ f ∈ report.failures, f.rule = name) ∧
    (report.passed = true ↔ report.failedRules = []) ∧
    report.failedRules.length ≤ report.rulesRun.length := by
  intro report
  have halone : ∀ r : Rule, (runRules [r] s env d).findings = r.check s env d :=
    fun r => List.flatMap_singleton ..
  refine ⟨rfl, ?_, fun r => ⟨halone r, fun _ => Rule.rule_of_mem_check, Rule.grades_check⟩,
    fun name => attributed_runRules.mem_failedRules, attributed_runRules.passed_iff,
    report.length_failedRules_le⟩
  simp only [halone]
  rfl

end DeviceSpec
