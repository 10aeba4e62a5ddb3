import DeviceSpec.Proofs.Check.Verdict
import DeviceSpec.Proofs.Generate.Scripts
import DeviceSpec.Proofs.Render.Sources

/-!
# What is said about init scripts

The scripts of the ramdisk and those of the HALs are checked in one way, and each script on its
own. A script without fault has one source, of which all is used, and its file is there.

* **one script** — nothing is said about where a script comes from exactly when all of it is used
  (`checkScriptSource_eq_nil_iff`), and nothing at all exactly when it is without fault
  (`checkScripts_singleton_eq_nil_iff`);
* **all scripts** — what is said about a list of scripts is what is said about each of them, in
  order, and reaches the report (`warned_of_unused`), so whoever loses part of a script is told
  (`script_warnings_complete`).
-/

namespace DeviceSpec

/-- Either a file or a name is given, nothing else is given beside a file, and the file that is
installed lies in the device directory. -/
structure InitScript.Faultless (i : InitScript) (env : Surroundings) (d : Disk) : Prop where
  source : i.file ≠ "" ∧ i.name = "" ∨ i.file = "" ∧ i.name ≠ ""
  content : i.file ≠ "" → i.imports = [] ∧ i.actions = [] ∧ i.services = []
  present : ∃ name, i.installed? = some name ∧
    d.pathExists (env.dir.join (dropSlashes name)) = true

section

variable {rule : Rule} {i : InitScript} {scripts : List InitScript} {s : Spec} {env : Surroundings}
  {d : Disk}

/-! ## One script -/

/-- Where a script comes from is settled exactly when all of it is used. -/
theorem checkScriptSource_eq_nil_iff : checkScriptSource rule i = [] ↔ i.used? = some i := by
  rw [InitScript.used?_eq_self_iff]
  rcases i.source_cases with h | h | h | h <;>
    simp [checkScriptSource, h, InitScript.hasUnusedContent, and_assoc]

/-- A script that has a file or a name is looked for where the makefile copies it from. -/
theorem checkScriptFile_eq_nil_iff {name : String} (h : i.installed? = some name) :
    checkScriptFile rule i env d = [] ↔
      d.pathExists (env.dir.join (dropSlashes name)) = true := by
  simp only [checkScriptFile, h, checkSource, resolve_localSource]
  cases d.pathExists (env.dir.join (dropSlashes name)) <;> simp

theorem exists_installed? (h : i.file ≠ "" ∧ i.name = "" ∨ i.file = "" ∧ i.name ≠ "") :
    ∃ name, i.installed? = some name := by
  rcases h with ⟨hfile, -⟩ | ⟨hfile, hname⟩
  · exact ⟨i.file, by simp [InitScript.installed?, hfile]⟩
  · exact ⟨i.name, by simp [InitScript.installed?, hfile, hname]⟩

theorem checkScripts_singleton :
    checkScripts rule [i] env d = checkScriptSource rule i ++ checkScriptFile rule i env d :=
  List.flatMap_singleton ..

/-- Nothing is said about a script exactly when it is without fault. -/
theorem checkScripts_singleton_eq_nil_iff :
    checkScripts rule [i] env d = [] ↔ i.Faultless env d := by
  rw [checkScripts_singleton, List.append_eq_nil_iff, checkScriptSource_eq_nil_iff,
    InitScript.used?_eq_self_iff]
  constructor
  · rintro ⟨⟨hsource, hcontent⟩, hfile⟩
    obtain ⟨name, hname⟩ := exists_installed? hsource
    exact ⟨hsource, hcontent, name, hname, (checkScriptFile_eq_nil_iff hname).mp hfile⟩
  · rintro ⟨hsource, hcontent, name, hname, hfile⟩
    exact ⟨⟨hsource, hcontent⟩, (checkScriptFile_eq_nil_iff hname).mpr hfile⟩

/-! ## All scripts -/

theorem checkScripts_eq_flatMap :
    checkScripts rule scripts env d = scripts.flatMap fun i => checkScripts rule [i] env d := by
  simp only [checkScripts_singleton]
  rfl

theorem checkScripts_eq_nil_iff :
    checkScripts rule scripts env d = [] ↔ ∀ i ∈ scripts, i.Faultless env d := by
  rw [checkScripts_eq_flatMap, List.flatMap_eq_nil_iff]
  simp only [checkScripts_singleton_eq_nil_iff]

/-- A script of which not all is used gets a warning where its rule looks at it. -/
theorem warned_of_unused (rule : Rule) (env : Surroundings) (d : Disk) (hscript : i ∈ scripts)
    (h : i.used? ≠ some i) :
    ∃ f ∈ checkScriptSource rule i, f ∈ checkScripts rule scripts env d := by
  obtain ⟨f, hf⟩ := List.exists_mem_of_ne_nil _ (mt checkScriptSource_eq_nil_iff.mp h)
  exact ⟨f, hf, List.mem_flatMap.mpr ⟨i, hscript, List.mem_append_left _ hf⟩⟩

theorem mem_validate {r : Rule} (hr : r ≠ .modules) {f : Finding} (hf : f ∈ r.check s env d) :
    f ∈ (validate s env d).findings :=
  List.mem_flatMap.mpr ⟨r, Surroundings.mem_rules.mpr fun h => absurd h hr, hf⟩

end

/-- Scripts are checked completely and precisely. Nothing is said about a list of scripts exactly
when all of them are without fault; what is said consists of warnings, for each script in order,
and there is one for each script with a fault. What is not used of the scripts makes no difference to
what is generated. About every script that loses a part so, in the ramdisk or in a HAL, there is a
warning in the report that says where the script comes from; these are the scripts with neither a
file nor a name, those with both, and those with a description beside a file. -/
theorem script_warnings_complete (rule : Rule) (scripts : List InitScript) (s : Spec)
    (env : Surroundings) (d : Disk) :
    (checkScripts rule scripts env d = [] ↔ ∀ i ∈ scripts, i.Faultless env d) ∧
    checkScripts rule scripts env d = scripts.flatMap (fun i => checkScripts rule [i] env d) ∧
    (∀ i, checkScripts rule [i] env d = [] ↔ i.Faultless env d) ∧
    (∀ f ∈ checkScripts rule scripts env d, f.rule = rule.name ∧ f.severity = .warn) ∧
    (∀ dir, s.withUsedScripts.generate dir d = s.generate dir d) ∧
    (∀ i : InitScript, i.used? ≠ some i ↔ i.source = .unnamed ∨ i.source = .ambiguous ∨
      i.source = .external i.file ∧ (i.imports ≠ [] ∨ i.actions ≠ [] ∨ i.services ≠ [])) ∧
    ∀ i : InitScript, i.used? ≠ some i →
      (i ∈ s.bootImage.ramdisk.initScripts →
        ∃ f ∈ checkScriptSource .ramdiskScripts i, f ∈ (validate s env d).findings) ∧
      ∀ h ∈ s.hals, i ∈ h.initScripts →
        ∃ f ∈ checkScriptSource .halScripts i, f ∈ (validate s env d).findings := by
  refine ⟨checkScripts_eq_nil_iff, checkScripts_eq_flatMap,
    fun i => checkScripts_singleton_eq_nil_iff, reports_checkScripts rule scripts env d,
    fun dir => generate_withUsedScripts s dir d, fun i => InitScript.used?_ne_self_iff,
    fun i hunused => ⟨fun hi => ?_, fun h hh hi => ?_⟩⟩
  · obtain ⟨f, hf, hfound⟩ := warned_of_unused .ramdiskScripts env d hi hunused
    exact ⟨f, hf, mem_validate (r := .ramdiskScripts) (by decide) hfound⟩
  · have hscript : i ∈ s.hals.flatMap Hal.initScripts := List.mem_flatMap.mpr ⟨h, hh, hi⟩
    obtain ⟨f, hf, hfound⟩ := warned_of_unused .halScripts env d hscript hunused
    exact ⟨f, hf, mem_validate (r := .halScripts) (by decide) hfound⟩

/-- Scripts that lose a part: one without file and name, one with both, and one with an import
beside its file. -/
def crossedScripts : Spec where
  bootImage := { ramdisk := { initScripts := [{ isService := true }] } }
  hals := [{ name := "gps", initScripts := [{ file := "a.rc", name := "b.rc" },
    { file := "gps.rc", imports := ["c.rc"] }] }]

/-- Each of the three is in the report of its rule. -/
theorem script_warnings_complete_crossedScripts :
    let report := validate crossedScripts ⟨⟨"/d"⟩, none, false⟩ {}
    (∃ f ∈ checkScriptSource .ramdiskScripts { isService := true }, f ∈ report.findings) ∧
      (∃ f ∈ checkScriptSource .halScripts { file := "a.rc", name := "b.rc" },
        f ∈ report.findings) ∧
      ∃ f ∈ checkScriptSource .halScripts { file := "gps.rc", imports := ["c.rc"] },
        f ∈ report.findings := by
  intro report
  obtain ⟨-, -, -, -, -, -, htold⟩ :=
    script_warnings_complete .halScripts [] crossedScripts ⟨⟨"/d"⟩, none, false⟩ {}
  refine ⟨(htold _ (by decide)).1 ?_, (htold _ (by decide)).2 _ List.mem_cons_self ?_,
    (htold _ (by decide)).2 _ List.mem_cons_self ?_⟩ <;>
    simp [crossedScripts]

end DeviceSpec
