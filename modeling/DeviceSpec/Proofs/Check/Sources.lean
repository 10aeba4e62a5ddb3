import DeviceSpec.Proofs.Check.Verdict
import DeviceSpec.Proofs.Generate.Written
import DeviceSpec.Proofs.Render.Sources

/-!
# Which missing files are reported

A file that the device makefile copies and that is not made from the description has to be there
before the build. Validating looks for all of these files but one: no rule knows of a script of
device node rules that is copied from a file.

* **naming** — a finding names a source that is missing together with the path where it is missing
  (`Finding.Names`);
* **rules** — a rule that looks for sources names each one that is missing (`names_checkSources`,
  `names_checkScripts`), and every kind of source but that script has such a rule
  (`names_of_mem_plainlyGiven`);
* **the whole** — the text of the makefile has an entry for each of these files, and whether all
  missing ones are named is a matter of that script (`missing_sources_named_iff`), which the report
  knows nothing of (`external_ueventScript_unnoticed`).
-/

namespace DeviceSpec

/-! ## Naming -/

/-- The source leads to a path, and nothing is there. -/
structure Surroundings.Misses (env : Surroundings) (d : Disk) (source : String) (path : Path) :
    Prop where
  leads : env.resolve source = some path
  absent : d.pathExists path = false

/-- The finding names a source and the path it leads to. A file of the device directory may be named
without the variable in front. -/
def Finding.Names (f : Finding) (source : String) (path : Path) : Prop :=
  ∃ shown before after, (shown = source ∨ joinMake localPath shown = source) ∧
    f.message = before ++ (shown ++ " (" ++ path.text ++ ")") ++ after

/-- Some finding of the report names the source. -/
def Report.Names (r : Report) (source : String) (path : Path) : Prop :=
  ∃ f ∈ r.findings, f.Names source path

/-- The description with other device node rules. -/
def Spec.withUeventScript (s : Spec) (u : UeventScript) : Spec :=
  { s with bootImage := { s.bootImage with
    ramdisk := { s.bootImage.ramdisk with ueventScript := u } } }

section Naming

variable {env : Surroundings} {d : Disk} {source : String} {path : Path}

theorem Surroundings.Misses.missing (h : env.Misses d source path) :
    checkSource source env d = .missing path := by
  simp only [checkSource, h.leads, h.absent, Bool.false_eq_true, if_false]

/-- Each text of a list stands somewhere in the list joined together. -/
theorem exists_around_of_mem {text : String} {texts : List String} (h : text ∈ texts)
    (separator : String) :
    ∃ before after, separator.intercalate texts = before ++ text ++ after := by
  induction texts with
  | nil => cases h
  | cons first rest ih =>
    by_cases hrest : rest = []
    · subst hrest
      rw [List.mem_singleton.mp h]
      exact ⟨"", "", by simp⟩
    · rw [String.intercalate_cons_of_ne_nil hrest]
      rcases List.mem_cons.mp h with rfl | h
      · exact ⟨"", separator ++ separator.intercalate rest, by simp [String.append_assoc]⟩
      · obtain ⟨before, after, heq⟩ := ih h
        exact ⟨first ++ separator ++ before, after, by simp [heq, String.append_assoc]⟩

/-! ## Rules -/

/-- A rule that looks for sources names each one that is missing. -/
theorem names_checkSources {sources : List String} (hsource : source ∈ sources)
    (h : env.Misses d source path) (rule what : String) (severity : Severity) :
    ∃ f ∈ checkSources rule what sources env severity d, f.Names source path := by
  have hmissing : source ++ " (" ++ path.text ++ ")" ∈
      sources.filterMap (missingSource? env d) := by
    refine List.mem_filterMap.mpr ⟨source, hsource, ?_⟩
    rw [missingSource?, h.missing]
  have hne : (sources.filterMap (missingSource? env d)).isEmpty = false := by
    rw [List.isEmpty_eq_false_iff]
    exact List.ne_nil_of_mem hmissing
  obtain ⟨before, after, heq⟩ := exists_around_of_mem hmissing ", "
  have hmem : ⟨rule, severity, "can't find " ++ what ++ ": " ++
      ", ".intercalate (sources.filterMap (missingSource? env d))⟩ ∈
        checkSources rule what sources env severity d := by
    refine List.mem_append_right _ ?_
    rw [hne]
    exact List.mem_singleton_self _
  refine ⟨_, hmem, source, "can't find " ++ what ++ ": " ++ before, after, .inl rfl, ?_⟩
  simp only [heq, String.append_assoc]

/-- A script is looked for at the path where the makefile copies it from. -/
theorem names_checkScripts {scripts : List InitScript} {script : InitScript} {e : CopyEntry}
    (hscript : script ∈ scripts) (hentry : script.entry? = some e) (h : env.Misses d e.source path)
    (rule : Rule) : ∃ f ∈ checkScripts rule scripts env d, f.Names e.source path := by
  obtain ⟨name, hinstalled, rfl⟩ := Option.map_eq_some_iff.mp hentry
  have hmissing : env.Misses d (localSource name) path :=
    ⟨by rw [resolve_localSource, ← resolve_joinMake]; exact h.leads, h.absent⟩
  have hfile : checkScriptFile rule script env d =
      [rule.warning ("can't find rc file " ++ name ++ " (" ++ path.text ++ ")")] := by
    simp only [checkScriptFile, hinstalled, hmissing.missing]
  have hmem : rule.warning ("can't find rc file " ++ name ++ " (" ++ path.text ++ ")") ∈
      checkScripts rule scripts env d := by
    refine List.mem_flatMap.mpr ⟨script, hscript, List.mem_append_right _ ?_⟩
    rw [hfile]
    exact List.mem_singleton_self _
  refine ⟨_, hmem, name, "can't find rc file ", "", .inr rfl, ?_⟩
  simp only [Rule.warning, String.append_assoc, String.append_empty]

end Naming

section Report

variable {s : Spec} {env : Surroundings} {d : Disk} {source : String} {path : Path}

theorem names_validate {r : Rule} (hr : r ∈ env.rules)
    (h : ∃ f ∈ r.check s env d, f.Names source path) : (validate s env d).Names source path := by
  obtain ⟨f, hf, hnames⟩ := h
  exact ⟨f, List.mem_flatMap.mpr ⟨r, hr, hf⟩, hnames⟩

/-- Every kind of given file but a script of device node rules has a rule that looks for it. -/
theorem names_of_mem_plainlyGiven {e : CopyEntry} (he : e ∈ s.plainlyGivenCopies)
    (h : env.Misses d e.source path) : (validate s env d).Names e.source path := by
  have hrule : ∀ r : Rule, r ≠ .modules → r ∈ env.rules := by
    intro r hr
    exact Surroundings.mem_rules.mpr fun heq => absurd heq hr
  have hfeature : ∀ f, (f ∈ s.board.features ∨ ∃ g ∈ s.hals, f ∈ g.features) →
      e = featureEntry f → (validate s env d).Names e.source path := by
    rintro f hf rfl
    refine names_validate (hrule .features (by decide)) (names_checkSources ?_ h _ _ _)
    refine List.mem_map.mpr ⟨f, ?_, rfl⟩
    simpa using hf
  have hcopied : ∀ g ∈ s.hals, e.source ∈
      g.copyPackages.map CopyPackage.source ++ g.firmwares ++ g.drivers →
        (validate s env d).Names e.source path := by
    intro g hg hmem
    refine names_validate (hrule .copiedFiles (by decide)) (names_checkSources ?_ h _ _ _)
    exact List.mem_flatMap.mpr ⟨g, hg, hmem⟩
  rcases List.mem_append.mp he with he | he
  · rcases List.mem_append.mp he with he | he
    · -- scripts of the ramdisk and of HALs are looked for by two rules
      obtain ⟨script, hscript, hentry⟩ := List.mem_filterMap.mp he
      rcases List.mem_append.mp (List.mem_filter.mp hscript).1 with hscript | hscript
      · exact names_validate (hrule .ramdiskScripts (by decide))
          (names_checkScripts hscript hentry h _)
      · exact names_validate (hrule .halScripts (by decide))
          (names_checkScripts hscript hentry h _)
    · obtain ⟨f, hf, rfl⟩ := List.mem_map.mp he
      exact hfeature f (.inl hf) rfl
  · obtain ⟨g, hg, he⟩ := List.mem_flatMap.mp he
    simp only [Hal.givenCopies, List.mem_append, List.mem_map] at he
    rcases he with (((⟨f, hf, rfl⟩ | ⟨c, hc, rfl⟩) | ⟨f, hf, rfl⟩) | ⟨f, hf, rfl⟩) | ⟨c, hc, rfl⟩
    · exact hfeature f (.inr ⟨g, hg, hf⟩) rfl
    · exact hcopied g hg (by simpa [CopyPackage.entry] using .inl ⟨c, hc, rfl⟩)
    · exact hcopied g hg (by simp [firmwareEntry, hf])
    · exact hcopied g hg (by simp [driverEntry, hf])
    · refine names_validate (hrule .runtimeConfigs (by decide)) (names_checkSources ?_ h _ _ _)
      exact List.mem_flatMap.mpr ⟨g, hg, List.mem_map.mpr ⟨c, hc, rfl⟩⟩

/-- No rule looks at the device node rules. -/
theorem validate_withUeventScript (s : Spec) (u : UeventScript) (env : Surroundings) (d : Disk) :
    validate (s.withUeventScript u) env d = validate s env d := by
  have hcheck : ∀ r : Rule, r.check (s.withUeventScript u) env d = r.check s env d := by
    intro r
    cases r <;> rfl
  simp only [validate, runRules, hcheck]

end Report

/-! ## The whole -/

/-- The files that the makefile copies, each with its entry in the text, are made from the
description or given. Validating names every given file that is missing, whatever else it finds, but
for a script of device node rules that is copied from a file: if that is missing, it is only named
by chance, in a report that would be the same without it. -/
theorem missing_sources_named_iff (s : Spec) (env : Surroundings) (d : Disk) :
    Makefile.values s.deviceMakefile "PRODUCT_COPY_FILES" =
      (s.imageCopies ++ s.copies).map CopyEntry.toText ∧
    (∀ e ∈ s.imageCopies ++ s.copies,
      Text.Appends s.deviceMakefile.render "PRODUCT_COPY_FILES" e.toText) ∧
    (s.DeviceReadable → valuesOf "PRODUCT_COPY_FILES" (readMakefile s.deviceMakefile.render) =
      (s.imageCopies ++ s.copies).map CopyEntry.toText) ∧
    (∀ e, e ∈ s.copies ↔ e ∈ s.ownedCopies ∨ e ∈ s.givenCopies) ∧
    (∀ e ∈ s.plainlyGivenCopies, ∀ path, env.Misses d e.source path →
      (validate s env d).Names e.source path) ∧
    ((∀ e ∈ s.givenCopies, ∀ path, env.Misses d e.source path →
        (validate s env d).Names e.source path) ↔
      (s.bootImage.ramdisk.ueventScript.isExternal = true → ∀ path,
        env.Misses d s.ueventEntry.source path →
          (validate (s.withUeventScript {}) env d).Names s.ueventEntry.source path)) := by
  refine ⟨s.values_copies, fun e => s.appends_copies,
    fun hread => (hread.valuesOf_eq _).trans s.values_copies, fun e => mem_copies_iff,
    fun e he path => names_of_mem_plainlyGiven he, ?_⟩
  rw [validate_withUeventScript]
  constructor
  · intro hall hexternal path
    apply hall
    rw [Spec.givenCopies, hexternal]
    exact List.mem_append_left _ (List.mem_singleton_self _)
  · intro hscript e he path hmisses
    rcases List.mem_append.mp he with he | he
    · cases hexternal : s.bootImage.ramdisk.ueventScript.isExternal with
      | false => simp [hexternal] at he
      | true =>
        rw [hexternal, if_pos rfl, List.mem_singleton] at he
        subst he
        exact hscript hexternal path hmisses
    · exact names_of_mem_plainlyGiven he hmisses

/-- A device whose device node rules are copied from a file, with nothing else to find fault
with. -/
def externalRules : Spec where
  product := { name := "d", device := "d", brand := "d", model := "d", manufacturer := "v" }
  board := { partitionTable := profileBoard.partitionTable }
  bootImage := {
    ramdisk := {
      fstab := { mounts := profileMounts }
      ueventScript := { file := "rootfs/ueventd.rc" } } }

/-- The script of device node rules is missing, and the report is empty. -/
theorem external_ueventScript_unnoticed :
    externalRules.ueventEntry ∈ externalRules.givenCopies ∧
      Surroundings.Misses ⟨⟨"/d"⟩, some ⟨"/top"⟩, false⟩ oneDirectory
        externalRules.ueventEntry.source ⟨"/d/rootfs/ueventd.rc"⟩ ∧
      (validate externalRules ⟨⟨"/d"⟩, some ⟨"/top"⟩, false⟩ oneDirectory).findings = [] ∧
      ¬ ∀ e ∈ externalRules.givenCopies, ∀ path,
        Surroundings.Misses ⟨⟨"/d"⟩, some ⟨"/top"⟩, false⟩ oneDirectory e.source path →
          (validate externalRules ⟨⟨"/d"⟩, some ⟨"/top"⟩, false⟩ oneDirectory).Names
            e.source path := by
  have hmem : externalRules.ueventEntry ∈ externalRules.givenCopies := by decide +kernel
  have hmisses : Surroundings.Misses ⟨⟨"/d"⟩, some ⟨"/top"⟩, false⟩ oneDirectory
      externalRules.ueventEntry.source ⟨"/d/rootfs/ueventd.rc"⟩ :=
    ⟨by decide +kernel, by decide +kernel⟩
  have hempty : (validate externalRules ⟨⟨"/d"⟩, some ⟨"/top"⟩, false⟩ oneDirectory).findings =
      [] := by
    decide +kernel
  refine ⟨hmem, hmisses, hempty, ?_⟩
  intro hall
  obtain ⟨f, hf, -⟩ := hall _ hmem _ hmisses
  rw [hempty] at hf
  cases hf

end DeviceSpec
