import DeviceSpec.Profile
import DeviceSpec.Proofs.Check.Declaration
import DeviceSpec.Proofs.Check.Verdict
import DeviceSpec.Proofs.Disk.Subtree

/-!
# What passes stays

A description that passes the checks on one disk, looked at on another.

* **sources** — the only files that rules insist on are the sources of features, runtime
  configurations and copied files (`Spec.neededSources`), and the build files of modules;
* **build files** — these are kept when directories and the files with their names are
  (`IsBuildFile.kept`);
* **the whole** — so what passes on one disk passes on the other exactly when all those sources are
  there (`passed_iff_of_passed`);
* **templates** — no rule that can fail looks at what pointing a template at a device changes
  (`passed_retarget_iff`), and the bundled profile passes on every disk, as all its sources lie in
  the Android tree (`profile_passed`).
-/

namespace DeviceSpec

/-- The sources that have to be there. -/
def Spec.neededSources (s : Spec) : List String :=
  s.featureSources ++ s.runtimeSources ++ s.copySources

/-- The second disk has the directories of the first, and its files with the names of build
files. -/
structure Disk.KeepsBuildFiles (d e : Disk) : Prop where
  keepsDirs : d.KeepsDirs e
  node? : ∀ l last content, last ∈ buildFileNames → d.node? (l ++ [last]) = some (.file content) →
    e.node? (l ++ [last]) = some (.file content)

section
variable {d e : Disk} {p dir file : Path} {l : Location} {content : ByteArray}

/-! ## Build files -/

/-- The names of build files count, and do not lead up. -/
theorem name_of_mem_buildFileNames {name : String} (h : name ∈ buildFileNames) :
    Path.isIdle name = false ∧ name ≠ ".." := by
  revert name
  decide

/-- A file under the name of a build file is still read from. -/
theorem Disk.KeepsBuildFiles.find (h : d.KeepsBuildFiles e)
    (hfind : d.find p = .ok (l, .file content)) (hname : ∃ name ∈ buildFileNames,
      p.fileName? = some name) : e.find p = .ok (l, .file content) := by
  obtain ⟨name, hmem, hname⟩ := hname
  obtain ⟨-, -, -, front, last, here, hsteps, hup, -, -, rfl, hnode⟩ := Disk.find_file_iff.mp hfind
  rw [Path.fileName?_of_steps hsteps hup, Option.some.injEq] at hname
  exact Disk.find_file_mono h.keepsDirs hfind (h.node? here last content (hname ▸ hmem) hnode)

/-- A build file that declares a module is kept, and still declares it. -/
theorem IsBuildFile.kept (h : d.KeepsBuildFiles e) (hd : d.WellFormed)
    (hfile : IsBuildFile d dir file) {module : String}
    (hdeclares : declaresModule file module d = .ok true) :
    IsBuildFile e dir file ∧ declaresModule file module e = .ok true := by
  obtain ⟨text, hread, htext⟩ := declaresModule_iff.mp hdeclares
  have hfound := Disk.find_of_read hread
  obtain ⟨location, node, below, content, hfind, hmem, hname, rfl⟩ := hfile
  -- it is enough that the file is found and that the entry is still there
  suffices hkept : (∃ name ∈ buildFileNames, (below.foldl Path.join dir).fileName? = some name) ∧
      ∃ node', e.find dir = .ok (location, node') ∧ (below, .file content) ∈ e.subtree location by
    obtain ⟨hnamed, node', hfind', hmem'⟩ := hkept
    refine ⟨⟨location, node', below, content, hfind', hmem', hname, rfl⟩, ?_⟩
    exact declaresModule_iff.mpr ⟨text, Disk.read_of_find (h.find hfound hnamed), htext⟩
  rcases List.eq_nil_or_concat below with rfl | ⟨front, last, rfl⟩
  · -- the directory is itself the build file
    rw [List.foldl_nil] at hfound
    obtain ⟨-, -, -, before, last, -, hsteps, hup, -⟩ := Disk.find_file_iff.mp hfound
    have hlast := Path.fileName?_of_steps hsteps hup
    have hnamed : last ∈ buildFileNames := by simpa [lastName, hlast] using hname
    have hfound' := h.find hfound ⟨last, hnamed, hlast⟩
    rw [hfind] at hfound
    obtain ⟨rfl, rfl⟩ := Prod.mk.inj (Except.ok.inj hfound)
    obtain ⟨-, hnode⟩ | ⟨hne, -⟩ := Disk.mem_subtree.mp hmem
    · rw [Disk.node?_of_find hfind, Option.some.injEq, Node.file.injEq] at hnode
      subst hnode
      exact ⟨⟨last, hnamed, hlast⟩, _, hfound',
        Disk.mem_subtree.mpr (.inl ⟨rfl, Disk.node?_of_find hfound'⟩)⟩
    · exact absurd rfl hne
  · have hlast : last ∈ buildFileNames := by simpa [lastName] using hname
    obtain ⟨hidle, hup⟩ := name_of_mem_buildFileNames hlast
    obtain ⟨hnil, -⟩ | ⟨hne, hentry⟩ := Disk.mem_subtree.mp hmem
    · simp at hnil
    have hplain : Disk.Plain (front.concat last) := fun s hs =>
      hd.plain _ hentry s (List.mem_append_right _ hs)
    have hbelow : (front.concat last).filter (fun s => !Path.isIdle s) =
        front.filter (fun s => !Path.isIdle s) ++ [last] := by
      simp [hidle]
    obtain ⟨-, hsteps⟩ := steps_foldl_join dir hplain
    rw [hbelow, ← List.append_assoc] at hsteps
    have hthere := isDir_of_find_below (Disk.accepted_of_find hfind) hplain hbelow hfound
    rw [Disk.find_directory_iff.mpr ⟨hthere, rfl⟩] at hfind
    obtain ⟨rfl, rfl⟩ := Prod.mk.inj (Except.ok.inj hfind)
    have hthere' := Disk.isDir_mono h.keepsDirs hthere
    refine ⟨⟨last, hlast, Path.fileName?_of_steps hsteps hup⟩, .directory,
      Disk.find_directory_iff.mpr ⟨hthere', (h.keepsDirs.place_eq dir).symm⟩, ?_⟩
    have hnode := (hd.node?_eq_some_iff (by simp)).mpr hentry
    rw [List.concat_eq_append, ← List.append_assoc] at hnode
    have hnode' := h.node? _ last content hlast hnode
    refine Disk.mem_subtree_of_node? ?_ (by simp)
    rwa [List.concat_eq_append, ← List.append_assoc]

end

/-! ## The whole -/

section
variable {d e : Disk} {s : Spec} {env : Surroundings}

/-- The modules that are declared stay declared. -/
theorem holds_modules_of_kept (h : d.KeepsBuildFiles e) (hd : d.WellFormed)
    (hholds : Rule.modules.Holds s env d) : Rule.modules.Holds s env e := by
  intro hal hhal module hmodule
  obtain ⟨file, hfile, hdeclares⟩ := hholds hal hhal module hmodule
  exact ⟨file, hfile.kept h hd hdeclares⟩

/-- Three rules hold when all sources are there. -/
theorem holds_sources_iff :
    (∀ r ∈ [Rule.features, .runtimeConfigs, .copiedFiles], r.Holds s env d) ↔
      ∀ source ∈ s.neededSources, env.Provides d source := by
  have hrule : ∀ {r : Rule} {what : String} {sources : List String},
      r.check s env d = checkSources r.name what sources env .fail d →
        (r.Holds s env d ↔ ∀ source ∈ sources, env.Provides d source) := by
    intro r what sources hcheck
    have hfails : ¬ r.Holds s env d ↔ ¬ ∀ source ∈ sources, env.Provides d source := by
      rw [← Rule.fails_check_iff, hcheck, fails_checkSources_iff]
    simpa only [Classical.not_not] using not_congr hfails
  simp only [List.forall_mem_cons, List.not_mem_nil, false_imp_iff, implies_true, and_true,
    hrule (r := .features) rfl, hrule (r := .runtimeConfigs) rfl, hrule (r := .copiedFiles) rfl,
    Spec.neededSources, List.forall_mem_append, and_assoc]

/-- What passes has the sources that have to be there. -/
theorem provides_of_passed (hpassed : (validate s env d).passed = true) :
    ∀ source ∈ s.neededSources, env.Provides d source := by
  rw [validate, passed_runRules_iff] at hpassed
  refine holds_sources_iff.mp fun r hr => hpassed r (Surroundings.mem_rules.mpr ?_)
  rintro rfl
  simp at hr

/-- What passes on one disk passes on another that keeps directories and build files, exactly when
the sources that have to be there are there. -/
theorem passed_iff_of_passed (h : d.KeepsBuildFiles e) (hd : d.WellFormed)
    (hpassed : (validate s env d).passed = true) :
    (validate s env e).passed = true ↔ ∀ source ∈ s.neededSources, env.Provides e source := by
  refine ⟨provides_of_passed, ?_⟩
  rw [validate, passed_runRules_iff] at hpassed ⊢
  rw [← holds_sources_iff]
  intro hsources r hr
  have hbefore := hpassed r hr
  cases r with
  | features => exact hsources _ (by simp)
  | runtimeConfigs => exact hsources _ (by simp)
  | copiedFiles => exact hsources _ (by simp)
  | modules => exact holds_modules_of_kept h hd hbefore
  -- the other rules do not look at the disk, or only warn
  | halNames => exact hbefore
  | partitions => exact hbefore
  | loadAddress => exact hbefore
  | kernelImages => exact hbefore
  | ramdiskScripts => exact hbefore
  | halScripts => exact hbefore

end

/-! ## Templates -/

section
variable {s : Spec} {env : Surroundings} {d : Disk}

theorem Rule.holds_retarget_iff (r : Rule) (vendor device : String) :
    r.Holds (s.retarget vendor device) env d ↔ r.Holds s env d := by
  cases r <;> rfl

/-- A template passes for every device or for none. -/
theorem passed_retarget_iff (vendor device : String) :
    (validate (s.retarget vendor device) env d).passed = true ↔
      (validate s env d).passed = true := by
  simp only [validate, passed_runRules_iff, Rule.holds_retarget_iff]

/-- What the profile needs is looked for in the Android tree. -/
theorem resolve_of_mem_profile {source : String} (h : source ∈ profile.neededSources)
    (htop : env.buildTop = none) : env.resolve source = none := by
  have hhead : ∀ source ∈ profile.neededSources, Text.afterHead? localPath source = none := by
    decide +kernel
  rw [Surroundings.resolve, hhead source h, htop]
  rfl

/-- Without an Android tree to look at, the profile passes. -/
theorem profile_passed (htop : env.buildTop = none) (hmodules : env.checksModules = false) :
    (validate profile env d).passed = true := by
  -- what the profile says about itself holds wherever it is looked at
  have hself : ∀ r ∈ [Rule.halNames, .partitions, .loadAddress],
      r.Holds profile { dir := ⟨"/d"⟩ } {} :=
    passed_runRules_iff.mp (by decide +kernel)
  have hsources : ∀ r ∈ [Rule.features, .runtimeConfigs, .copiedFiles], r.Holds profile env d := by
    refine holds_sources_iff.mpr fun source hsource path hpath => ?_
    rw [resolve_of_mem_profile hsource htop] at hpath
    cases hpath
  refine passed_runRules_iff.mpr fun r hr => ?_
  cases r with
  | halNames => exact hself .halNames (by simp)
  | partitions => exact hself .partitions (by simp)
  | loadAddress => exact hself .loadAddress (by simp)
  | features => exact hsources _ (by simp)
  | runtimeConfigs => exact hsources _ (by simp)
  | copiedFiles => exact hsources _ (by simp)
  | modules =>
    have hchecks := Surroundings.mem_rules.mp hr rfl
    rw [hmodules] at hchecks
    cases hchecks
  | kernelImages => trivial
  | ramdiskScripts => trivial
  | halScripts => trivial

end

end DeviceSpec
