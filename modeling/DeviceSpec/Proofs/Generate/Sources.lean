import DeviceSpec.Proofs.Generate.Course
import DeviceSpec.Proofs.Render.Sources

/-!
# The makefile and the generator agree

The names of generated files reach the device makefile on a way of their own. They lead to the same
files: the text of the makefile copies what a run generates.

* **names** — an allowed name, as a source, leads to the file of that name in the device directory
  (`resolve_of_isInsideName`);
* **items** — the entries of files that are made from the description are those of the items that
  are installed (`mem_ownedCopies_iff`);
* **a run** — each of these entries stands in the text, and after a run that went well its source is
  found at a path that the run lists; each installed file that was generated is such a source
  (`owned_sources_generated`).
-/

namespace DeviceSpec

/-- The entry with which an item is installed. Makefiles, policies and the script for the build
environment are used where they are. -/
def Item.entry? (s : Spec) : Item → Option CopyEntry
  | .artifact .ueventScript => some s.ueventEntry
  | .artifact .fstab => some s.fstabEntry
  | .artifact .usbScript => some s.usbEntry
  | .artifact .manifest => some manifestEntry
  | .artifact _ => none
  | .script i => i.entry?

/-! ## Names -/

section Names

variable {name : String}

theorem dropSlashes_of_isInsideName (h : isInsideName name = true) : dropSlashes name = name :=
  dropSlashes_of_relative (inside_of_isInsideName h).1

theorem joinMake_of_isInsideName (h : isInsideName name = true) :
    joinMake localPath name = localPath ++ "/" ++ name := by
  have hne : name.isEmpty = false := by simpa using nonempty_of_isInsideName h
  rw [joinMake_localPath, dropSlashes_of_isInsideName h, hne]
  rfl

theorem localSource_of_isInsideName (h : isInsideName name = true) :
    localSource name = localPath ++ "/" ++ name := by
  rw [localSource, dropSlashes_of_isInsideName h]

theorem resolve_of_isInsideName (env : Surroundings) (h : isInsideName name = true) :
    env.resolve (localPath ++ "/" ++ name) = some (env.dir.join name) := by
  rw [← localSource_of_isInsideName h, resolve_localSource, dropSlashes_of_isInsideName h]

end Names

/-! ## Items -/

section Items

variable {s : Spec} {i : Item} {e : CopyEntry}

theorem artifact_mem_items {a : Artifact} : .artifact a ∈ s.items ↔ a ∈ s.plan := by
  simp [Spec.items]

theorem script_mem_items {script : InitScript} :
    .script script ∈ s.items ↔ script ∈ s.embeddedScripts := by
  simp [Spec.items]

theorem ueventScript_mem_plan :
    .ueventScript ∈ s.plan ↔ s.bootImage.ramdisk.ueventScript.isExternal = false := by
  simp [Spec.plan]

theorem usbScript_mem_plan : .usbScript ∈ s.plan ↔ s.board.usbGadget.isSome = true := by
  simp [Spec.plan]

/-- A script that is written from its description is installed under its name. -/
theorem installed?_of_embedded {script : InitScript} (h : script ∈ s.embeddedScripts) :
    script.installed? = some script.name := by
  have hembedded := (List.mem_filter.mp h).2
  rw [InitScript.isEmbedded, Bool.and_eq_true, Bool.not_eq_true'] at hembedded
  simp [InitScript.installed?, hembedded]

/-- The source of an installed item is its file in the device directory. -/
theorem Item.source_of_entry? (hi : i ∈ s.items) (h : i.entry? s = some e)
    (hinside : isInsideName (i.fileName s) = true) :
    e.source = localPath ++ "/" ++ i.fileName s := by
  cases i with
  | artifact a =>
    cases a <;> simp only [Item.entry?, Option.some.injEq, reduceCtorEq] at h <;> subst h <;>
      simp only [Item.fileName, Artifact.fileName] at hinside ⊢
    case ueventScript =>
      simp only [Spec.ueventEntry, UeventScript.source, joinMake_of_isInsideName hinside]
    case fstab => simp only [Spec.fstabEntry, Fstab.source, joinMake_of_isInsideName hinside]
    case usbScript => simp only [Spec.usbEntry, localSource_of_isInsideName hinside]
    case manifest => simp only [manifestEntry, localSource_of_isInsideName hinside]
  | script script =>
    have hname := installed?_of_embedded (script_mem_items.mp hi)
    simp only [Item.entry?, InitScript.entry?, hname, Option.map_some, Option.some.injEq] at h
    subst h
    simp only [Item.fileName] at hinside ⊢
    exact joinMake_of_isInsideName hinside

/-- The files that are made from the description are those of the items that are installed. -/
theorem mem_ownedCopies_iff : e ∈ s.ownedCopies ↔ ∃ i ∈ s.items, i.entry? s = some e := by
  simp only [Spec.ownedCopies, List.mem_append, List.mem_ite_nil_left, List.mem_ite_nil_right,
    List.mem_singleton, List.mem_filterMap, Bool.not_eq_true]
  constructor
  · rintro ((((⟨hmade, rfl⟩ | rfl) | ⟨hgadget, rfl⟩) | ⟨script, hscript, hentry⟩) | rfl)
    · exact ⟨_, artifact_mem_items.mpr (ueventScript_mem_plan.mpr hmade), rfl⟩
    · exact ⟨.artifact .fstab, artifact_mem_items.mpr (by simp [Spec.plan]), rfl⟩
    · exact ⟨_, artifact_mem_items.mpr (usbScript_mem_plan.mpr hgadget), rfl⟩
    · exact ⟨.script script, script_mem_items.mpr hscript, hentry⟩
    · exact ⟨.artifact .manifest, artifact_mem_items.mpr (by simp [Spec.plan]), rfl⟩
  · rintro ⟨i, hi, hentry⟩
    cases i with
    | artifact a =>
      have ha := artifact_mem_items.mp hi
      cases a <;> simp only [Item.entry?, Option.some.injEq, reduceCtorEq] at hentry <;> subst hentry
      case ueventScript => exact .inl (.inl (.inl (.inl ⟨ueventScript_mem_plan.mp ha, rfl⟩)))
      case fstab => exact .inl (.inl (.inl (.inr rfl)))
      case usbScript => exact .inl (.inl (.inr ⟨usbScript_mem_plan.mp ha, rfl⟩))
      case manifest => exact .inr rfl
    | script script => exact .inl (.inr ⟨script, script_mem_items.mp hi, hentry⟩)

/-- Scripts, the table of mounts and the device node rules are installed wherever they are
generated. -/
theorem exists_entry? (hi : i ∈ s.items) (hkind : i = .artifact .ueventScript ∨
    i = .artifact .fstab ∨ i = .artifact .usbScript ∨ ∃ script, i = .script script) :
    ∃ e, i.entry? s = some e := by
  rcases hkind with rfl | rfl | rfl | ⟨script, rfl⟩
  · exact ⟨s.ueventEntry, rfl⟩
  · exact ⟨s.fstabEntry, rfl⟩
  · exact ⟨s.usbEntry, rfl⟩
  · have hname := installed?_of_embedded (script_mem_items.mp hi)
    exact ⟨_, by rw [Item.entry?, InitScript.entry?, hname, Option.map_some]⟩

/-- A script with a file is copied from there. It is no item: only scripts without a file are
written from their description. -/
theorem copied_of_file {script : InitScript} (hscript : script ∈ s.initScripts)
    (hfile : script.file ≠ "") : .script script ∉ s.items ∧
      ∃ e ∈ s.copies, script.entry? = some e ∧ e.source = joinMake localPath script.file := by
  have hinstalled : script.installed? = some script.file := by
    simp [InitScript.installed?, hfile]
  have hentry : script.entry? =
      some ⟨joinMake localPath script.file, joinMake script.destination (baseName script.file)⟩ := by
    rw [InitScript.entry?, hinstalled, Option.map_some]
  have hmem := List.mem_filterMap.mpr ⟨script, hscript, hentry⟩
  refine ⟨?_, _, mem_copies.mpr (.inr (.inr (.inr (.inr (.inl hmem))))), hentry, rfl⟩
  intro hitem
  have hempty := (List.mem_filter.mp (script_mem_items.mp hitem)).2
  simp [InitScript.isEmbedded, hfile] at hempty

end Items

/-! ## A run -/

/-- A file that is copied is an entry of the makefile and stands in its text. -/
theorem Spec.written_of_mem_copies {s : Spec} {e : CopyEntry} (he : e ∈ s.copies) : e ∈ s.copies ∧
    Text.Appends s.deviceMakefile.render "PRODUCT_COPY_FILES" e.toText :=
  ⟨he, s.appends_copies (List.mem_append_right _ he)⟩

/-- The text of the device makefile and a run that went well agree on the files that are made from
the description. Every such file has its entry in the text; the source leads to a path that the run
lists and is found there afterwards. Every script, table of mounts and list of device node rules
that was generated is the source of an entry in the text. A script with both a file and a name is
copied from the file and never generated. Besides the images the makefile copies the files that are
made and those that are given, and reading its text gives back these entries. -/
theorem owned_sources_generated {s : Spec} {env : Surroundings} {d : Disk}
    (hok : (s.generate env.dir d).failure = none) :
    (∀ e ∈ s.ownedCopies,
      (e ∈ s.copies ∧ Text.Appends s.deviceMakefile.render "PRODUCT_COPY_FILES" e.toText) ∧
      ∃ name, e.source = localPath ++ "/" ++ name ∧
        env.resolve e.source = some (env.dir.join name) ∧
        env.dir.join name ∈ (s.generate env.dir d).paths env.dir ∧
        checkSource e.source env (s.generate env.dir d).disk = .found (env.dir.join name)) ∧
    (∀ i ∈ s.items, (i = .artifact .ueventScript ∨ i = .artifact .fstab ∨
        i = .artifact .usbScript ∨ ∃ script, i = .script script) →
      env.dir.join (i.fileName s) ∈ (s.generate env.dir d).paths env.dir ∧
        ∃ e, (e ∈ s.copies ∧ Text.Appends s.deviceMakefile.render "PRODUCT_COPY_FILES" e.toText) ∧
          e.source = localPath ++ "/" ++ i.fileName s) ∧
    (∀ script ∈ s.initScripts, script.file ≠ "" → script.name ≠ "" →
      .script script ∉ s.items ∧
        ∃ e, (e ∈ s.copies ∧ Text.Appends s.deviceMakefile.render "PRODUCT_COPY_FILES" e.toText) ∧
          script.entry? = some e ∧ e.source = joinMake localPath script.file) ∧
    (∀ e, e ∈ s.copies ↔ e ∈ s.ownedCopies ∨ e ∈ s.givenCopies) ∧
    Makefile.values s.deviceMakefile "PRODUCT_COPY_FILES" =
      (s.imageCopies ++ s.copies).map CopyEntry.toText ∧
    (s.DeviceReadable → valuesOf "PRODUCT_COPY_FILES" (readMakefile s.deviceMakefile.render) =
      (s.imageCopies ++ s.copies).map CopyEntry.toText) := by
  obtain ⟨hran, hall⟩ := generate_ran s env.dir d
  rw [hall hok] at hran
  have hlisted : ∀ i ∈ s.items,
      env.dir.join (i.fileName s) ∈ (s.generate env.dir d).paths env.dir := by
    intro i hi
    exact hran.mem_paths_iff_item.mpr ⟨i, hi, rfl⟩
  refine ⟨?_, ?_, ?_, fun e => mem_copies_iff, s.values_copies,
    fun hread => (hread.valuesOf_eq _).trans s.values_copies⟩
  · intro e he
    obtain ⟨i, hi, hentry⟩ := mem_ownedCopies_iff.mp he
    have hinside := hran.inside i hi
    have hsource := Item.source_of_entry? hi hentry hinside
    have hresolve := resolve_of_isInsideName env hinside
    rw [← hsource] at hresolve
    have hthere := (hran.of_mem_paths (hlisted i hi)).2
    refine ⟨s.written_of_mem_copies (mem_copies_iff.mpr (.inl he)), i.fileName s, hsource, hresolve,
      hlisted i hi, ?_⟩
    simp only [checkSource, hresolve, Disk.pathExists_of_isFile hthere, if_true]
  · intro i hi hkind
    obtain ⟨e, hentry⟩ := exists_entry? hi hkind
    have hsource := Item.source_of_entry? hi hentry (hran.inside i hi)
    have howned := mem_ownedCopies_iff.mpr ⟨i, hi, hentry⟩
    exact ⟨hlisted i hi, e, s.written_of_mem_copies (mem_copies_iff.mpr (.inl howned)), hsource⟩
  · intro script hscript hfile _
    obtain ⟨hitem, e, hcopied, hentry, hsource⟩ := copied_of_file hscript hfile
    exact ⟨hitem, e, s.written_of_mem_copies hcopied, hentry, hsource⟩

/-- The bundled profile generates without failure. Its table of mounts has its entry in the text of
the device makefile, and is found where the entry copies it from. -/
theorem owned_sources_generated_profile :
    (profile.generate ⟨"/d"⟩ oneDirectory).failure = none ∧
      profile.fstabEntry ∈ profile.ownedCopies ∧
      Text.Appends profile.deviceMakefile.render "PRODUCT_COPY_FILES"
        "$(LOCAL_PATH)/fstab.device:root/fstab.device" ∧
      (∃ name, profile.fstabEntry.source = localPath ++ "/" ++ name ∧
        checkSource profile.fstabEntry.source ⟨⟨"/d"⟩, none, false⟩
          (profile.generate ⟨"/d"⟩ oneDirectory).disk = .found ((Path.mk "/d").join name)) ∧
      profile.DeviceReadable ∧
      valuesOf "PRODUCT_COPY_FILES" (readMakefile profile.deviceMakefile.render) =
        (profile.imageCopies ++ profile.copies).map CopyEntry.toText := by
  have hmem : profile.fstabEntry ∈ profile.ownedCopies := by simp [Spec.ownedCopies]
  have htext : profile.fstabEntry.toText = "$(LOCAL_PATH)/fstab.device:root/fstab.device" := by
    decide +kernel
  let env : Surroundings := ⟨⟨"/d"⟩, none, false⟩
  have hrun : (profile.generate env.dir oneDirectory).failure = none := profile_generates
  obtain ⟨howned, -, -, -, -, hread⟩ := owned_sources_generated hrun
  obtain ⟨⟨-, hentry⟩, name, hsource, -, -, hfound⟩ := howned _ hmem
  exact ⟨hrun, hmem, htext ▸ hentry, ⟨name, hsource, hfound⟩, deviceReadable_profile,
    hread deviceReadable_profile⟩

end DeviceSpec
