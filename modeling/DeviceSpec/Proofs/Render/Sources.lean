import DeviceSpec.Artifact
import DeviceSpec.Check.Source
import DeviceSpec.Proofs.Render.Device
import Mathlib.Data.List.DropRight

/-!
# Where copied files come from

A file that the device makefile copies is either made from the description or given: it lies in the
device directory or in the Android tree before anything is generated.

* **two kinds** — the entries of files that are made (`Spec.ownedCopies`) and of files that are
  given (`Spec.givenCopies`) are together the entries of the makefile (`mem_copies_iff`);
* **places** — both ways to write a file of the device directory as a source lead to the same path
  (`resolve_joinMake`, `resolve_localSource`).
-/

namespace DeviceSpec

/-! ## Two kinds -/

/-- The init scripts that are copied from a file, in order. -/
def Spec.externalScripts (s : Spec) : List InitScript :=
  s.initScripts.filter fun i => !i.file.isEmpty

/-- The files of a HAL that are given, apart from its scripts. -/
def Hal.givenCopies (h : Hal) : List CopyEntry :=
  h.features.map featureEntry ++ h.copyPackages.map CopyPackage.entry
    ++ h.firmwares.map firmwareEntry ++ h.drivers.map driverEntry
    ++ h.runtimeConfigs.map RuntimeConfig.entry

/-- The files that are made from the description: the device node rules unless they are copied from
a file, the table of mounts, the script of the USB gadget, the scripts that are written from their
description and the manifest. -/
def Spec.ownedCopies (s : Spec) : List CopyEntry :=
  (if s.bootImage.ramdisk.ueventScript.isExternal then [] else [s.ueventEntry])
    ++ [s.fstabEntry] ++ (if s.board.usbGadget.isSome then [s.usbEntry] else [])
    ++ s.embeddedScripts.filterMap InitScript.entry? ++ [manifestEntry]

/-- The files that are given, apart from the device node rules. -/
def Spec.plainlyGivenCopies (s : Spec) : List CopyEntry :=
  s.externalScripts.filterMap InitScript.entry? ++ s.board.features.map featureEntry
    ++ s.hals.flatMap Hal.givenCopies

/-- The files that are given: the device node rules if they are copied from a file, scripts that
are, features, copied files, firmware, kernel modules and configuration files. -/
def Spec.givenCopies (s : Spec) : List CopyEntry :=
  (if s.bootImage.ramdisk.ueventScript.isExternal then [s.ueventEntry] else [])
    ++ s.plainlyGivenCopies

section Kinds

variable {s : Spec} {e : CopyEntry}

/-- A script that is installed is either described or copied from a file. -/
theorem mem_scriptCopies_iff : e ∈ s.initScripts.filterMap InitScript.entry? ↔
    e ∈ s.embeddedScripts.filterMap InitScript.entry? ∨
      e ∈ s.externalScripts.filterMap InitScript.entry? := by
  have hkind : ∀ i : InitScript, i.entry? = some e →
      (i.isEmbedded = true ∨ (!i.file.isEmpty) = true) := by
    intro i hi
    obtain ⟨name, hinstalled, -⟩ := Option.map_eq_some_iff.mp hi
    unfold InitScript.installed? at hinstalled
    unfold InitScript.isEmbedded
    cases hfile : i.file.isEmpty <;> cases hname : i.name.isEmpty <;> simp_all
  simp only [Spec.embeddedScripts, Spec.externalScripts, List.mem_filterMap, List.mem_filter]
  constructor
  · rintro ⟨i, hi, hentry⟩
    rcases hkind i hentry with hkind | hkind
    · exact .inl ⟨i, ⟨hi, hkind⟩, hentry⟩
    · exact .inr ⟨i, ⟨hi, hkind⟩, hentry⟩
  · rintro (⟨i, ⟨hi, -⟩, hentry⟩ | ⟨i, ⟨hi, -⟩, hentry⟩)
    · exact ⟨i, hi, hentry⟩
    · exact ⟨i, hi, hentry⟩

/-- The entries of a HAL are those of its scripts and the others. -/
theorem Hal.mem_copies {h : Hal} : e ∈ h.copies ↔
    e ∈ h.initScripts.filterMap InitScript.entry? ∨ e ∈ h.givenCopies := by
  simp only [Hal.copies, Hal.givenCopies, List.mem_append]
  grind

theorem mem_scriptCopies : e ∈ s.initScripts.filterMap InitScript.entry? ↔
    e ∈ s.bootImage.ramdisk.initScripts.filterMap InitScript.entry? ∨
      ∃ h ∈ s.hals, e ∈ h.initScripts.filterMap InitScript.entry? := by
  simp only [Spec.initScripts, List.filterMap_append, List.mem_append, List.filterMap_flatMap,
    List.mem_flatMap]

/-- The entries of the makefile, whatever their order. -/
theorem mem_copies : e ∈ s.copies ↔
    e = s.ueventEntry ∨ e = s.fstabEntry ∨ (s.board.usbGadget.isSome = true ∧ e = s.usbEntry) ∨
      e = manifestEntry ∨ e ∈ s.initScripts.filterMap InitScript.entry? ∨
        e ∈ s.board.features.map featureEntry ∨ e ∈ s.hals.flatMap Hal.givenCopies := by
  have hramdisk : e ∈ s.rootfsCopies ↔ e = s.ueventEntry ∨ e = s.fstabEntry ∨
      e ∈ s.bootImage.ramdisk.initScripts.filterMap InitScript.entry? ∨
        (s.board.usbGadget.isSome = true ∧ e = s.usbEntry) := by
    simp only [Spec.rootfsCopies, List.mem_append, List.mem_cons, List.not_mem_nil, or_false,
      List.mem_ite_nil_right, or_assoc]
  have hhals : e ∈ s.halsByName.flatMap Hal.copies ↔
      (∃ h ∈ s.hals, e ∈ h.initScripts.filterMap InitScript.entry?) ∨
        e ∈ s.hals.flatMap Hal.givenCopies := by
    simp only [List.mem_flatMap, s.halsByName_sorted.1.mem_iff, Hal.mem_copies, and_or_left,
      exists_or]
  simp only [Spec.copies, ← manifestEntry_eq, List.mem_append, List.mem_singleton, hramdisk, hhals,
    mem_scriptCopies]
  grind

/-- Every file that the makefile copies is made or given, and the other way round. -/
theorem mem_copies_iff : e ∈ s.copies ↔ e ∈ s.ownedCopies ∨ e ∈ s.givenCopies := by
  rw [mem_copies, mem_scriptCopies_iff]
  simp only [Spec.ownedCopies, Spec.givenCopies, Spec.plainlyGivenCopies, List.mem_append,
    List.mem_ite_nil_left, List.mem_ite_nil_right, List.mem_singleton]
  grind

end Kinds

/-! ## Places -/

theorem dropSlashes_dropSlashes (s : String) : dropSlashes (dropSlashes s) = dropSlashes s := by
  unfold dropSlashes
  rw [String.toList_ofList, List.dropWhile_idempotent]

theorem dropSlashes_slash (s : String) : dropSlashes ("/" ++ s) = dropSlashes s := by
  simp [dropSlashes, String.toList_append]

/-- A name that does not start at the root keeps its text. -/
theorem dropSlashes_of_relative {name : String} (h : Path.isAbsolute ⟨name⟩ = false) :
    dropSlashes name = name := by
  unfold Path.isAbsolute Text.hasHead at h
  unfold dropSlashes
  cases hchars : name.toList with
  | nil => rw [List.dropWhile_nil, ← hchars, String.ofList_toList]
  | cons c cs =>
    have hc : (c == '/') = false := by
      rw [hchars] at h
      cases hslash : c == '/' with
      | false => rfl
      | true =>
        rw [beq_iff_eq.mp hslash] at h
        cases h
    rw [List.dropWhile_cons_of_neg (by simp [hc]), ← hchars, String.ofList_toList]

theorem joinMake_localPath (name : String) : joinMake localPath name =
    if (dropSlashes name).isEmpty then localPath else localPath ++ "/" ++ dropSlashes name := by
  have hdir : dropEndSlashes localPath = localPath := by decide
  have hne : localPath.isEmpty = false := by decide
  simp only [joinMake, hdir, hne, Bool.false_eq_true, if_false]

section Places

variable (env : Surroundings) (name : String)

/-- A file of the device directory as `$(LOCAL_PATH)/name`. -/
theorem resolve_localSource : env.resolve (localSource name) =
    some (env.dir.join (dropSlashes name)) := by
  rw [localSource, String.append_assoc, Surroundings.resolve, Text.afterHead?_append]
  simp only [dropSlashes_slash, dropSlashes_dropSlashes]

/-- The same file with the paths joined; an empty name stands for the directory in both. -/
theorem resolve_joinMake : env.resolve (joinMake localPath name) =
    some (env.dir.join (dropSlashes name)) := by
  rw [joinMake_localPath]
  split
  · rename_i hempty
    have hwhole : Text.afterHead? localPath localPath = some "" := by decide
    have hname : dropSlashes name = "" := by simpa using hempty
    rw [Surroundings.resolve, hwhole, hname]
    rfl
  · exact resolve_localSource env name

end Places

end DeviceSpec
