import DeviceSpec.Generate
import DeviceSpec.Proofs.Render.Order

/-!
# What is used of an init script

A script that is written from its description is used as it is. Of one with a file only the file is
used, whatever else is given, and one with neither a file nor a name is not used at all.

* **one script** — what is used of a script (`InitScript.used?`) is generated and installed like
  the script; it is all of the script exactly when nothing is left over
  (`InitScript.used?_eq_self_iff`);
* **all scripts** — so the scripts of a description can be replaced by what is used of them: the
  files have the same texts (`sameOutput_withUsedScripts`), and generating comes to the same
  (`generate_withUsedScripts`).
-/

namespace DeviceSpec

/-! ## One script -/

/-- What is used of a script. -/
def InitScript.used? (i : InitScript) : Option InitScript :=
  match i.source with
  | .embedded _ => some i
  | .external file => some { isService := i.isService, file }
  | .ambiguous => some { isService := i.isService, file := i.file }
  | .unnamed => none

section Script

variable {i : InitScript}

/-- What the four sources of a script say about its file and its name. -/
theorem InitScript.source_cases (i : InitScript) :
    (i.source = .embedded i.name ∧ i.file = "" ∧ i.name ≠ "") ∨
      (i.source = .external i.file ∧ i.file ≠ "" ∧ i.name = "") ∨
      (i.source = .ambiguous ∧ i.file ≠ "" ∧ i.name ≠ "") ∨
      (i.source = .unnamed ∧ i.file = "" ∧ i.name = "") := by
  unfold InitScript.source
  cases hfile : i.file.isEmpty <;> cases hname : i.name.isEmpty <;> simp_all

/-- All of a script is used when it has either a file or a name, and nothing else beside a file. -/
theorem InitScript.used?_eq_self_iff : i.used? = some i ↔
    (i.file ≠ "" ∧ i.name = "" ∨ i.file = "" ∧ i.name ≠ "") ∧
      (i.file ≠ "" → i.imports = [] ∧ i.actions = [] ∧ i.services = []) := by
  have hcases := i.source_cases
  obtain ⟨isService, file, name, imports, actions, services⟩ := i
  rcases hcases with h | h | h | h <;> simp only [InitScript.used?, h.1] <;> simp_all [eq_comm]

/-- A part is lost of a script that has neither a file nor a name, or both, or a description beside
a file. -/
theorem InitScript.used?_ne_self_iff : i.used? ≠ some i ↔
    i.source = .unnamed ∨ i.source = .ambiguous ∨
      i.source = .external i.file ∧ (i.imports ≠ [] ∨ i.actions ≠ [] ∨ i.services ≠ []) := by
  rw [ne_eq, InitScript.used?_eq_self_iff]
  rcases i.source_cases with h | h | h | h <;> simp [h, Decidable.imp_iff_not_or]

/-- What is used of a script is installed like the script. -/
theorem InitScript.entry?_used? : i.used?.bind InitScript.entry? = i.entry? := by
  rcases i.source_cases with h | h | h | h <;>
    simp [InitScript.used?, h, InitScript.entry?, InitScript.installed?, InitScript.destination]

/-- A script that is generated is used as it is, and of no other anything is generated. -/
theorem InitScript.filter_used? :
    i.used?.filter InitScript.isEmbedded = Option.guard InitScript.isEmbedded i := by
  rcases i.source_cases with h | h | h | h <;>
    simp [InitScript.used?, h, InitScript.isEmbedded, Option.guard]

end Script

/-! ## All scripts -/

/-- The HAL with what is used of its scripts. -/
def Hal.withUsedScripts (h : Hal) : Hal :=
  { h with initScripts := h.initScripts.filterMap InitScript.used? }

/-- The description with what is used of its scripts. -/
def Spec.withUsedScripts (s : Spec) : Spec :=
  { s with
    bootImage := { s.bootImage with
      ramdisk := { s.bootImage.ramdisk with
        initScripts := s.bootImage.ramdisk.initScripts.filterMap InitScript.used? } }
    hals := s.hals.map Hal.withUsedScripts }

section Scripts

variable {s t : Spec}

theorem filterMap_entry?_used? (scripts : List InitScript) :
    (scripts.filterMap InitScript.used?).filterMap InitScript.entry? =
      scripts.filterMap InitScript.entry? := by
  simp only [List.filterMap_filterMap, InitScript.entry?_used?]

theorem Hal.statements_withUsedScripts (h : Hal) : h.withUsedScripts.statements = h.statements := by
  simp only [Hal.statements, Hal.withUsedScripts, filterMap_entry?_used?]
  rfl

/-- The names are not touched, so the HALs are sorted as before. -/
theorem Spec.halsByName_withUsedScripts (s : Spec) :
    s.withUsedScripts.halsByName = s.halsByName.map Hal.withUsedScripts :=
  (List.map_mergeSort (f := Hal.withUsedScripts) fun _ _ _ _ => rfl).symm

theorem PolicyFile.isUsed_withUsedScripts (f : PolicyFile) (s : Spec) :
    f.isUsed s.withUsedScripts = f.isUsed s := by
  simp only [PolicyFile.isUsed, Spec.withUsedScripts, List.any_map]
  rfl

theorem sameOutput_withUsedScripts (s : Spec) : SameOutput s s.withUsedScripts := by
  have hsorted := s.halsByName_withUsedScripts
  refine ⟨?_, fun a => ?_, fun a => ?_⟩
  · simp only [Spec.plan, PolicyFile.isUsed_withUsedScripts]
    rfl
  · cases a <;> rfl
  · -- only the device makefile reads scripts
    cases a with
    | boardMakefile =>
      simp only [Artifact.render?, Spec.boardMakefile, hsorted, List.flatMap_map]
      rfl
    | deviceMakefile =>
      have hramdisk : s.withUsedScripts.ramdiskCopies = s.ramdiskCopies := by
        simp only [Spec.ramdiskCopies, Spec.withUsedScripts, filterMap_entry?_used?]
        rfl
      simp only [Artifact.render?, Spec.deviceMakefile, hsorted, hramdisk, List.flatMap_map,
        Hal.statements_withUsedScripts]
      rfl
    | manifest =>
      simp only [Artifact.render?, Spec.manifest, Spec.manifestEntries, hsorted, List.flatMap_map]
      rfl
    | ueventScript =>
      simp only [Artifact.render?, Spec.ueventScript, hsorted, List.flatMap_map]
      rfl
    | policy f =>
      simp only [Artifact.render?, PolicyFile.render, PolicyFile.lines, hsorted,
        List.filterMap_map]
      rfl
    | lunchScript => rfl
    | productIndex => rfl
    | productMakefile => rfl
    | fstab => rfl
    | usbScript => rfl

theorem embeddedScripts_withUsedScripts (s : Spec) :
    s.withUsedScripts.embeddedScripts = s.embeddedScripts := by
  have hscripts : s.withUsedScripts.initScripts = s.initScripts.filterMap InitScript.used? := by
    simp only [Spec.initScripts, Spec.withUsedScripts, List.flatMap_map, List.filterMap_append,
      List.filterMap_flatMap]
    rfl
  rw [Spec.embeddedScripts, hscripts, List.filter_filterMap]
  simp only [InitScript.filter_used?, List.filterMap_eq_filter]
  rfl

/-- Items are written alike when the descriptions give them the same names and texts. -/
theorem writeItems_congr (h : SameOutput s t) (dir : Path) (is : List Item) (d : Disk) :
    writeItems t dir is d = writeItems s dir is d := by
  have hname : ∀ i : Item, i.fileName t = i.fileName s := by
    intro i
    cases i with
    | artifact a => exact h.fileName a
    | script i => rfl
  have hcontent : ∀ i : Item, i.content t = i.content s := by
    intro i
    cases i with
    | artifact a => simp only [Item.content, Item.render?, h.render? a, hname]
    | script i => rfl
  induction is generalizing d with
  | nil => rfl
  | cons i rest ih => simp only [writeItems, hcontent, hname, ih]

/-- What is not used of the scripts makes no difference to a run. -/
theorem generate_withUsedScripts (s : Spec) (dir : Path) (d : Disk) :
    s.withUsedScripts.generate dir d = s.generate dir d := by
  have hsame := sameOutput_withUsedScripts s
  have hitems : s.withUsedScripts.items = s.items := by
    rw [Spec.items, Spec.items, hsame.plan, embeddedScripts_withUsedScripts]
  rw [Spec.generate, Spec.generate, hitems, writeItems_congr hsame]

end Scripts

end DeviceSpec
