import DeviceSpec.Profile
import DeviceSpec.Proofs.Command.Again
import DeviceSpec.Proofs.Command.Anywhere
import DeviceSpec.Proofs.Disk.Delete
import DeviceSpec.Proofs.Disk.Missing
import DeviceSpec.Proofs.Ledger.Account
import Mathlib.Control.Monad.Basic

/-!
# Cleaning what is gone already

Cleaning gets to a listed path at which nothing is there.

* **listed by a run** — the paths that a run has listed hold no names that are too long, in whatever
  directory they are looked for later (`spelled_of_listed`);
* **one path** — it is passed over as missing when it is not blocked (`removeListed_of_free`), and
  ends the run when it is (`removeListed_of_blocked`);
* **cleaning** — with a file in the place of a directory above it, cleaning stops there
  (`clean_passes_gone_iff`).
-/

namespace DeviceSpec

open Disk (longestPath)

/-! ## What a run lists -/

section Listed

variable {s : Spec} {dir new : Path} {w w' : World} {l : Ledger}
  (hgenerated : (generateAndRecord s dir).perform w = (.ok l, w'))

include hgenerated

/-- Wherever the directory of a run is now, the paths that are listed are spelled well. -/
theorem spelled_of_listed {e : Disk} (hload : Ledger.load new e = .ok l) {p : Path}
    (hp : p ∈ l.listed new) : p.Spelled := by
  cases hdir : dir.isAbsolute with
  | false =>
    obtain ⟨hlisted, -⟩ := listed_of_relative hgenerated hdir new
    rw [hlisted] at hp
    obtain ⟨name, -, -, -, hfile⟩ := exists_name_of_listed hgenerated hp
    exact Path.spelled_of_isFile hfile
  | true =>
    obtain ⟨f, hf, rfl⟩ := List.mem_map.mp hp
    obtain ⟨name, hinside, hne, rfl, hfile⟩ := exists_name_of_listed hgenerated hf
    obtain ⟨hrel, -⟩ := inside_of_isInsideName hinside
    have hspelled := Path.spelled_of_isFile hfile
    obtain ⟨rest, hrebase, hrest, hsteps, hsublist⟩ :=
      rebase_of_listed hgenerated hdir hrel hne new
    rw [hrebase]
    -- the directory can be entered, since its ledger is found there
    obtain ⟨content, hfind⟩ := Disk.find_of_isFile (Ledger.isFile_of_load hload)
    obtain ⟨haccepted, -, henter, -⟩ := find_ledgerPath_iff.mp hfind
    have hnul := haccepted.noNul
    rw [ledgerPath, Path.text_join Ledger.isAbsolute_ledgerName] at hnul
    simp only [String.toList_append, List.mem_append, not_or] at hnul
    refine ⟨?_, fun t ht hup => ?_⟩
    · have hname := hspelled.noNul
      rw [Path.text_join hrel] at hname
      rw [Path.text_join hrest]
      simp only [String.toList_append, List.mem_append, not_or] at hname ⊢
      exact ⟨hnul.1, fun hmem => hname.2 (hsublist.subset hmem)⟩
    · rw [Path.steps_join hrest, hsteps] at ht
      rcases List.mem_append.mp ht with ht | ht
      · exact Disk.short_of_enterAll (Disk.dot_not_mem_steps new) henter t ht hup
      · refine hspelled.short t ?_ hup
        rw [Path.steps_join hrel]
        exact List.mem_append_right _ ht

/-- In the directory of the run itself they are not too long either. -/
theorem short_of_listed {p : Path} (hp : p ∈ l.listed dir) :
    p.text.utf8ByteSize ≤ longestPath := by
  cases hdir : dir.isAbsolute with
  | false =>
    obtain ⟨hlisted, -⟩ := listed_of_relative hgenerated hdir dir
    rw [hlisted] at hp
    obtain ⟨name, -, -, -, hfile⟩ := exists_name_of_listed hgenerated hp
    obtain ⟨content, hfind⟩ := Disk.find_of_isFile hfile
    exact (Disk.accepted_of_find hfind).short
  | true =>
    obtain ⟨f, hf, rfl⟩ := List.mem_map.mp hp
    obtain ⟨name, hinside, hne, rfl, hfile⟩ := exists_name_of_listed hgenerated hf
    obtain ⟨hrel, -⟩ := inside_of_isInsideName hinside
    obtain ⟨content, hfind⟩ := Disk.find_of_isFile hfile
    obtain ⟨-, hhome⟩ := dir_of_generateAndRecord hgenerated
    rw [hhome hdir]
    exact (accepted_rebase_join hdir hrel hne (Disk.accepted_of_find hfind)).short

end Listed

/-! ## One path -/

section Gone

variable {d : Disk} {p : Path}

/-- A path that is not blocked is passed over as missing when nothing is there. -/
theorem removeListed_of_free (hgone : d.pathExists p = false) (h : ¬ d.Blocked p)
    (rest : List Path) (summary : CleanSummary) :
    removeListed (p :: rest) summary d =
      removeListed rest { summary with missing := summary.missing ++ [p] } d := by
  have hnone := (Disk.find_notFound_iff_not_blocked hgone).mpr h
  have hdir : d.isDir p = false := by rw [Disk.isDir, hnone]
  simp [removeListed, hdir, Disk.removeIfThere_of_notFound hnone]

/-- A path that is blocked ends the run. -/
theorem removeListed_of_blocked (hgone : d.pathExists p = false) (h : d.Blocked p) :
    ∃ cause, ∀ rest summary, removeListed (p :: rest) summary d = (.error (p, cause), d) := by
  rcases removeListed_step d p with ⟨hremovable, -⟩ | ⟨-, cause, -, hstop⟩
  · -- it can be removed only if nothing is in its way
    rcases hremovable with hfile | hdir | hnone
    · rw [Disk.pathExists_iff.mpr (.inr hfile)] at hgone
      cases hgone
    · rw [Disk.pathExists_iff.mpr (.inl hdir)] at hgone
      cases hgone
    · exact absurd h ((Disk.find_notFound_iff_not_blocked hgone).mp hnone)
  · exact ⟨cause, hstop⟩

end Gone

/-! ## Cleaning -/

/-- Nothing is there at a listed path. When cleaning gets to it, it is counted as missing and the
rest is removed, exactly when it is not blocked: its text is not refused, no name in it is too long,
and no file stands where a step leads. Otherwise cleaning fails there. What a run has listed can be
blocked only by a file, or by its length if the directory has got a longer name since. -/
theorem clean_passes_gone_iff {new : Path} {e e' : Disk} {l : Ledger} {front rest : List Path}
    {p : Path} {summary : CleanSummary} (hload : Ledger.load new e = .ok l)
    (hlisted : l.listed new = front ++ p :: rest)
    (hfront : removeListed front {} e = (.ok summary, e')) (hgone : e.pathExists p = false) :
    ((∀ more, removeListed (p :: more) summary e' =
        removeListed more { summary with missing := summary.missing ++ [p] } e') ↔
      ¬ e'.Blocked p) ∧
    (∀ answer f, Ledger.clean new e = (.ok answer, f) → p ∈ answer.missing) ∧
    (e'.Blocked p → ∃ cause, Ledger.clean new e = (.error (.remove p cause), e')) ∧
    ∀ (s : Spec) (dir : Path) (w w' : World),
      (generateAndRecord s dir).perform w = (.ok l, w') →
        (e'.Blocked p ↔ longestPath < p.text.utf8ByteSize ∨ e'.Interrupted p) ∧
        (new = dir → p.text.utf8ByteSize ≤ longestPath) := by
  obtain ⟨hremoved, -⟩ := removeListed_ok hfront
  have hgone' : e'.pathExists p = false :=
    Bool.eq_false_iff.mpr fun hp => by simp [hremoved.within.pathExists hp] at hgone
  have hp : p ∈ l.listed new := by
    rw [hlisted]
    exact List.mem_append_right _ List.mem_cons_self
  refine ⟨⟨fun hpasses hblocked => ?_, fun hfree more => removeListed_of_free hgone' hfree more _⟩,
    fun answer f hclean => ?_, fun hblocked => ?_, fun s dir w w' hgenerated => ⟨?_, ?_⟩⟩
  · obtain ⟨cause, hstop⟩ := removeListed_of_blocked hgone' hblocked
    have hempty := hpasses []
    rw [hstop] at hempty
    cases hempty
  · rw [summary_of_clean hload hclean, hlisted, Disk.account_append, Disk.account,
      Disk.fate_of_gone hgone]
    exact List.mem_append_right _ (mem_having_iff.mpr (by simp))
  · obtain ⟨cause, hstop⟩ := removeListed_of_blocked hgone' hblocked
    refine ⟨cause, Ledger.clean_of_run_error hload ?_⟩
    rw [hlisted, removeListed_append _ hfront, hstop]
  · exact (spelled_of_listed hgenerated hload hp).blocked_iff
  · rintro rfl
    exact short_of_listed hgenerated hp

/-- The bundled profile with its table of mounts in a directory of its own. -/
def nested : Spec := profile.withFstab "etc/fstab"

/-- What a run of it lists. -/
def nestedListing : Ledger :=
  ⟨⟨"/d"⟩, [⟨"/d/vendorsetup.sh"⟩, ⟨"/d/AndroidProducts.mk"⟩, ⟨"/d/BoardConfig.mk"⟩,
    ⟨"/d/device.mk"⟩, ⟨"/d/manifest.xml"⟩, ⟨"/d/device.mk"⟩, ⟨"/d/ueventd.rc.gen"⟩,
    ⟨"/d/etc/fstab"⟩, ⟨"/d/init.device.rc"⟩]⟩

set_option maxRecDepth 100000 in
theorem nested_runs : (nested.generate ⟨"/d"⟩ oneDirectory).failure = none ∧
    nested.Records ⟨"/d"⟩ oneDirectory ∧
    nested.newLedger ⟨"/d"⟩ oneDirectory = nestedListing := by
  decide +kernel

theorem nested_recorded : ∃ w, (generateAndRecord nested ⟨"/d"⟩).perform { disk := oneDirectory } =
    (.ok nestedListing, w) ∧ w.disk = nested.recordDisk ⟨"/d"⟩ oneDirectory := by
  obtain ⟨hfailure, hrecords, hledger⟩ := nested_runs
  exact (generateAndRecord_ok_iff (by decide)).mpr ⟨⟨hfailure, hrecords⟩, hledger.symm, rfl⟩

/-- The directory of the table of mounts is deleted. -/
def directoryGone : Disk := (nested.recordDisk ⟨"/d"⟩ oneDirectory).delete ⟨"/d/etc"⟩

set_option maxRecDepth 100000 in
theorem directoryGone_holds : directoryGone.isFile (ledgerPath ⟨"/d"⟩) = true ∧
    (∀ q ∈ nestedListing.files.take 7, directoryGone.isFile q = true) ∧
    directoryGone.find ⟨"/d/etc/fstab"⟩ = .error .notFound ∧
    directoryGone.node? ["d", "etc"] = none := by
  decide +kernel

theorem load_directoryGone : Ledger.load ⟨"/d"⟩ directoryGone = .ok nestedListing := by
  obtain ⟨-, hrecords, hledger⟩ := nested_runs
  have hdir : Path.isAbsolute ⟨"/d"⟩ = true := by decide
  obtain ⟨-, hstored, -⟩ := recordDisk_spec (s := nested) hdir oneDirectory
  have hwithin : directoryGone.Within (nested.recordDisk ⟨"/d"⟩ oneDirectory) :=
    Disk.within_delete _ _
  rw [Ledger.load_of_within hwithin directoryGone_holds.1, hstored hrecords, hledger]

/-- Cleaning passes over the table of mounts when its directory is gone. -/
theorem clean_passes_gone_iff_directoryGone : ∃ w front rest summary e',
    (generateAndRecord nested ⟨"/d"⟩).perform { disk := oneDirectory } = (.ok nestedListing, w) ∧
    directoryGone = w.disk.delete ⟨"/d/etc"⟩ ∧
    Ledger.load ⟨"/d"⟩ directoryGone = .ok nestedListing ∧
    nestedListing.listed ⟨"/d"⟩ = front ++ ⟨"/d/etc/fstab"⟩ :: rest ∧
    removeListed front {} directoryGone = (.ok summary, e') ∧
    directoryGone.pathExists ⟨"/d/etc/fstab"⟩ = false ∧ ¬ e'.Interrupted ⟨"/d/etc/fstab"⟩ ∧
    ∀ more, removeListed (⟨"/d/etc/fstab"⟩ :: more) summary e' =
      removeListed more { summary with missing := summary.missing ++ [⟨"/d/etc/fstab"⟩] } e' := by
  obtain ⟨w, hperform, hdisk⟩ := nested_recorded
  obtain ⟨-, hfiles, hnone, -⟩ := directoryGone_holds
  have hlisted : nestedListing.listed ⟨"/d"⟩ =
      nestedListing.files.take 7 ++ ⟨"/d/etc/fstab"⟩ :: nestedListing.files.drop 8 := by
    decide +kernel
  have hgone : directoryGone.pathExists ⟨"/d/etc/fstab"⟩ = false := by
    rw [Disk.pathExists, hnone]
  obtain ⟨summary, e', hfront⟩ :=
    removeListed_ok_of_removable {} fun q hq => .inl (hfiles q hq)
  have hwithin := (removeListed_ok hfront).1.within
  -- what is not found on the disk is not found after some removals either
  have hnone' := hwithin.find_notFound hnone
  have hgone' : e'.pathExists ⟨"/d/etc/fstab"⟩ = false := by rw [Disk.pathExists, hnone']
  have hfree := (Disk.find_notFound_iff_not_blocked hgone').mp hnone'
  obtain ⟨hpasses, -, -, hrun⟩ := clean_passes_gone_iff load_directoryGone hlisted hfront hgone
  obtain ⟨hblocked, -⟩ := hrun _ _ _ _ hperform
  exact ⟨w, _, _, summary, e', hperform, by rw [directoryGone, hdisk], load_directoryGone, hlisted,
    hfront, hgone, fun hinterrupted => hfree (hblocked.mpr (.inr hinterrupted)),
    hpasses.mpr hfree⟩

/-- A file is put in the place of that directory. -/
def fileForDirectory : Disk := directoryGone.put ["d", "etc"] (.file "".toUTF8)

set_option maxRecDepth 100000 in
theorem removeListed_fileForDirectory :
    (removeListed (nestedListing.listed ⟨"/d"⟩) {} fileForDirectory).1 =
      .error (⟨"/d/etc/fstab"⟩, .notDirectory) ∧
    (removeListed (nestedListing.listed ⟨"/d"⟩) {} fileForDirectory).2.isFile
      ⟨"/d/init.device.rc"⟩ = true ∧
    fileForDirectory.pathExists ⟨"/d/etc/fstab"⟩ = false := by
  decide +kernel

/-- Then cleaning stops at the table of mounts. It is gone as before, and one more file is left that
was listed. -/
theorem clean_stops_at_gone : ∃ w f,
    (generateAndRecord nested ⟨"/d"⟩).perform { disk := oneDirectory } = (.ok nestedListing, w) ∧
    fileForDirectory = (w.disk.delete ⟨"/d/etc"⟩).put ["d", "etc"] (.file "".toUTF8) ∧
    Ledger.load ⟨"/d"⟩ fileForDirectory = .ok nestedListing ∧
    ⟨"/d/etc/fstab"⟩ ∈ nestedListing.listed ⟨"/d"⟩ ∧
    fileForDirectory.pathExists ⟨"/d/etc/fstab"⟩ = false ∧
    Ledger.clean ⟨"/d"⟩ fileForDirectory =
      (.error (.remove ⟨"/d/etc/fstab"⟩ .notDirectory), f) ∧
    f.isFile ⟨"/d/init.device.rc"⟩ = true := by
  obtain ⟨w, hperform, hdisk⟩ := nested_recorded
  obtain ⟨-, -, -, hetc⟩ := directoryGone_holds
  have hmore : directoryGone.Within fileForDirectory := .put (by decide) hetc _
  have hload : Ledger.load ⟨"/d"⟩ fileForDirectory = .ok nestedListing := by
    rw [← Ledger.load_of_within hmore (Ledger.isFile_of_load load_directoryGone),
      load_directoryGone]
  obtain ⟨hstop, hleft, hgone⟩ := removeListed_fileForDirectory
  generalize hrun : removeListed (nestedListing.listed ⟨"/d"⟩) {} fileForDirectory = run
    at hstop hleft
  obtain ⟨result, f⟩ := run
  obtain rfl : result = _ := hstop
  exact ⟨w, f, hperform, by rw [fileForDirectory, directoryGone, hdisk], hload, by decide +kernel,
    hgone, Ledger.clean_of_run_error hload hrun, hleft⟩

end DeviceSpec
