import DeviceSpec.Proofs.Command.Inputs
import DeviceSpec.Proofs.Disk.Descend
import DeviceSpec.Proofs.Generate.Inside

/-!
# Cleaning undoes generating

A run in a directory that has no ledger and none of the files that are to be written, and after it a
cleaning that goes well.

* **the run** — what it writes was not there before (`Spec.Fresh.not_file`), and unless it has
  written where its ledger goes, that lists nothing else (`newLedger_of_own`);
* **both** — the files are those from before exactly when nothing that is listed leads to one of
  them (`undone_iff`), so in particular after a run that goes well (`clean_undoes_iff`);
* **what fails** — a description can bring along a ledger of its own, which lists what the run has
  not written (`forged_ledger_harms`).
-/

namespace DeviceSpec

/-- The directory is there, every entry of the disk lies in a directory, and neither the ledger nor
the file of an item is there. -/
structure Spec.Fresh (s : Spec) (dir : Path) (d : Disk) : Prop where
  rooted : d.Rooted
  there : d.isDir dir = true
  noLedger : d.pathExists (ledgerPath dir) = false
  noItem : ∀ i ∈ s.items, d.pathExists (dir.join (i.fileName s)) = false

/-- The files are those from before, apart from an empty ledger. -/
structure Undone (dir : Path) (d e : Disk) : Prop where
  files : ∀ l, l ≠ d.place (ledgerPath dir) → ∀ content,
    e.node? l = some (.file content) ↔ d.node? l = some (.file content)
  ledger : Ledger.load dir e = .ok ⟨dir, []⟩

/-! ## The run -/

/-- Where a path leads nowhere there is no file, if the same path leads to one on another disk. -/
theorem not_file_of_pathExists {d e : Disk} {dir : Path} {name : String} (hrooted : d.Rooted)
    (hthere : d.isDir dir = true) (hdir : dir.isAbsolute = true)
    (hrel : Path.isAbsolute ⟨name⟩ = false) (hup : ".." ∉ Path.steps ⟨name⟩)
    (habsent : d.pathExists (dir.join name) = false) (hfile : e.isFile (dir.join name) = true)
    (content : ByteArray) : d.node? (d.place (dir.join name)) ≠ some (.file content) := by
  intro hnode
  obtain ⟨content', hfind⟩ := Disk.find_of_isFile hfile
  obtain ⟨-, hholdable, -⟩ := (Disk.find_join_iff hdir hrel hup).mp hfind
  rw [Disk.place_join hrel hup] at hnode
  have hfind' := (Disk.find_join_iff hdir hrel hup).mpr
    ⟨hthere, hholdable, rfl, hrooted.holdsFile hnode⟩
  unfold Disk.pathExists at habsent
  rw [hfind'] at habsent
  cases habsent

section Fresh

variable {s : Spec} {dir : Path} {d : Disk}

/-- There is no file in the place of a ledger that is there afterwards. -/
theorem Spec.Fresh.not_ledger (h : s.Fresh dir d) (hdir : dir.isAbsolute = true) {e : Disk}
    (hfile : e.isFile (ledgerPath dir) = true) (content : ByteArray) :
    d.node? (d.place (ledgerPath dir)) ≠ some (.file content) :=
  not_file_of_pathExists h.rooted h.there hdir Ledger.isAbsolute_ledgerName
    Ledger.up_not_mem_steps_ledgerName h.noLedger hfile content

/-- Nor in the place of a path that is written. -/
theorem Spec.Fresh.not_file (h : s.Fresh dir d) (hdir : dir.isAbsolute = true) {p : Path}
    (hp : p ∈ (s.generate dir d).paths dir) (content : ByteArray) :
    d.node? (d.place p) ≠ some (.file content) := by
  obtain ⟨hran, -⟩ := generate_ran s dir d
  obtain ⟨-, hfile⟩ := hran.of_mem_paths hp
  obtain ⟨i, hi, rfl⟩ := hran.mem_paths_iff_item.mp hp
  obtain ⟨hrel, hup⟩ := inside_of_isInsideName (hran.inside i hi)
  exact not_file_of_pathExists h.rooted h.there hdir hrel hup
    (h.noItem i (List.mem_of_mem_take hi)) hfile content

/-- Without a ledger before, and with nothing written in its place, a run only lists its own
files. -/
theorem newLedger_of_own (h : s.Fresh dir d) (hdir : dir.isAbsolute = true)
    (hown : ∀ p ∈ (s.generate dir d).paths dir, d.place p ≠ d.place (ledgerPath dir)) :
    s.newLedger dir d = ⟨dir, (s.generate dir d).paths dir⟩ := by
  obtain ⟨hran, -⟩ := generate_ran s dir d
  refine newLedger_of_not_loaded fun l hload => ?_
  -- a ledger would have been written by the run
  have hfile := Ledger.isFile_of_load hload
  obtain ⟨content, hnode⟩ := Disk.node?_of_isFile hfile
  rw [hran.wroteAll.keepsDirs.place_eq] at hnode
  obtain ⟨p, hp, hplace⟩ := hran.exists_path_of_changed hnode (h.not_ledger hdir hfile content)
  exact hown p hp hplace

/-! ## Both -/

variable {summary : CleanSummary} {w : World}

/-- After a run and a cleaning that goes well, a file that is not the ledger is there exactly when
it was there before, and nothing that is listed leads to it. -/
theorem node?_clean_fresh_iff (h : s.Fresh dir d) (hdir : dir.isAbsolute = true)
    (hclean : (clean dir).perform { disk := s.recordDisk dir d } = (.ok summary, w)) {l : Location}
    (hl : l ≠ d.place (ledgerPath dir)) {content : ByteArray} :
    w.disk.node? l = some (.file content) ↔ d.node? l = some (.file content) ∧
      ∀ p ∈ (s.newLedger dir d).listed dir, (s.recordDisk dir d).isFile p = true →
        d.place p ≠ l := by
  obtain ⟨hrun, hload⟩ := load_of_perform_clean hdir hclean
  obtain ⟨hwrote, -, -⟩ := recordDisk_spec (s := s) hdir d
  have hplace := hwrote.keepsDirs.place_eq
  have hother : l ≠ (s.recordDisk dir d).place (ledgerPath dir) := by rwa [hplace]
  have hkept := Ledger.node?_of_clean_iff hdir hrun hload hother
  simp only [hplace] at hkept
  constructor
  · intro hnode
    have hrecorded := Ledger.node?_some_of_clean hdir hrun hother hnode
    have hspared := hkept.mp (hnode.trans hrecorded.symm)
    refine ⟨?_, hspared⟩
    rcases hwrote.node?_file.mp hrecorded with hlast | ⟨-, hbefore⟩
    · -- what the run has written there is listed
      have hsome : d.lastAt l (s.recordWrites dir d) ≠ none := by simp [hlast]
      obtain ⟨v, hv, hvl⟩ := Disk.exists_mem_of_lastAt hsome
      rcases fst_of_mem_recordWrites hv with hpath | hledger
      · obtain ⟨-, hlisted, hfile, hsame, -⟩ := listed_of_mem_paths hdir hpath
        exact absurd (hsame.trans hvl) (hspared _ hlisted hfile)
      · rw [← hvl, hledger] at hl
        exact absurd rfl hl
    · exact hbefore
  · rintro ⟨hbefore, hspared⟩
    rw [hkept.mpr hspared, hwrote.node?_file]
    refine .inr ⟨Disk.lastAt_eq_none_iff.mpr fun v hv hvl => ?_, hbefore⟩
    rcases fst_of_mem_recordWrites hv with hpath | hledger
    · exact h.not_file hdir hpath content (hvl ▸ hbefore)
    · rw [← hvl, hledger] at hl
      exact hl rfl

/-- The files are those from before exactly when nothing that is listed leads to one of them. -/
theorem undone_iff (h : s.Fresh dir d) (hdir : dir.isAbsolute = true)
    (hclean : (clean dir).perform { disk := s.recordDisk dir d } = (.ok summary, w)) :
    Undone dir d w.disk ↔ ∀ p ∈ (s.newLedger dir d).listed dir,
      (s.recordDisk dir d).isFile p = true → ∀ content,
        d.node? (d.place p) ≠ some (.file content) := by
  obtain ⟨hrun, hload⟩ := load_of_perform_clean hdir hclean
  constructor
  · rintro ⟨hfiles, -⟩ p hp hfile content hnode
    by_cases hplace : d.place p = d.place (ledgerPath dir)
    · rw [hplace] at hnode
      exact h.not_ledger hdir (Ledger.isFile_of_load hload) content hnode
    · have hafter := (hfiles _ hplace content).mpr hnode
      exact ((node?_clean_fresh_iff h hdir hclean hplace).mp hafter).2 p hp hfile rfl
  · intro hspared
    obtain ⟨-, -, -, -, -, hempty, -⟩ := Ledger.clean_ok hdir hrun
    refine ⟨fun l hl content => ?_, hempty⟩
    rw [node?_clean_fresh_iff h hdir hclean hl]
    refine ⟨fun hboth => hboth.1, fun hnode => ⟨hnode, fun p hp hfile hplace => ?_⟩⟩
    exact hspared p hp hfile content (hplace ▸ hnode)

/-- A run in a directory without a ledger, where none of the files is there that are to be written,
is undone by a cleaning that goes well exactly when nothing that is listed leads to a file from
before. So it is when the run has gone well, and when it has not written where its ledger goes. -/
theorem clean_undoes_iff (hdir : dir.isAbsolute = true) (h : s.Fresh dir d)
    (hclean : (clean dir).perform { disk := s.recordDisk dir d } = (.ok summary, w)) :
    (Undone dir d w.disk ↔ ∀ p ∈ (s.newLedger dir d).listed dir,
      (s.recordDisk dir d).isFile p = true → ∀ content,
        d.node? (d.place p) ≠ some (.file content)) ∧
    ((s.generate dir d).failure = none → Undone dir d w.disk) ∧
    ((∀ p ∈ (s.generate dir d).paths dir, d.place p ≠ d.place (ledgerPath dir)) →
      Undone dir d w.disk) := by
  have hundone := undone_iff h hdir hclean
  have hown : s.newLedger dir d = ⟨dir, (s.generate dir d).paths dir⟩ → Undone dir d w.disk := by
    intro hledger
    refine hundone.mpr fun p hp _ => ?_
    rw [newLedger_listed, hledger] at hp
    obtain ⟨f, hf, rfl⟩ := List.mem_map.mp hp
    obtain ⟨-, -, -, hsame, -⟩ := listed_of_mem_paths hdir hf
    rw [hsame]
    exact h.not_file hdir hf
  exact ⟨hundone, fun hok => hown (newLedger_of_ok hok),
    fun hspared => hown (newLedger_of_own h hdir hspared)⟩

end Fresh

set_option maxRecDepth 100000 in
/-- The bundled profile in a directory that is empty. -/
theorem clean_undoes_iff_profile : ∃ summary w,
    Path.isAbsolute ⟨"/d"⟩ = true ∧ profile.Fresh ⟨"/d"⟩ oneDirectory ∧
      (clean ⟨"/d"⟩).perform { disk := profile.recordDisk ⟨"/d"⟩ oneDirectory } =
        (.ok summary, w) ∧
      Undone ⟨"/d"⟩ oneDirectory w.disk := by
  have hdir : Path.isAbsolute ⟨"/d"⟩ = true := by decide
  have hfresh : profile.Fresh ⟨"/d"⟩ oneDirectory :=
    ⟨by decide, by decide, by decide +kernel, by decide +kernel⟩
  obtain ⟨summary, w, hclean⟩ :=
    (clean_goes_well_iff hdir).mp (clean_recordDisk_of_ok hdir profile_generates profile_records)
  exact ⟨summary, w, hdir, hfresh, hclean, (clean_undoes_iff hdir hfresh hclean).2.1 profile_generates⟩

/-! ## What fails -/

/-- A description whose table of mounts is called like the ledger and reads like one, with a script
that is not allowed. -/
def forgedLedger : Spec :=
  let mount := "\x7b\"gen_dir\":\"\",\"generated_files\":[\"/d/config.json\"]\x7d"
  { profile with
    bootImage := { profile.bootImage with
      ramdisk := {
        fstab := { name := ledgerName, mounts := [{ source := mount }] }
        initScripts := [{ name := "/init.rc" }] } } }

set_option maxRecDepth 100000 in
/-- The run takes the table for a ledger and lists what that lists. -/
theorem forgedLedger_facts :
    forgedLedger.Records ⟨"/d"⟩ describedDirectory ∧
      (forgedLedger.newLedger ⟨"/d"⟩ describedDirectory).files ≠ [] ∧
      (∀ p ∈ (forgedLedger.newLedger ⟨"/d"⟩ describedDirectory).listed ⟨"/d"⟩,
        (forgedLedger.recordDisk ⟨"/d"⟩ describedDirectory).isFile p = true) ∧
      configPath ⟨"/d"⟩ ∈ (forgedLedger.newLedger ⟨"/d"⟩ describedDirectory).listed ⟨"/d"⟩ := by
  decide +kernel

set_option maxRecDepth 100000 in
/-- A failed run with a ledger in its description makes cleaning remove a file that was there
before. -/
theorem forged_ledger_harms :
    forgedLedger.Fresh ⟨"/d"⟩ describedDirectory ∧
      ∃ summary w, (clean ⟨"/d"⟩).perform
          { disk := forgedLedger.recordDisk ⟨"/d"⟩ describedDirectory } = (.ok summary, w) ∧
        ¬ Undone ⟨"/d"⟩ describedDirectory w.disk := by
  have hdir : Path.isAbsolute ⟨"/d"⟩ = true := by decide
  have hfresh : forgedLedger.Fresh ⟨"/d"⟩ describedDirectory :=
    ⟨by decide, by decide, by decide +kernel, by decide +kernel⟩
  obtain ⟨hrecord, hne, hthere, hlisted⟩ := forgedLedger_facts
  obtain ⟨-, hrecords, -⟩ := recordDisk_spec (s := forgedLedger) hdir describedDirectory
  obtain ⟨summary, w, hclean⟩ := (clean_goes_well_iff hdir).mp
    (Ledger.clean_ok_of_removable hdir (hrecords hrecord) hne fun p hp => .inl (hthere p hp))
  refine ⟨hfresh, summary, w, hclean, fun hundone => ?_⟩
  have hnode := Disk.node?_of_find (Disk.find_of_read read_describedDirectory)
  exact (undone_iff hfresh hdir hclean).mp hundone _ hlisted (hthere _ hlisted) _ hnode

end DeviceSpec
