import DeviceSpec.Proofs.Command.Record

/-!
# What becomes of the inputs

The description, its overlays and the scripts that are copied lie in the device directory, where
names for generated files come from the description too.

* **a file** — generating, recording and cleaning leave it alone exactly when nothing else is
  written there and no listed path that cleaning gets to leads there (`kept_iff_spares`);
* **the inputs** — all of them are kept exactly when each is left alone; after a run that goes well
  that is when no item and not the ledger shares the place of an input (`inputs_kept_iff`).
-/

namespace DeviceSpec

/-- The scripts of the device directory that are copied and not written. -/
def Spec.copiedScripts (s : Spec) : List String :=
  (s.bootImage.ramdisk.ueventScript.file :: s.initScripts.map InitScript.file).filter
    (fun file => !file.isEmpty)

/-- The files that are read: the description, its overlays and the scripts that are copied. -/
def Spec.inputPaths (s : Spec) (dir : Path) (d : Disk) : List Path :=
  configPath dir :: findOverlays dir d ++
    s.copiedScripts.map fun file => dir.join (dropSlashes file)

/-- The disk after cleaning a number of times. -/
def cleans (dir : Path) : Nat → Disk → Disk
  | 0, d => d
  | n + 1, d => cleans dir n ((clean dir).perform { disk := d }).2.disk

/-- Generating, recording and cleaning leave the file of a path alone: what is written there last
is what it held; no listed path that cleaning gets to leads there; and it is not the ledger, unless
that cannot be cleaned. -/
structure Spec.Spares (s : Spec) (dir : Path) (d : Disk) (p : Path) (content : ByteArray) :
    Prop where
  written : ∀ c, d.lastAt (d.place p) (s.recordWrites dir d) = some c → c = content
  unlisted : s.Records dir d → ∀ q, Reaches ((s.newLedger dir d).listed dir) {}
    (s.recordDisk dir d) q → (s.recordDisk dir d).isFile q = true → d.place q ≠ d.place p
  other : (∃ summary w, (clean dir).perform { disk := s.recordDisk dir d } = (.ok summary, w)) →
    d.place p ≠ d.place (ledgerPath dir)

section

variable {s : Spec} {dir : Path} {d : Disk}

/-- Cleaning often is cleaning once. -/
theorem cleans_succ (hdir : dir.isAbsolute = true) (n : Nat) (d : Disk) :
    cleans dir (n + 1) d = (Ledger.clean dir d).2 := by
  have hclean : ∀ d, ((clean dir).perform { disk := d }).2.disk = (Ledger.clean dir d).2 :=
    fun d => (perform_clean hdir { disk := d }).1
  induction n generalizing d with
  | zero =>
    rw [cleans, hclean]
    rfl
  | succ n ih => rw [cleans, hclean, ih, Ledger.clean_clean hdir]

/-- A file that can be followed to is read from its place. -/
theorem read_iff_of_keepsDirs {e : Disk} (h : d.KeepsDirs e) {p : Path}
    {content content' : ByteArray} (hread : d.read p = .ok content) :
    e.read p = .ok content' ↔ e.node? (d.place p) = some (.file content') := by
  constructor
  · intro hread'
    rw [← h.place_eq]
    exact Disk.node?_of_find (Disk.find_of_read hread')
  · intro hnode
    exact Disk.read_of_find (Disk.find_file_mono h (Disk.find_of_read hread) hnode)

/-- Generating and recording keep a file exactly when what is written there last is what it held. -/
theorem read_recordDisk_iff (hdir : dir.isAbsolute = true) {p : Path} {content : ByteArray}
    (hread : d.read p = .ok content) : (s.recordDisk dir d).read p = .ok content ↔
      ∀ c, d.lastAt (d.place p) (s.recordWrites dir d) = some c → c = content := by
  obtain ⟨hwrote, -, -⟩ := recordDisk_spec (s := s) hdir d
  have hnode := Disk.node?_of_find (Disk.find_of_read hread)
  rw [read_iff_of_keepsDirs hwrote.keepsDirs hread, hwrote.node?_file]
  cases hlast : d.lastAt (d.place p) (s.recordWrites dir d) with
  | none => simp [hnode]
  | some c => simp

/-- Cleaning after that keeps it exactly when no listed path that it gets to leads there, and it
stores no ledger there. -/
theorem read_clean_recordDisk_iff (hdir : dir.isAbsolute = true) {p : Path} {content : ByteArray}
    (hread : (s.recordDisk dir d).read p = .ok content) :
    (Ledger.clean dir (s.recordDisk dir d)).2.read p = .ok content ↔
      (s.Records dir d → ∀ q, Reaches ((s.newLedger dir d).listed dir) {} (s.recordDisk dir d) q →
        (s.recordDisk dir d).isFile q = true → d.place q ≠ d.place p) ∧
      ((∃ summary w, (clean dir).perform { disk := s.recordDisk dir d } = (.ok summary, w)) →
        d.place p ≠ d.place (ledgerPath dir)) := by
  obtain ⟨hwrote, hrecords, hunrecorded⟩ := recordDisk_spec (s := s) hdir d
  have hnode := Disk.node?_of_find (Disk.find_of_read hread)
  -- the ledger that cleaning finds is that of the run, if that could store one
  have hloads : (∀ l, Ledger.load dir (s.recordDisk dir d) = .ok l →
      ∀ q, Reaches (l.listed dir) {} (s.recordDisk dir d) q →
        (s.recordDisk dir d).isFile q = true → d.place q ≠ d.place p) ↔
      (s.Records dir d → ∀ q, Reaches ((s.newLedger dir d).listed dir) {} (s.recordDisk dir d) q →
        (s.recordDisk dir d).isFile q = true → d.place q ≠ d.place p) := by
    refine ⟨fun h hrecord => h _ (hrecords hrecord), fun h l hl => ?_⟩
    by_cases hrecord : s.Records dir d
    · rw [hrecords hrecord, Except.ok.injEq] at hl
      exact hl ▸ h hrecord
    · have hfile := Ledger.isFile_of_load hl
      rw [hunrecorded hrecord] at hfile
      cases hfile
  rw [read_iff_of_keepsDirs (Ledger.keepsDirs_clean hdir _) hread,
    Ledger.node?_of_clean hdir hnode]
  simp only [hwrote.keepsDirs.place_eq]
  rw [hloads, clean_goes_well_iff hdir]

/-- A file survives generating, recording and cleaning exactly when it is left alone. -/
theorem kept_iff_spares (hdir : dir.isAbsolute = true) {p : Path} {content : ByteArray}
    (hread : d.read p = .ok content) :
    (∀ n, (cleans dir n (s.recordDisk dir d)).read p = .ok content) ↔
      s.Spares dir d p content := by
  have hrecorded := read_recordDisk_iff (s := s) hdir hread
  constructor
  · intro h
    have hzero : (s.recordDisk dir d).read p = .ok content := h 0
    have hone := h 1
    rw [cleans_succ hdir] at hone
    obtain ⟨hunlisted, hother⟩ := (read_clean_recordDisk_iff hdir hzero).mp hone
    exact ⟨hrecorded.mp hzero, hunlisted, hother⟩
  · rintro ⟨hwritten, hunlisted, hother⟩ n
    have hzero := hrecorded.mpr hwritten
    cases n with
    | zero => exact hzero
    | succ n =>
      rw [cleans_succ hdir]
      exact (read_clean_recordDisk_iff hdir hzero).mpr ⟨hunlisted, hother⟩

/-- After a run that goes well everything that is listed is there, so cleaning gets to all of it. -/
theorem spares_iff_of_ok (hdir : dir.isAbsolute = true)
    (hok : ∃ l, ((generateAndRecord s dir).perform { disk := d }).1 = .ok l) {p : Path}
    {content : ByteArray} :
    s.Spares dir d p content ↔
      (∀ i ∈ s.items, i.place s dir d ≠ d.place p) ∧ d.place p ≠ d.place (ledgerPath dir) := by
  obtain ⟨hfailure, hrecord⟩ := (perform_generateAndRecord s dir { disk := d }).2.mp hok
  simp only at hfailure hrecord
  obtain ⟨hran, hall⟩ := generate_ran s dir d
  rw [hall hfailure] at hran
  have hremovable := removable_of_ok hdir hfailure
  have hpath : ∀ i ∈ s.items, dir.join (i.fileName s) ∈ (s.generate dir d).paths dir :=
    fun i hi => hran.mem_paths_iff_item.mpr ⟨i, hi, rfl⟩
  constructor
  · rintro ⟨-, hunlisted, hother⟩
    refine ⟨fun i hi hplace => ?_, hother ?_⟩
    · obtain ⟨-, hlisted, hfile, hsame, -⟩ := listed_of_mem_paths hdir (hpath i hi)
      exact hunlisted hrecord _ (reaches_of_removable hremovable hlisted) hfile (hsame.trans hplace)
    · exact (clean_goes_well_iff hdir).mp (clean_recordDisk_of_ok hdir hfailure hrecord)
  · rintro ⟨hitems, hledger⟩
    refine ⟨fun c hlast => ?_, fun _ q hq hfile => ?_, fun _ => hledger⟩
    · -- nothing is written there
      have hnone : d.lastAt (d.place p) (s.recordWrites dir d) = none := by
        rw [Disk.lastAt_eq_none_iff]
        intro w hw
        rcases fst_of_mem_recordWrites hw with hpath' | hstored
        · obtain ⟨i, hi, hiw⟩ := hran.mem_paths_iff_item.mp hpath'
          rw [← hiw]
          exact hitems i hi
        · rw [hstored]
          exact hledger.symm
      rw [hnone] at hlast
      cases hlast
    · have hmem := hq.mem
      rw [newLedger_listed, newLedger_of_ok hfailure] at hmem
      obtain ⟨f, hf, rfl⟩ := List.mem_map.mp hmem
      obtain ⟨-, -, -, hsame, -⟩ := listed_of_mem_paths hdir hf
      obtain ⟨i, hi, rfl⟩ := hran.mem_paths_iff_item.mp hf
      rw [hsame]
      exact hitems i hi

/-- The inputs survive generating, recording and any number of cleanings exactly when each of them
is left alone. If generating and recording goes well, that is when no item leads to an input, and
no input is the ledger. -/
theorem inputs_kept_iff (hdir : dir.isAbsolute = true) (s : Spec) (d : Disk) :
    ((∀ p ∈ s.inputPaths dir d, ∀ content, d.read p = .ok content →
        ∀ n, (cleans dir n (s.recordDisk dir d)).read p = .ok content) ↔
      ∀ p ∈ s.inputPaths dir d, ∀ content, d.read p = .ok content → s.Spares dir d p content) ∧
    ((∃ l, ((generateAndRecord s dir).perform { disk := d }).1 = .ok l) →
      ((∀ p ∈ s.inputPaths dir d, ∀ content, d.read p = .ok content →
          ∀ n, (cleans dir n (s.recordDisk dir d)).read p = .ok content) ↔
        ∀ p ∈ s.inputPaths dir d, d.isFile p = true →
          (∀ i ∈ s.items, i.place s dir d ≠ d.place p) ∧
            d.place p ≠ d.place (ledgerPath dir))) := by
  have hboth : (∀ p ∈ s.inputPaths dir d, ∀ content, d.read p = .ok content →
      ∀ n, (cleans dir n (s.recordDisk dir d)).read p = .ok content) ↔
        ∀ p ∈ s.inputPaths dir d, ∀ content, d.read p = .ok content →
          s.Spares dir d p content := by
    constructor
    · intro h p hp content hread
      exact (kept_iff_spares hdir hread).mp (h p hp content hread)
    · intro h p hp content hread
      exact (kept_iff_spares hdir hread).mpr (h p hp content hread)
  refine ⟨hboth, fun hok => hboth.trans ?_⟩
  constructor
  · intro h p hp hfile
    obtain ⟨content, hfind⟩ := Disk.find_of_isFile hfile
    exact (spares_iff_of_ok hdir hok).mp (h p hp content (Disk.read_of_find hfind))
  · intro h p hp content hread
    have hfile := Disk.isFile_of_find (Disk.find_of_read hread)
    exact (spares_iff_of_ok hdir hok).mpr (h p hp hfile)

end

/-- A disk with one directory that holds a description. -/
def describedDirectory : Disk :=
  { entries := [(["d"], .directory), (["d", "config.json"], .file "\x7b\x7d".toUTF8)] }

theorem read_describedDirectory :
    describedDirectory.read (configPath ⟨"/d"⟩) = .ok "\x7b\x7d".toUTF8 := by
  have hplace : describedDirectory.place (configPath ⟨"/d"⟩) = ["d", "config.json"] := by
    decide +kernel
  have hfile : describedDirectory.isFile (configPath ⟨"/d"⟩) = true := by decide +kernel
  obtain ⟨content, hfind⟩ := Disk.find_of_isFile hfile
  have hnode := Disk.node?_of_find hfind
  rw [hplace] at hnode
  have hcontent : content = "\x7b\x7d".toUTF8 := Node.file.inj (Option.some.inj hnode.symm)
  exact Disk.read_of_find (hcontent ▸ hfind)

set_option maxRecDepth 100000 in
/-- The inputs of the bundled profile survive. -/
theorem inputs_kept_profile :
    Path.isAbsolute ⟨"/d"⟩ = true ∧
      ∀ p ∈ profile.inputPaths ⟨"/d"⟩ describedDirectory, ∀ content,
        describedDirectory.read p = .ok content →
          ∀ n, (cleans ⟨"/d"⟩ n (profile.recordDisk ⟨"/d"⟩ describedDirectory)).read p =
            .ok content := by
  refine ⟨by decide, ((inputs_kept_iff (by decide) profile describedDirectory).2 ?_).mpr ?_⟩
  · apply (perform_generateAndRecord profile ⟨"/d"⟩ { disk := describedDirectory }).2.mpr
    exact ⟨by decide +kernel, by decide +kernel⟩
  · decide +kernel

set_option maxRecDepth 100000 in
/-- A table of mounts that is called like the description takes its place. -/
theorem description_overwritten :
    describedDirectory.read (configPath ⟨"/d"⟩) = .ok "\x7b\x7d".toUTF8 ∧
      ¬ ∀ p ∈ (profile.withFstab "config.json").inputPaths ⟨"/d"⟩ describedDirectory, ∀ content,
        describedDirectory.read p = .ok content → ∀ n, (cleans ⟨"/d"⟩ n
          ((profile.withFstab "config.json").recordDisk ⟨"/d"⟩ describedDirectory)).read p =
            .ok content := by
  refine ⟨read_describedDirectory, fun h => ?_⟩
  have hkept := (kept_iff_spares (by decide) read_describedDirectory).mp
    (h _ List.mem_cons_self _ read_describedDirectory)
  have hlonger : (describedDirectory.lastAt (describedDirectory.place (configPath ⟨"/d"⟩))
      ((profile.withFstab "config.json").recordWrites ⟨"/d"⟩ describedDirectory)).any
        (fun c => c.size != 2) = true := by decide +kernel
  cases hlast : describedDirectory.lastAt (describedDirectory.place (configPath ⟨"/d"⟩))
      ((profile.withFstab "config.json").recordWrites ⟨"/d"⟩ describedDirectory) with
  | none =>
    rw [hlast] at hlonger
    cases hlonger
  | some c =>
    rw [hlast, hkept.written c hlast] at hlonger
    exact absurd hlonger (by decide +kernel)

end DeviceSpec
