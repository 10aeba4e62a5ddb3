import DeviceSpec.Proofs.Command.Perform
import DeviceSpec.Proofs.Generate.Written
import DeviceSpec.Proofs.Ledger.Rebase
import DeviceSpec.Proofs.Ledger.Clean

/-!
# Generating and recording

After generating, one ledger is stored: that of the run, with what was listed before if the run
failed.

* **listing** — what the ledger of a run lists (`newLedger_lists`);
* **disk** — what is written, and what ledger can be fetched afterwards (`recordDisk_spec`);
* **commands** — the two commands that touch the ledger act on the disk as these functions do
  (`generateAndRecord_stores`, `perform_clean`).
-/

namespace DeviceSpec

/-! ## Recording a run -/

/-- The ledger that is stored after a run. -/
def Spec.newLedger (s : Spec) (dir : Path) (d : Disk) : Ledger :=
  match (s.generate dir d).failure with
  | none => ⟨dir, (s.generate dir d).paths dir⟩
  | some _ => Ledger.afterFailure dir ((s.generate dir d).paths dir) (s.generate dir d).disk

theorem newLedger_of_ok {s : Spec} {dir : Path} {d : Disk} (h : (s.generate dir d).failure = none) :
    s.newLedger dir d = ⟨dir, (s.generate dir d).paths dir⟩ := by
  unfold Spec.newLedger
  rw [h]

/-- A run that fails merges what the ledger lists that can be fetched then. -/
theorem newLedger_of_loaded {s : Spec} {dir : Path} {d : Disk} {l : Ledger}
    (hfailure : (s.generate dir d).failure ≠ none)
    (hload : Ledger.load dir (s.generate dir d).disk = .ok l) :
    s.newLedger dir d = ⟨dir, addUnlisted ((s.generate dir d).paths dir) l.files⟩ := by
  unfold Spec.newLedger
  split
  · rename_i hok
    exact absurd hok hfailure
  · rw [Ledger.afterFailure, hload]

/-- Where no ledger can be fetched after a run, only its own files are listed. -/
theorem newLedger_of_not_loaded {s : Spec} {dir : Path} {d : Disk}
    (h : ∀ l, Ledger.load dir (s.generate dir d).disk ≠ .ok l) :
    s.newLedger dir d = ⟨dir, (s.generate dir d).paths dir⟩ := by
  unfold Spec.newLedger
  split
  · rfl
  · unfold Ledger.afterFailure
    split
    · rename_i l hload
      exact absurd hload (h l)
    · rfl

theorem newLedger_cases (s : Spec) (dir : Path) (d : Disk) :
    s.newLedger dir d = ⟨dir, (s.generate dir d).paths dir⟩ ∨
      ∃ l, (s.generate dir d).failure ≠ none ∧
        Ledger.load dir (s.generate dir d).disk = .ok l ∧
        s.newLedger dir d = ⟨dir, addUnlisted ((s.generate dir d).paths dir) l.files⟩ := by
  by_cases hfailure : (s.generate dir d).failure = none
  · exact .inl (newLedger_of_ok hfailure)
  · cases hload : Ledger.load dir (s.generate dir d).disk with
    | error e => exact .inl (newLedger_of_not_loaded (by simp [hload]))
    | ok l => exact .inr ⟨l, hfailure, rfl, newLedger_of_loaded hfailure hload⟩

theorem newLedger_dir (s : Spec) (dir : Path) (d : Disk) : (s.newLedger dir d).dir = dir := by
  rcases newLedger_cases s dir d with h | ⟨l, -, -, h⟩ <;> rw [h]

/-- The ledger of the run is stored. -/
def Spec.Records (s : Spec) (dir : Path) (d : Disk) : Prop :=
  ∃ l, ((s.newLedger dir d).store (s.generate dir d).disk).1 = .ok l

instance (s : Spec) (dir : Path) (d : Disk) : Decidable (s.Records dir d) :=
  match h : ((s.newLedger dir d).store (s.generate dir d).disk).1 with
  | .ok l => isTrue ⟨l, h⟩
  | .error _ => isFalse fun ⟨_, hl⟩ => by rw [h] at hl; cases hl

theorem Path.same_refl (p : Path) : p.same p = true := by simp [Path.same]

theorem Path.same_comm (p q : Path) : p.same q = q.same p := by simp [Path.same, eq_comm]

theorem Path.same_trans {p q r : Path} (h : p.same q = true) (h' : q.same r = true) :
    p.same r = true := by
  simp only [Path.same, decide_eq_true_iff] at h h' ⊢
  rw [h, h']

theorem mem_addUnlisted_left {as bs : List Path} {p : Path} (h : p ∈ as) :
    p ∈ addUnlisted as bs := by
  induction bs generalizing as with
  | nil => exact h
  | cons b bs ih =>
    rw [addUnlisted]
    split
    · exact ih h
    · exact ih (List.mem_append_left _ h)

theorem mem_of_mem_addUnlisted {as bs : List Path} {p : Path} (h : p ∈ addUnlisted as bs) :
    p ∈ as ∨ p ∈ bs := by
  induction bs generalizing as with
  | nil => exact .inl h
  | cons b bs ih =>
    rw [addUnlisted] at h
    split at h
    · rcases ih h with has | hbs
      · exact .inl has
      · exact .inr (List.mem_cons_of_mem b hbs)
    · rcases ih h with has | hbs
      · rcases List.mem_append.mp has with has | hb
        · exact .inl has
        · exact .inr (List.mem_singleton.mp hb ▸ List.mem_cons_self)
      · exact .inr (List.mem_cons_of_mem b hbs)

/-- Files are added without their duplicates, so what is listed is what either list lists. -/
theorem lists_addUnlisted (as : List Path) {bs : List Path} {p : Path} :
    (∃ f ∈ addUnlisted as bs, f.same p = true) ↔
      (∃ f ∈ as, f.same p = true) ∨ ∃ f ∈ bs, f.same p = true := by
  induction bs generalizing as with
  | nil => simp [addUnlisted]
  | cons b bs ih =>
    have hcons : (∃ f ∈ b :: bs, f.same p = true) ↔
        b.same p = true ∨ ∃ f ∈ bs, f.same p = true := by simp
    rw [addUnlisted, hcons]
    split
    · rename_i hany
      rw [ih]
      constructor
      · rintro (has | hbs)
        · exact .inl has
        · exact .inr (.inr hbs)
      · rintro (has | hb | hbs)
        · exact .inl has
        · obtain ⟨f, hf, hbf⟩ := List.any_eq_true.mp hany
          rw [Path.same_comm] at hbf
          exact .inl ⟨f, hf, Path.same_trans hbf hb⟩
        · exact .inr hbs
    · have happend : (∃ f ∈ as ++ [b], f.same p = true) ↔
          (∃ f ∈ as, f.same p = true) ∨ b.same p = true := by
        constructor
        · rintro ⟨f, hf, hp⟩
          rcases List.mem_append.mp hf with hf | hf
          · exact .inl ⟨f, hf, hp⟩
          · exact .inr (List.mem_singleton.mp hf ▸ hp)
        · rintro (⟨f, hf, hp⟩ | hp)
          · exact ⟨f, List.mem_append_left _ hf, hp⟩
          · exact ⟨b, List.mem_append_right _ List.mem_cons_self, hp⟩
      rw [ih, happend, or_assoc]

/-- The new ledger lists what the run wrote, and after a failure also what was listed before. -/
theorem newLedger_lists {s : Spec} {dir : Path} {d : Disk} {p : Path} :
    (∃ f ∈ (s.newLedger dir d).files, f.same p = true) ↔
      (∃ f ∈ (s.generate dir d).paths dir, f.same p = true) ∨
        (s.generate dir d).failure ≠ none ∧
          ∃ l, Ledger.load dir (s.generate dir d).disk = .ok l ∧
            ∃ f ∈ l.files, f.same p = true := by
  by_cases hfailure : (s.generate dir d).failure = none
  · simp [newLedger_of_ok hfailure, hfailure]
  · cases hload : Ledger.load dir (s.generate dir d).disk with
    | error e =>
      rw [newLedger_of_not_loaded (by simp [hload])]
      simp
    | ok l => simp [newLedger_of_loaded hfailure hload, lists_addUnlisted, hfailure]

/-- A run that fails and leaves the ledger alone merges what that lists. -/
theorem newLedger_merges {s : Spec} {dir : Path} {d : Disk}
    (hfailure : (s.generate dir d).failure ≠ none)
    (hown : ∀ p ∈ (s.generate dir d).paths dir, d.place p ≠ d.place (ledgerPath dir)) {l : Ledger}
    (hl : Ledger.load dir d = .ok l) :
    s.newLedger dir d = ⟨dir, addUnlisted ((s.generate dir d).paths dir) l.files⟩ := by
  obtain ⟨hran, -⟩ := generate_ran s dir d
  have hspares : d.SparesLedger dir (s.generate dir d).disk := by
    refine ⟨_, hran.wroteAll, fun w hw => hown w.1 ?_⟩
    exact hran.mem_paths.mpr ⟨w.2, hw⟩
  exact newLedger_of_loaded hfailure (load_of_sparesLedger hspares hl)

/-- What generating and recording answers: the ledger that is stored, or why the run stopped half
way. -/
def Spec.recordResult (s : Spec) (dir : Path) (d : Disk) : Except CommandError Ledger :=
  match (s.generate dir d).failure with
  | none => ((s.newLedger dir d).store (s.generate dir d).disk).1.mapError .ledger
  | some e => .error (.generate dir e)

/-- Generating and recording stores one ledger after the run, whatever has been printed before. -/
theorem generateAndRecord_stores (s : Spec) (dir : Path) (w : World) :
    ((generateAndRecord s dir).perform w).1 = s.recordResult dir w.disk ∧
      ((generateAndRecord s dir).perform w).2.disk =
        ((s.newLedger dir w.disk).store (s.generate dir w.disk).disk).2 := by
  unfold generateAndRecord Spec.recordResult Spec.newLedger
  rw [Action.perform_bind, Action.perform_getDisk]
  simp only [Action.perform_bind, Action.perform_setDisk]
  generalize s.generate dir w.disk = g
  obtain ⟨u, w', hlines, hdisk⟩ :=
    Action.quiet_forM Action.quiet_say g.lines { w with disk := g.disk }
  rw [hlines]
  simp only
  cases hfailure : g.failure with
  | none =>
    rw [Action.perform_change, hdisk]
    exact ⟨rfl, rfl⟩
  | some err =>
    simp only [Action.perform_bind, Action.perform_setDisk]
    -- the run has failed, so the command fails whatever becomes of the ledger
    generalize Ledger.afterFailure dir (g.paths dir) g.disk = l
    cases hstore : l.store g.disk with
    | mk result d => cases result <;> exact ⟨rfl, rfl⟩

/-- It succeeds when the run and the storing do. -/
theorem perform_generateAndRecord (s : Spec) (dir : Path) (w : World) :
    ((generateAndRecord s dir).perform w).2.disk =
        ((s.newLedger dir w.disk).store (s.generate dir w.disk).disk).2 ∧
      ((∃ l, ((generateAndRecord s dir).perform w).1 = .ok l) ↔
        (s.generate dir w.disk).failure = none ∧ s.Records dir w.disk) := by
  obtain ⟨hresult, hdisk⟩ := generateAndRecord_stores s dir w
  refine ⟨hdisk, ?_⟩
  rw [hresult]
  unfold Spec.recordResult Spec.Records
  cases hfailure : (s.generate dir w.disk).failure with
  | none => cases ((s.newLedger dir w.disk).store (s.generate dir w.disk).disk).1 <;> simp
  | some err => simp

/-- What it answers is what has been stored after a run that did not fail. -/
theorem generateAndRecord_ok {s : Spec} {dir : Path} {w w' : World} {l : Ledger}
    (h : (generateAndRecord s dir).perform w = (.ok l, w')) :
    (s.generate dir w.disk).failure = none ∧
      Ledger.store ⟨dir, (s.generate dir w.disk).paths dir⟩ (s.generate dir w.disk).disk =
        (.ok l, w'.disk) := by
  obtain ⟨hresult, hdisk⟩ := generateAndRecord_stores s dir w
  rw [h] at hresult hdisk
  unfold Spec.recordResult at hresult
  cases hfailure : (s.generate dir w.disk).failure with
  | some err => simp [hfailure] at hresult
  | none =>
    simp only [hfailure, newLedger_of_ok hfailure] at hresult hdisk
    refine ⟨rfl, ?_⟩
    generalize Ledger.store ⟨dir, (s.generate dir w.disk).paths dir⟩ _ = stored at hresult hdisk ⊢
    obtain ⟨result, d⟩ := stored
    cases result with
    | error err => cases hresult
    | ok l' =>
      cases hresult
      rw [hdisk]

/-- The disk after generating and recording. -/
def Spec.recordDisk (s : Spec) (dir : Path) (d : Disk) : Disk :=
  ((generateAndRecord s dir).perform { disk := d }).2.disk

theorem recordDisk_eq (s : Spec) (dir : Path) (d : Disk) :
    s.recordDisk dir d = ((s.newLedger dir d).store (s.generate dir d).disk).2 :=
  (perform_generateAndRecord s dir { disk := d }).1

/-- All that is written while generating and recording, in order. -/
def Spec.recordWrites (s : Spec) (dir : Path) (d : Disk) : List (Path × ByteArray) :=
  writes s dir (s.doneItems dir d) ++
    if s.Records dir d then [(ledgerPath dir, (s.newLedger dir d).encode.toUTF8)] else []

/-- Generating and recording writes the items and then the ledger, which can be fetched again; if
the ledger cannot be stored, none can be fetched. -/
theorem recordDisk_spec {s : Spec} {dir : Path} (hdir : dir.isAbsolute = true) (d : Disk) :
    d.WroteAll (s.recordDisk dir d) (s.recordWrites dir d) ∧
      (s.Records dir d → Ledger.load dir (s.recordDisk dir d) = .ok (s.newLedger dir d)) ∧
      (¬ s.Records dir d → (s.recordDisk dir d).isFile (ledgerPath dir) = false) := by
  obtain ⟨hran, -⟩ := generate_ran s dir d
  have hdir' : (s.newLedger dir d).dir.isAbsolute = true := by rw [newLedger_dir, hdir]
  unfold Spec.recordWrites
  cases hstore : (s.newLedger dir d).store (s.generate dir d).disk with
  | mk result e =>
    have hdisk : s.recordDisk dir d = e := by rw [recordDisk_eq, hstore]
    rw [hdisk]
    cases result with
    | ok l =>
      have hrecords : s.Records dir d := ⟨l, by rw [hstore]⟩
      obtain ⟨-, hwrote⟩ := Ledger.store_ok hdir' hstore
      have hload := Ledger.load_of_store hdir' hstore
      rw [newLedger_dir] at hwrote hload
      rw [if_pos hrecords]
      exact ⟨hran.wroteAll.append hwrote, fun _ => hload, fun h => absurd hrecords h⟩
    | error err =>
      have hrecords : ¬ s.Records dir d := by
        rintro ⟨l, hl⟩
        rw [hstore] at hl
        cases hl
      obtain ⟨hfile, hmore⟩ := Ledger.store_error hdir' hstore
      rw [newLedger_dir] at hfile
      rw [if_neg hrecords]
      exact ⟨hran.wroteAll.append hmore.wroteAll, fun h => absurd h hrecords, fun _ => hfile⟩

/-- What is written while generating and recording is a file of the run or the ledger. -/
theorem fst_of_mem_recordWrites {s : Spec} {dir : Path} {d : Disk} {w : Path × ByteArray}
    (hw : w ∈ s.recordWrites dir d) :
    w.1 ∈ (s.generate dir d).paths dir ∨ w.1 = ledgerPath dir := by
  obtain ⟨hran, -⟩ := generate_ran s dir d
  unfold Spec.recordWrites at hw
  rcases List.mem_append.mp hw with hw | hw
  · exact .inl (hran.mem_paths.mpr ⟨w.2, hw⟩)
  · split at hw
    · rw [List.mem_singleton.mp hw]
      exact .inr rfl
    · cases hw

/-- Where there is a ledger, a run can store its own. -/
theorem records_of_isFile {s : Spec} {dir : Path} (hdir : dir.isAbsolute = true) {d : Disk}
    (h : d.isFile (ledgerPath dir) = true) : s.Records dir d := by
  obtain ⟨hran, -⟩ := generate_ran s dir d
  have hfile := hran.wroteAll.isFile_of_isFile h
  obtain ⟨content, hnode⟩ := Disk.node?_of_isFile hfile
  obtain ⟨l', e, hstore⟩ := Ledger.store_of_isFile hdir hfile (Disk.KeepsDirs.refl _)
    (by simp [hnode]) (s.newLedger dir d).files
  have heta : ∀ l : Ledger, l.dir = dir → l = ⟨dir, l.files⟩ := by
    rintro ⟨_, _⟩ rfl
    rfl
  refine ⟨l', ?_⟩
  rw [heta _ (newLedger_dir s dir d), hstore]

/-- Generating and recording in a directory that is there changes nothing outside. -/
theorem recordDisk_outside {s : Spec} {dir : Path} (hdir : dir.isAbsolute = true) {d : Disk}
    (hthere : d.isDir dir = true) {l : Location} (hl : ¬ d.place dir <+: l) :
    (s.recordDisk dir d).node? l = d.node? l := by
  obtain ⟨hran, -⟩ := generate_ran s dir d
  have hkeeps := hran.wroteAll.keepsDirs
  have hdir' : (s.newLedger dir d).dir = dir := newLedger_dir s dir d
  have hgenerated : (s.generate dir d).disk.node? l = d.node? l := writeItems_outside hdir hthere hl
  rw [recordDisk_eq, Ledger.store_outside, hgenerated]
  · rw [hdir', hdir]
  · rw [hdir']
    exact Disk.isDir_mono hkeeps hthere
  · rwa [hdir', hkeeps.place_eq]

/-! ## Listing a run -/

section Listing

variable {s : Spec} {dir : Path} {d : Disk}

theorem newLedger_listed : (s.newLedger dir d).listed dir =
    (s.newLedger dir d).files.map (rebase dir dir) := by
  rw [Ledger.listed, newLedger_dir]

theorem paths_subset_newLedger {p : Path} (hp : p ∈ (s.generate dir d).paths dir) :
    p ∈ (s.newLedger dir d).files := by
  rcases newLedger_cases s dir d with h | ⟨l, -, -, h⟩ <;> rw [h]
  · exact hp
  · exact mem_addUnlisted_left hp

/-- A file that the run wrote is listed, and is there when the run is over. -/
theorem listed_of_mem_paths (hdir : dir.isAbsolute = true) {p : Path}
    (hp : p ∈ (s.generate dir d).paths dir) :
    (s.recordDisk dir d).isFile p = true ∧ rebase dir dir p ∈ (s.newLedger dir d).listed dir ∧
      (s.recordDisk dir d).isFile (rebase dir dir p) = true ∧
      d.place (rebase dir dir p) = d.place p ∧ d.place dir <+: d.place p := by
  obtain ⟨hran, -⟩ := generate_ran s dir d
  obtain ⟨⟨name, hname, rfl⟩, -⟩ := hran.of_mem_paths hp
  obtain ⟨hrel, hup⟩ := inside_of_isInsideName hname
  obtain ⟨hwrote, -, -⟩ := recordDisk_spec (s := s) hdir d
  obtain ⟨content, hw⟩ := hran.mem_paths.mp hp
  have hfile : (s.recordDisk dir d).isFile (dir.join name) = true := by
    refine hwrote.isFile _ content ?_
    unfold Spec.recordWrites
    exact List.mem_append_left _ hw
  obtain ⟨content', hfind⟩ := Disk.find_of_isFile hfile
  have hfind' := find_rebase_join hdir hrel hfind
  have hplace := Disk.place_of_find hfind'
  rw [hwrote.keepsDirs.place_eq, hwrote.keepsDirs.place_eq] at hplace
  refine ⟨hfile, ?_, Disk.isFile_of_find hfind', hplace.symm, ?_⟩
  · rw [newLedger_listed]
    exact List.mem_map_of_mem (paths_subset_newLedger hp)
  · rw [Disk.place_join hrel hup]
    exact List.prefix_append _ _

/-- After a run that did not fail everything that is listed is there. -/
theorem removable_of_ok (hdir : dir.isAbsolute = true) (h : (s.generate dir d).failure = none) :
    ∀ q ∈ (s.newLedger dir d).listed dir, (s.recordDisk dir d).Removable q := by
  intro q hq
  rw [newLedger_listed, newLedger_of_ok h] at hq
  obtain ⟨f, hf, rfl⟩ := List.mem_map.mp hq
  obtain ⟨-, -, hfile, -⟩ := listed_of_mem_paths hdir hf
  exact .inl hfile

/-- Some files are planned for every description. -/
theorem newLedger_files_ne_nil (h : (s.generate dir d).failure = none) :
    (s.newLedger dir d).files ≠ [] := by
  obtain ⟨hran, hall⟩ := generate_ran s dir d
  rw [hall h] at hran
  have hitem : Item.artifact .lunchScript ∈ s.items := by simp [Spec.items, Spec.plan]
  rw [newLedger_of_ok h]
  exact List.ne_nil_of_mem (hran.mem_paths_iff_item.mpr ⟨_, hitem, rfl⟩)

/-- After a run that did not fail and was recorded, cleaning goes well. -/
theorem clean_recordDisk_of_ok (hdir : dir.isAbsolute = true)
    (h : (s.generate dir d).failure = none) (hrecord : s.Records dir d) :
    ∃ summary f, Ledger.clean dir (s.recordDisk dir d) = (.ok summary, f) := by
  obtain ⟨-, hrecords, -⟩ := recordDisk_spec (s := s) hdir d
  exact Ledger.clean_ok_of_removable hdir (hrecords hrecord) (newLedger_files_ne_nil h)
    (removable_of_ok hdir h)

end Listing

/-! ## Cleaning -/

/-- Cleaning does to the disk what `Ledger.clean` does, and reports the same. -/
theorem perform_clean {dir : Path} (hdir : dir.isAbsolute = true) (w : World) :
    ((clean dir).perform w).2.disk = (Ledger.clean dir w.disk).2 ∧
      ((clean dir).perform w).1 = (Ledger.clean dir w.disk).1.mapError .ledger := by
  have habs := absolutePath_of_isAbsolute hdir w.disk
  have hreport : ∀ summary : CleanSummary, (do
      summary.removed.forM fun p => say ("Removing " ++ p.text ++ "...")
      summary.missing.forM fun p => warn ("  [WARN] " ++ p.text ++ " was already gone")
      summary.keptDirs.forM fun p => warn ("  [WARN] " ++ p.text ++ " is a directory, kept")
      say ("[avs c] OK: " ++ toString summary.removed.length ++ " files removed")
      return summary : Action CleanSummary).Yields summary := by
    intro summary
    refine (Action.quiet_forM (fun p => Action.quiet_say _) _).bind_yields fun _ => ?_
    refine (Action.quiet_forM (fun p => Action.quiet_warn _) _).bind_yields fun _ => ?_
    refine (Action.quiet_forM (fun p => Action.quiet_warn _) _).bind_yields fun _ => ?_
    exact (Action.quiet_say _).bind_yields fun _ => Action.yields_pure summary
  unfold clean absolute
  rw [Action.perform_bind, Action.perform_look, habs]
  simp only [Action.mapError_ok]
  rw [Action.perform_bind, Action.perform_change]
  cases hclean : Ledger.clean dir w.disk with
  | mk result d =>
    cases result with
    | error err => exact ⟨rfl, rfl⟩
    | ok summary =>
      obtain ⟨w', hperform, hdisk⟩ := hreport summary { w with disk := d }
      simp only [Action.mapError_ok, hperform, hdisk, and_self]

theorem clean_of_perform {dir : Path} (hdir : dir.isAbsolute = true) {w w' : World}
    {summary : CleanSummary} (h : (clean dir).perform w = (.ok summary, w')) :
    Ledger.clean dir w.disk = (.ok summary, w'.disk) := by
  obtain ⟨hdisk, hresult⟩ := perform_clean hdir w
  rw [h] at hdisk hresult
  cases hclean : Ledger.clean dir w.disk with
  | mk result e =>
    rw [hclean] at hdisk hresult
    cases result with
    | error err => cases hresult
    | ok summary' =>
      cases hresult
      exact congrArg _ hdisk.symm

theorem perform_clean_ok {dir : Path} (hdir : dir.isAbsolute = true) {d e : Disk}
    {summary : CleanSummary} : Ledger.clean dir d = (.ok summary, e) ↔
      ∃ w, (clean dir).perform { disk := d } = (.ok summary, w) ∧ w.disk = e := by
  constructor
  · intro hclean
    obtain ⟨hdisk, hresult⟩ := perform_clean hdir { disk := d }
    simp only at hdisk hresult
    rw [hclean] at hdisk hresult
    exact ⟨_, Prod.ext hresult rfl, hdisk⟩
  · rintro ⟨w, hperform, rfl⟩
    have hclean := clean_of_perform hdir hperform
    exact hclean

theorem clean_goes_well_iff {dir : Path} {d : Disk} (hdir : dir.isAbsolute = true) :
    (∃ summary f, Ledger.clean dir d = (.ok summary, f)) ↔
      ∃ summary w, (clean dir).perform { disk := d } = (.ok summary, w) := by
  constructor
  · rintro ⟨summary, f, hclean⟩
    obtain ⟨w, hperform, -⟩ := (perform_clean_ok hdir).mp hclean
    exact ⟨summary, w, hperform⟩
  · rintro ⟨summary, w, hperform⟩
    exact ⟨summary, w.disk, (perform_clean_ok hdir).mpr ⟨w, hperform, rfl⟩⟩

/-- Where cleaning goes well, the ledger of the run is there. -/
theorem load_of_perform_clean {s : Spec} {dir : Path} {d : Disk}
    (hdir : dir.isAbsolute = true) {summary : CleanSummary} {w : World}
    (hclean : (clean dir).perform { disk := s.recordDisk dir d } = (.ok summary, w)) :
    Ledger.clean dir (s.recordDisk dir d) = (.ok summary, w.disk) ∧
      Ledger.load dir (s.recordDisk dir d) = .ok (s.newLedger dir d) := by
  have hrun := (perform_clean_ok hdir).mpr ⟨w, hclean, rfl⟩
  refine ⟨hrun, ?_⟩
  obtain ⟨-, hrecords, hunrecorded⟩ := recordDisk_spec (s := s) hdir d
  obtain ⟨l, -, hl, -⟩ := Ledger.clean_ok hdir hrun
  by_cases hrecord : s.Records dir d
  · exact hrecords hrecord
  · have hfile := Ledger.isFile_of_load hl
    rw [hunrecorded hrecord] at hfile
    cases hfile

/-! ## Something to run on -/

set_option maxRecDepth 100000 in
/-- The bundled profile is also recorded in a directory that is empty. -/
theorem profile_records : profile.Records ⟨"/d"⟩ oneDirectory := by
  decide +kernel

end DeviceSpec
