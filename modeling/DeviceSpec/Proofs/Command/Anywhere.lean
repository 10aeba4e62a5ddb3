import DeviceSpec.Proofs.Command.Record
import DeviceSpec.Proofs.Disk.Working
import DeviceSpec.Proofs.Generate.Inside
import DeviceSpec.Proofs.Ledger.Home
import Mathlib.Control.Monad.Basic

/-!
# A ledger for a directory, however that is given

A run lists what it has written under the directory as it was given to it, and stores the ledger
under the directory's full name.

* **what is recorded** — the ledger names the directory in full (`dir_of_generateAndRecord`); the
  files are names that are joined to the directory as given (`exists_name_of_listed`);
* **in another place** — for a directory given in full each listed path keeps its own steps
  (`rebase_of_listed`), else all stay as they are (`listed_of_relative`);
* **from another working directory** — cleaning does the same when what is listed starts from the
  root (`clean_workingAt`);
* **all together** — what is listed lies below the directory exactly when that was given in full
  (`listed_below_iff`).
-/

namespace DeviceSpec

section Recorded

variable {s : Spec} {dir : Path} {w w' : World} {l : Ledger}
  (hgenerated : (generateAndRecord s dir).perform w = (.ok l, w'))

include hgenerated

/-! ## What is recorded -/

/-- The ledger names its directory in full, and as given if that is the same. -/
theorem dir_of_generateAndRecord :
    l.dir.isAbsolute = true ∧ (dir.isAbsolute = true → l.dir = dir) := by
  obtain ⟨-, hstore⟩ := generateAndRecord_ok hgenerated
  obtain ⟨home, hhome, rfl, -⟩ := Ledger.store_ok_home hstore
  refine ⟨isAbsolute_home hhome, fun hdir => ?_⟩
  rw [absolutePath_of_isAbsolute hdir, Except.ok.injEq] at hhome
  exact hhome.symm

/-- What a run has listed are names in its directory, under which its files were. -/
theorem exists_name_of_listed {f : Path} (hf : f ∈ l.files) :
    ∃ name, isInsideName name = true ∧ Path.steps ⟨name⟩ ≠ [] ∧ f = dir.join name ∧
      (s.generate dir w.disk).disk.isFile f = true := by
  obtain ⟨-, hstore⟩ := generateAndRecord_ok hgenerated
  obtain ⟨home, -, rfl, -⟩ := Ledger.store_ok_home hstore
  obtain ⟨hran, -⟩ := generate_ran s dir w.disk
  obtain ⟨⟨name, hinside, rfl⟩, hfile⟩ := hran.of_mem_paths hf
  obtain ⟨hrel, -⟩ := inside_of_isInsideName hinside
  exact ⟨name, hinside, steps_ne_nil_of_isFile hrel hfile, rfl, hfile⟩

theorem files_ne_nil_of_generateAndRecord : l.files ≠ [] := by
  obtain ⟨hfailure, hstore⟩ := generateAndRecord_ok hgenerated
  obtain ⟨home, -, rfl, -⟩ := Ledger.store_ok_home hstore
  have hfiles := newLedger_files_ne_nil hfailure
  rwa [newLedger_of_ok hfailure] at hfiles

/-- The ledger is fetched under both names of the directory. -/
theorem load_of_generateAndRecord : Ledger.load l.dir w'.disk = .ok l ∧
    ((dir.isAbsolute = false → w.disk.Grounded) → Ledger.load dir w'.disk = .ok l) := by
  obtain ⟨-, hstore⟩ := generateAndRecord_ok hgenerated
  obtain ⟨home, hhome, rfl, hwrote, hload⟩ := Ledger.store_ok_home hstore
  refine ⟨hload, fun hground => ?_⟩
  obtain ⟨hran, -⟩ := generate_ran s dir w.disk
  have hkeeps := hran.wroteAll.keepsDirs.trans hwrote.keepsDirs
  obtain ⟨content, hfind⟩ := Disk.find_of_isFile (Ledger.isFile_of_load hload)
  obtain ⟨-, hfind'⟩ := (find_ledgerPath_home_iff (absolutePath_mono hwrote.keepsDirs hhome)
    fun hrel => (hground hrel).mono hkeeps).mp hfind
  exact Ledger.load_of_same_content (Disk.read_of_find hfind) (Disk.read_of_find hfind') hload

/-! ## In another place -/

/-- A path from the working directory on stays as it is. -/
theorem listed_of_relative (hdir : dir.isAbsolute = false) (new : Path) :
    l.listed new = l.files ∧ ∀ p ∈ l.files, p.isAbsolute = false := by
  obtain ⟨hhome, -⟩ := dir_of_generateAndRecord hgenerated
  have hrelative : ∀ p ∈ l.files, p.isAbsolute = false := by
    intro p hp
    obtain ⟨name, hinside, -, rfl, -⟩ := exists_name_of_listed hgenerated hp
    obtain ⟨hrel, -⟩ := inside_of_isInsideName hinside
    exact (Path.isAbsolute_join_eq hrel).trans hdir
  refine ⟨?_, hrelative⟩
  exact (List.map_congr_left fun p hp => rebase_of_relative new hhome (hrelative p hp)).trans
    (List.map_id _)

/-- A path from the root is joined to the other place by the same steps, and no longer for it. -/
theorem rebase_of_listed (hdir : dir.isAbsolute = true) {name : String}
    (hrel : Path.isAbsolute ⟨name⟩ = false) (hne : Path.steps ⟨name⟩ ≠ []) (new : Path) :
    ∃ rest, rebase l.dir new (dir.join name) = new.join rest ∧ Path.isAbsolute ⟨rest⟩ = false ∧
      Path.steps ⟨rest⟩ = Path.steps ⟨name⟩ ∧ rest.toList.Sublist name.toList := by
  obtain ⟨-, hhome⟩ := dir_of_generateAndRecord hgenerated
  obtain ⟨rest, hbelow, hrebase, hrest, hsteps, -⟩ := rebase_below new hdir
    (Path.isAbsolute_join hdir name) hne (Path.steps_join hrel)
  rw [hhome hdir]
  exact ⟨rest, hrebase, hrest, hsteps, Path.sublist_of_below?_join hdir hrel hbelow⟩

theorem isAbsolute_of_listed (hdir : dir.isAbsolute = true) {new : Path}
    (hnew : new.isAbsolute = true) : ∀ p ∈ l.listed new, p.isAbsolute = true := by
  intro p hp
  obtain ⟨f, hf, rfl⟩ := List.mem_map.mp hp
  obtain ⟨name, hinside, hne, rfl, -⟩ := exists_name_of_listed hgenerated hf
  obtain ⟨hrel, -⟩ := inside_of_isInsideName hinside
  obtain ⟨rest, hrebase, -⟩ := rebase_of_listed hgenerated hdir hrel hne new
  rw [hrebase]
  exact Path.isAbsolute_join hnew rest

end Recorded

/-! ## From another working directory -/

section Working

variable {d : Disk} (working : Location)

theorem removeListed_workingAt {files : List Path} (hfiles : ∀ p ∈ files, p.isAbsolute = true)
    (summary : CleanSummary) : removeListed files summary (d.workingAt working) =
      ((removeListed files summary d).1, (removeListed files summary d).2.workingAt working) := by
  induction files generalizing summary d with
  | nil => rfl
  | cons p rest ih =>
    have hp := hfiles p List.mem_cons_self
    have hrest := fun q hq => hfiles q (List.mem_cons_of_mem p hq)
    unfold removeListed
    rw [Disk.isDir_workingAt d working hp, Disk.removeIfThere_workingAt d working hp]
    cases d.isDir p with
    | true => exact ih hrest _
    | false =>
      simp only [Bool.false_eq_true, if_false]
      rcases d.removeIfThere p with e | ⟨_ | _, f⟩
      · rfl
      · exact ih hrest _
      · exact ih hrest _

theorem Ledger.load_workingAt {dir : Path} (hdir : dir.isAbsolute = true) :
    Ledger.load dir (d.workingAt working) = Ledger.load dir d :=
  Ledger.load_congr (Disk.read_workingAt d working (Path.isAbsolute_join hdir ledgerName))

/-- Cleaning does the same from another working directory when what is listed starts from the
root. -/
theorem Ledger.clean_workingAt {dir : Path} (hdir : dir.isAbsolute = true) {l : Ledger}
    (hload : Ledger.load dir d = .ok l) (hlisted : ∀ p ∈ l.listed dir, p.isAbsolute = true) :
    Ledger.clean dir (d.workingAt working) =
      ((Ledger.clean dir d).1, (Ledger.clean dir d).2.workingAt working) := by
  have hload' := hload
  rw [← Ledger.load_workingAt working hdir] at hload'
  by_cases hfiles : l.files = []
  · obtain ⟨recorded, files⟩ := l
    obtain rfl : files = [] := hfiles
    rw [clean_of_load_empty hload, clean_of_load_empty hload']
  · have hrun := removeListed_workingAt (d := d) working hlisted {}
    cases hresult : removeListed (l.listed dir) {} d with
    | mk result e =>
      rw [hresult] at hrun
      cases result with
      | error stop =>
        obtain ⟨p, cause⟩ := stop
        rw [clean_of_run_error hload hresult, clean_of_run_error hload' hrun]
      | ok summary =>
        have hclean := (clean_ok_iff (by simp [hdir])).mpr
          ⟨l, dir, e, ready_of_load hdir hload hfiles, hresult, rfl⟩
        have hclean' := (clean_ok_iff (by simp [hdir])).mpr
          ⟨l, dir, _, ready_of_load hdir hload' hfiles, hrun, rfl⟩
        have habs := Path.isAbsolute_join hdir ledgerName
        rw [hclean, hclean', Disk.workingAt_put, ledgerPath, Disk.place_of_isAbsolute habs,
          Disk.place_of_isAbsolute habs]

end Working

/-! ## All together -/

/-- What a run answers is fetched afterwards, and names its directory in full. What it lists lies
below that directory exactly when the run was given the directory in full. Then each listed path
stands for the same steps in whatever directory the ledger is later, and it makes no difference from
where that is cleaned. Else the listed paths start from the working directory, and cleaning follows
them from there wherever the ledger is. -/
theorem listed_below_iff {s : Spec} {dir : Path} {w w' : World} {l : Ledger}
    (hgenerated : (generateAndRecord s dir).perform w = (.ok l, w')) :
    Ledger.load l.dir w'.disk = .ok l ∧
    ((dir.isAbsolute = false → w.disk.Grounded) → Ledger.load dir w'.disk = .ok l) ∧
    l.dir.isAbsolute = true ∧ l.files ≠ [] ∧
    ((∀ p ∈ l.files, p.IsBelow l.dir) ↔ dir.isAbsolute = true) ∧
    (dir.isAbsolute = true →
      (∀ p ∈ l.files, ∃ names, names ≠ [] ∧ w.disk.place p = w.disk.place l.dir ++ names ∧
        ∀ (new : Path) (e : Disk), e.place (rebase l.dir new p) = e.place new ++ names) ∧
      ∀ (new : Path) (e : Disk) (working : Location), new.isAbsolute = true →
        Ledger.load new e = .ok l → Ledger.clean new (e.workingAt working) =
          ((Ledger.clean new e).1, (Ledger.clean new e).2.workingAt working)) ∧
    (dir.isAbsolute = false →
      ∀ new, l.listed new = l.files ∧ ∀ p ∈ l.files, p.isAbsolute = false) := by
  obtain ⟨hload, hload'⟩ := load_of_generateAndRecord hgenerated
  obtain ⟨habs, hhome⟩ := dir_of_generateAndRecord hgenerated
  have hne := files_ne_nil_of_generateAndRecord hgenerated
  refine ⟨hload, hload', habs, hne, ⟨fun hbelow => ?_, fun hdir p hp => ?_⟩,
    fun hdir => ⟨fun p hp => ?_, fun new e working hnew hloaded => ?_⟩,
    fun hdir => listed_of_relative hgenerated hdir⟩
  · -- what lies below a path from the root starts there, and so does what it was joined to
    obtain ⟨p, hp⟩ := List.exists_mem_of_ne_nil _ hne
    obtain ⟨names, -, hnames⟩ := hbelow p hp
    have hroot : Component.root ∈ p.components := by
      rw [hnames]
      exact List.mem_append_left _ (Path.root_mem_components_iff.mpr habs)
    rw [Path.root_mem_components_iff] at hroot
    rcases Bool.eq_false_or_eq_true dir.isAbsolute with hdir | hdir
    · exact hdir
    · obtain ⟨-, hrelative⟩ := listed_of_relative hgenerated hdir dir
      rw [hrelative p hp] at hroot
      cases hroot
  · obtain ⟨name, hinside, hsteps, rfl, -⟩ := exists_name_of_listed hgenerated hp
    rw [hhome hdir]
    exact isBelow_join hdir hinside hsteps
  · obtain ⟨name, hinside, hsteps, rfl, -⟩ := exists_name_of_listed hgenerated hp
    obtain ⟨hrel, hup⟩ := inside_of_isInsideName hinside
    refine ⟨Path.steps ⟨name⟩, hsteps, ?_, fun new e => ?_⟩
    · rw [hhome hdir, Disk.place_join hrel hup]
    · obtain ⟨rest, hrebase, hrest, hsame, -⟩ := rebase_of_listed hgenerated hdir hrel hsteps new
      rw [hrebase, Disk.place_join hrest (hsame ▸ hup), hsame]
  · exact Ledger.clean_workingAt working hnew hloaded
      (isAbsolute_of_listed hgenerated hdir hnew)

/-- In a directory that is given in full. -/
theorem listed_below_iff_profile : ∃ l w,
    (generateAndRecord profile ⟨"/d"⟩).perform { disk := oneDirectory } = (.ok l, w) ∧
    Ledger.load ⟨"/d"⟩ w.disk = .ok l ∧ (∀ p ∈ l.files, p.IsBelow l.dir) ∧
    ∀ working, Ledger.clean ⟨"/d"⟩ (w.disk.workingAt working) =
      ((Ledger.clean ⟨"/d"⟩ w.disk).1, (Ledger.clean ⟨"/d"⟩ w.disk).2.workingAt working) := by
  have hdir : Path.isAbsolute ⟨"/d"⟩ = true := by decide
  obtain ⟨-, hok⟩ := perform_generateAndRecord profile ⟨"/d"⟩ { disk := oneDirectory }
  obtain ⟨l, hl⟩ := hok.mpr ⟨profile_generates, profile_records⟩
  have hperform := Prod.ext (y := (_, _)) hl rfl
  obtain ⟨-, hload, -, -, hbelow, hsame, -⟩ := listed_below_iff hperform
  have hload := hload (by simp [hdir])
  exact ⟨l, _, hperform, hload, hbelow.mpr hdir,
    fun working => (hsame hdir).2 _ _ working hdir hload⟩

/-- What is recorded for a directory that is given from the working directory on. -/
def relativeListing : Ledger := ⟨⟨"/d"⟩, (profile.generate ⟨"d"⟩ oneDirectory).paths ⟨"d"⟩⟩

/-- The disk after that, from another working directory. -/
def enteredDirectory : Disk := (profile.recordDisk ⟨"d"⟩ oneDirectory).workingAt ["d"]

set_option maxRecDepth 100000 in
/-- The run goes well there and is recorded. From the other working directory all listed files are
missing, although they are on the disk. -/
theorem enteredDirectory_holds :
    (profile.generate ⟨"d"⟩ oneDirectory).failure = none ∧ profile.Records ⟨"d"⟩ oneDirectory ∧
    absolutePath ⟨"d"⟩ (profile.generate ⟨"d"⟩ oneDirectory).disk = .ok ⟨"/d"⟩ ∧
    ⟨"d/device.mk"⟩ ∈ relativeListing.files ∧
    (removeListed relativeListing.files {} enteredDirectory).1 =
      .ok { missing := relativeListing.files } ∧
    (removeListed relativeListing.files {} enteredDirectory).2.node? ["d", "device.mk"] ≠ none := by
  decide +kernel

theorem perform_relativeListing : ∃ w,
    (generateAndRecord profile ⟨"d"⟩).perform { disk := oneDirectory } = (.ok relativeListing, w) ∧
    w.disk.workingAt ["d"] = enteredDirectory := by
  obtain ⟨hdisk, hok⟩ := perform_generateAndRecord profile ⟨"d"⟩ { disk := oneDirectory }
  rw [← recordDisk_eq] at hdisk
  obtain ⟨hgenerates, hrecords, hhome', -⟩ := enteredDirectory_holds
  obtain ⟨l, hl⟩ := hok.mpr ⟨hgenerates, hrecords⟩
  have hperform := Prod.ext (y := (_, _)) hl rfl
  obtain ⟨-, hstore⟩ := generateAndRecord_ok hperform
  obtain ⟨home, hhome, rfl, -⟩ := Ledger.store_ok_home hstore
  obtain rfl : home = ⟨"/d"⟩ := Except.ok.inj (hhome.symm.trans hhome')
  exact ⟨_, hperform, congrArg (·.workingAt ["d"]) hdisk⟩

/-- The files that are recorded do not lie below the directory that is recorded. Cleaning from
another working directory finds none of them and goes well. -/
theorem listed_outside_relative : ∃ l w summary f,
    (generateAndRecord profile ⟨"d"⟩).perform { disk := oneDirectory } = (.ok l, w) ∧
    Ledger.load ⟨"/d"⟩ w.disk = .ok l ∧ l.dir = ⟨"/d"⟩ ∧
    ⟨"d/device.mk"⟩ ∈ l.files ∧ ¬ Path.IsBelow ⟨"d/device.mk"⟩ l.dir ∧
    Ledger.clean ⟨"/d"⟩ (w.disk.workingAt ["d"]) = (.ok summary, f) ∧ summary.removed = [] ∧
    f.node? ["d", "device.mk"] ≠ none := by
  have hdir : Path.isAbsolute ⟨"/d"⟩ = true := by decide
  obtain ⟨w, hperform, hdisk⟩ := perform_relativeListing
  obtain ⟨-, -, -, hmem, hresult, hleft⟩ := enteredDirectory_holds
  obtain ⟨hload, -⟩ := load_of_generateAndRecord hperform
  obtain ⟨hlisted, -⟩ := listed_of_relative hperform (by decide) ⟨"/d"⟩
  have hentered : Ledger.load ⟨"/d"⟩ enteredDirectory = .ok relativeListing := by
    rw [← hdisk, Ledger.load_workingAt _ hdir]
    exact hload
  have hready :=
    Ledger.ready_of_load hdir hentered (files_ne_nil_of_generateAndRecord hperform)
  generalize hrun : removeListed relativeListing.files {} enteredDirectory = run at hresult hleft
  obtain ⟨result, e⟩ := run
  obtain rfl : result = _ := hresult
  rw [← hlisted] at hrun
  have hclean := (Ledger.clean_ok_iff (by simp [hdir])).mpr ⟨_, _, e, hready, hrun, rfl⟩
  generalize hput : e.put _ _ = f at hclean
  have hledger : ["d", "device.mk"] ≠ enteredDirectory.place (ledgerPath ⟨"/d"⟩) := by
    rw [Disk.place_of_isAbsolute (by decide)]
    decide +kernel
  refine ⟨_, w, _, _, hperform, hload, rfl, hmem, ?_, hdisk ▸ hclean, rfl, ?_⟩
  · rintro ⟨names, -, hnames⟩
    have hroot : Component.root ∈ Path.components ⟨"d/device.mk"⟩ := by
      rw [hnames]
      exact List.mem_append_left _ (Path.root_mem_components_iff.mpr hdir)
    exact absurd hroot (by decide)
  · rw [← hput, Disk.node?_put (by simp [Ledger.place_ledgerPath]), if_neg hledger]
    exact hleft

end DeviceSpec
