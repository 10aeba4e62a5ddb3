import DeviceSpec.Proofs.Command.Record
import DeviceSpec.Proofs.Disk.Carry

/-!
# Cleaning a device directory that was moved

A directory is copied or renamed with its ledger, a run in it fails, and then it is cleaned. The
run has merged the old list, with the old name of the directory, into a ledger under the new name.

* **one run and one cleaning** — what is changed outside the directory, and what is left in it, can
  be read off the list (`contained_iff_confined`);
* **after a move** — nothing is harmed or left behind exactly when no old file is where it was, and
  the run has made all of them again that are in the new place (`clean_moved_iff`).
-/

namespace DeviceSpec

/-- The files of a ledger that lay below the old directory, below the new one. -/
def Ledger.carried (l : Ledger) (old new : Path) : List Path :=
  l.files.filterMap fun f => (f.below? old).map new.join

/-- Outside the directory everything is as it was, and the files that are due are gone. -/
def Contained (dir : Path) (d e : Disk) (due : List Path) : Prop :=
  (∀ l, ¬ d.place dir <+: l → e.node? l = d.node? l) ∧ ∀ p ∈ due, e.isFile p = false

/-- The run has not written where its ledger goes; the files that its ledger lists and that are
there lie in the directory; and some of them are the carried ones that are there. -/
structure Confined (s : Spec) (dir : Path) (d : Disk) (carried : List Path) : Prop where
  own : ∀ p ∈ (s.generate dir d).paths dir, d.place p ≠ d.place (ledgerPath dir)
  inside : ∀ p ∈ (s.newLedger dir d).listed dir, (s.recordDisk dir d).isFile p = true →
    d.place dir <+: d.place p
  reached : ∀ p ∈ carried, (s.recordDisk dir d).isFile p = true →
    d.place p ≠ d.place (ledgerPath dir) ∧ ∃ q ∈ (s.newLedger dir d).listed dir,
      (s.recordDisk dir d).isFile q = true ∧ d.place q = d.place p

/-! ## One run and one cleaning -/

section Run

variable {s : Spec} {dir : Path} {d : Disk}

/-- After a run and a cleaning that goes well, everything outside is as it was exactly when what was
listed and there lay inside. -/
theorem outside_kept_iff (hdir : dir.isAbsolute = true) (hthere : d.isDir dir = true)
    {summary : CleanSummary} {w : World}
    (hclean : (clean dir).perform { disk := s.recordDisk dir d } = (.ok summary, w)) :
    (∀ l, ¬ d.place dir <+: l → w.disk.node? l = d.node? l) ↔
      ∀ p ∈ (s.newLedger dir d).listed dir, (s.recordDisk dir d).isFile p = true →
        d.place dir <+: d.place p := by
  obtain ⟨hrun, hload⟩ := load_of_perform_clean hdir hclean
  obtain ⟨hwrote, -, -⟩ := recordDisk_spec (s := s) hdir d
  have hplace := hwrote.keepsDirs.place_eq
  have hledger : d.place dir <+: d.place (ledgerPath dir) := by
    rw [Ledger.place_ledgerPath]
    exact List.prefix_append _ _
  -- outside there is no ledger, so only what is listed counts
  have hnode : ∀ {l}, ¬ d.place dir <+: l → (w.disk.node? l = d.node? l ↔
      ∀ p ∈ (s.newLedger dir d).listed dir, (s.recordDisk dir d).isFile p = true →
        d.place p ≠ l) := by
    intro l hl
    have hne : l ≠ (s.recordDisk dir d).place (ledgerPath dir) := by
      rw [hplace]
      exact fun heq => hl (heq ▸ hledger)
    rw [← recordDisk_outside (s := s) hdir hthere hl,
      Ledger.node?_of_clean_iff hdir hrun hload hne]
    simp only [hplace]
  constructor
  · intro houtside p hp hfile
    apply Classical.byContradiction
    intro hout
    exact (hnode hout).mp (houtside _ hout) p hp hfile rfl
  · intro hinside l hl
    refine (hnode hl).mpr fun p hp hfile heq => ?_
    exact hl (heq ▸ hinside p hp hfile)

/-- A file is gone after a run and a cleaning that goes well exactly when it was not there, or it is
not the ledger and something listed led to it. -/
theorem isFile_clean_eq_false_iff (hdir : dir.isAbsolute = true) {summary : CleanSummary} {w : World}
    (hclean : (clean dir).perform { disk := s.recordDisk dir d } = (.ok summary, w)) {p : Path} :
    w.disk.isFile p = false ↔ ((s.recordDisk dir d).isFile p = true →
      d.place p ≠ d.place (ledgerPath dir) ∧ ∃ q ∈ (s.newLedger dir d).listed dir,
        (s.recordDisk dir d).isFile q = true ∧ d.place q = d.place p) := by
  obtain ⟨hrun, hload⟩ := load_of_perform_clean hdir hclean
  obtain ⟨hwrote, -, -⟩ := recordDisk_spec (s := s) hdir d
  rw [← Bool.not_eq_true, Ledger.isFile_of_clean_iff hdir hrun hload, not_and]
  simp only [hwrote.keepsDirs.place_eq]
  constructor
  · intro hgone hfile
    obtain ⟨hne, hnone⟩ := not_or.mp (hgone hfile)
    refine ⟨hne, ?_⟩
    apply Classical.byContradiction
    intro hexists
    exact hnone fun q hq hqFile heq => hexists ⟨q, hq, hqFile, heq⟩
  · intro hreached hfile hkept
    obtain ⟨hne, q, hq, hqFile, hqPlace⟩ := hreached hfile
    exact hkept.resolve_left hne q hq hqFile hqPlace

/-- After a run and a cleaning that goes well, all is well exactly when the run is confined. -/
theorem contained_iff_confined (hdir : dir.isAbsolute = true) (hthere : d.isDir dir = true)
    {summary : CleanSummary} {w : World}
    (hclean : (clean dir).perform { disk := s.recordDisk dir d } = (.ok summary, w))
    (carried : List Path) :
    Contained dir d w.disk (carried ++ (s.generate dir d).paths dir) ↔
      Confined s dir d carried := by
  have houtside := outside_kept_iff hdir hthere hclean
  have hgone := fun p => isFile_clean_eq_false_iff hdir hclean (p := p)
  constructor
  · rintro ⟨hkept, hdue⟩
    refine ⟨fun p hp => ?_, houtside.mp hkept, fun p hp => ?_⟩
    · obtain ⟨hfile, -⟩ := listed_of_mem_paths hdir hp
      exact ((hgone p).mp (hdue p (List.mem_append_right _ hp)) hfile).1
    · exact (hgone p).mp (hdue p (List.mem_append_left _ hp))
  · rintro ⟨hown, hinside, hreached⟩
    refine ⟨houtside.mpr hinside, fun p hp => (hgone p).mpr ?_⟩
    rcases List.mem_append.mp hp with hp | hp
    · exact hreached p hp
    · -- what the run wrote it has listed
      obtain ⟨-, hlisted, hrebased, hsame, -⟩ := listed_of_mem_paths hdir hp
      exact fun _ => ⟨hown p hp, _, hlisted, hrebased, hsame⟩

end Run

/-! ## After a move -/

section Move

variable {old new : Path}

/-- The ledger of a directory that was moved is fetched from the new place, if its path there is not
too long. -/
theorem load_of_carried (hold : old.isAbsolute = true) (hnew : new.isAbsolute = true) {d₁ d : Disk}
    (hcarried : d₁.Carried d (d.place old) (d.place new)) (hthere : d.isDir new = true)
    (haccepted : (ledgerPath new).Accepted) {l : Ledger} (hl : Ledger.load old d₁ = .ok l) :
    Ledger.load new d = .ok l := by
  obtain ⟨content, hfind⟩ := Disk.find_of_isFile (Ledger.isFile_of_load hl)
  have hholdable : new.Holdable ledgerName :=
    ⟨haccepted, by decide +kernel, by decide +kernel⟩
  have hfind' := hcarried.find_join hold hnew hthere Ledger.isAbsolute_ledgerName
    Ledger.up_not_mem_steps_ledgerName Ledger.isAbsolute_ledgerName rfl hholdable hfind
  exact Ledger.load_of_same_content (Disk.read_of_find hfind) (Disk.read_of_find hfind') hl

/-- The run has not written where its ledger goes; no file that the first run wrote is where it was;
and the run has written all of them again that are in the new directory. -/
structure Remade (first : Spec) (old : Path) (d₀ : Disk) (s : Spec) (new : Path) (d : Disk) :
    Prop where
  own : ∀ p ∈ (s.generate new d).paths new, d.place p ≠ d.place (ledgerPath new)
  gone : ∀ p ∈ (first.generate old d₀).paths old, (s.recordDisk new d).isFile p = false
  again : ∀ p ∈ Ledger.carried ⟨old, (first.generate old d₀).paths old⟩ old new,
    (s.recordDisk new d).isFile p = true →
      ∃ q ∈ (s.generate new d).paths new, d.place q = d.place p

theorem rebase_eq_self {dir f : Path} (hdir : dir.isAbsolute = true) (hf : f.isAbsolute = true)
    (h : ¬ dir.steps <+: f.steps) : rebase dir dir f = f := by
  unfold rebase
  split
  · rename_i rest hrest
    obtain ⟨-, -, -, htake⟩ := Path.below?_eq_some hf hdir hrest
    exact absurd (List.prefix_iff_eq_take.mpr htake.symm) h
  · rfl

section Names

variable {first : Spec} {d₀ d : Disk}

/-- A file of the first run: it does not lie in the new directory, neither by its steps nor by its
place, and its spelling makes no difference to whether it is found. -/
theorem of_mem_old_paths (hold : old.isAbsolute = true) (hnew : new.isAbsolute = true)
    (hapart : ¬ d.place old <+: d.place new ∧ ¬ d.place new <+: d.place old)
    (hup : ".." ∉ old.steps ∧ ".." ∉ new.steps) {p : Path}
    (hp : p ∈ (first.generate old d₀).paths old) :
    p.isAbsolute = true ∧ p.Accepted ∧
      (∀ s, p.segments.getLast? = some s → Path.isIdle s = false) ∧ rebase new new p = p ∧
      (∀ q : Path, q.isAbsolute = true → q.steps = p.steps → ¬ d.place new <+: d.place q) ∧
      ∃ rest names, p.below? old = some rest ∧ d.place (new.join rest) = d.place new ++ names := by
  obtain ⟨hran, -⟩ := generate_ran first old d₀
  obtain ⟨⟨name, hname, rfl⟩, hfile⟩ := hran.of_mem_paths hp
  obtain ⟨hrel, hupName⟩ := inside_of_isInsideName hname
  have habs := Path.isAbsolute_join hold name
  have hsteps := Path.steps_join (p := old) hrel
  obtain ⟨content, hfind⟩ := Disk.find_of_isFile hfile
  obtain ⟨t, -, ht, -⟩ := Disk.find_file hfind
  have hne := steps_ne_nil_of_isFile hrel hfile
  obtain ⟨rest, hrest, -, hrestRel, hrestSteps, -⟩ := rebase_below new hold habs hne hsteps
  -- without double dots, places are steps
  have hplace : ∀ {q : Path}, q.isAbsolute = true → ".." ∉ q.steps → d.place q = q.steps := by
    intro q hq hdots
    rw [Disk.place_of_isAbsolute hq, Disk.foldl_walk hdots, List.nil_append]
  have hout : ¬ new.steps <+: (old.join name).steps := by
    rw [← hplace hnew hup.2, hsteps, ← hplace hold hup.1]
    exact Disk.not_prefix_append hapart.1 hapart.2 _
  refine ⟨habs, (Disk.target_ok ht).1, fun s => Disk.isIdle_getLast?_of_find hfind,
    rebase_eq_self hnew habs hout, fun q hq hqSteps => ?_, rest, Path.steps ⟨name⟩, hrest, ?_⟩
  · have hqUp : ".." ∉ q.steps := by
      rw [hqSteps, hsteps, List.mem_append, not_or]
      exact ⟨hup.1, hupName⟩
    rwa [hplace hq hqUp, hplace hnew hup.2, hqSteps]
  · rw [Disk.place_join hrestRel (hrestSteps ▸ hupName), hrestSteps]

theorem mem_carried {l : Ledger} {p : Path} :
    p ∈ l.carried old new ↔
      ∃ f ∈ l.files, ∃ rest, f.below? old = some rest ∧ p = new.join rest := by
  unfold Ledger.carried
  rw [List.mem_filterMap]
  constructor
  · rintro ⟨f, hf, hp⟩
    obtain ⟨rest, hrest, rfl⟩ := Option.map_eq_some_iff.mp hp
    exact ⟨f, hf, rest, hrest, rfl⟩
  · rintro ⟨f, hf, rest, hrest, rfl⟩
    exact ⟨f, hf, by rw [hrest]; rfl⟩

/-- What a failed run lists: what it wrote itself, which lies in the new directory, and the old
files, which do not. -/
theorem mem_listed_cases (hold : old.isAbsolute = true) (hnew : new.isAbsolute = true)
    (hapart : ¬ d.place old <+: d.place new ∧ ¬ d.place new <+: d.place old)
    (hup : ".." ∉ old.steps ∧ ".." ∉ new.steps) {s : Spec}
    (hfiles : (s.newLedger new d).files =
      addUnlisted ((s.generate new d).paths new) ((first.generate old d₀).paths old)) {q : Path}
    (hq : q ∈ (s.newLedger new d).listed new) :
    (∃ f ∈ (s.generate new d).paths new, d.place q = d.place f ∧ d.place new <+: d.place q) ∨
      (q ∈ (first.generate old d₀).paths old ∧ ¬ d.place new <+: d.place q) := by
  rw [newLedger_listed, hfiles] at hq
  obtain ⟨f, hf, rfl⟩ := List.mem_map.mp hq
  rcases mem_of_mem_addUnlisted hf with hfnew | hfold
  · obtain ⟨-, -, -, hsame, hin⟩ := listed_of_mem_paths hnew hfnew
    refine .inl ⟨f, hfnew, hsame, ?_⟩
    rwa [hsame]
  · obtain ⟨hfabs, -, -, hself, hfout, -⟩ := of_mem_old_paths hold hnew hapart hup hfold
    rw [hself]
    exact .inr ⟨hfold, hfout f hfabs rfl⟩

/-- An old file that is still there is led to by something that the failed run lists, maybe under
another spelling. -/
theorem listed_of_mem_old_paths (hold : old.isAbsolute = true) (hnew : new.isAbsolute = true)
    (hapart : ¬ d.place old <+: d.place new ∧ ¬ d.place new <+: d.place old)
    (hup : ".." ∉ old.steps ∧ ".." ∉ new.steps) {s : Spec}
    (hfiles : (s.newLedger new d).files =
      addUnlisted ((s.generate new d).paths new) ((first.generate old d₀).paths old)) {p : Path}
    (hp : p ∈ (first.generate old d₀).paths old) (hfile : (s.recordDisk new d).isFile p = true) :
    ∃ q ∈ (s.newLedger new d).listed new,
      (s.recordDisk new d).isFile q = true ∧ ¬ d.place new <+: d.place q := by
  obtain ⟨habs, -, -, -, hout, -⟩ := of_mem_old_paths hold hnew hapart hup hp
  obtain ⟨f, hf, hsame⟩ := lists_addUnlisted ((s.generate new d).paths new) |>.mpr
    (.inr ⟨p, hp, Path.same_refl p⟩)
  rw [Path.same_comm] at hsame
  have hfabs := Path.same.isAbsolute hsame habs
  have hsteps := (Path.same_iff_steps habs hfabs).mp hsame
  have hfout := hout f hfabs hsteps.symm
  rcases mem_of_mem_addUnlisted hf with hfnew | hfold
  · obtain ⟨-, -, -, -, hin⟩ := listed_of_mem_paths hnew hfnew
    exact absurd hin hfout
  · obtain ⟨-, haccepted, hend, hself, -⟩ := of_mem_old_paths hold hnew hapart hup hfold
    obtain ⟨content, hfind⟩ := Disk.find_of_isFile hfile
    have hfind' := Disk.find_file_respell hfind habs hfabs hsteps.symm haccepted hend
    refine ⟨f, ?_, Disk.isFile_of_find hfind', hfout⟩
    rw [newLedger_listed, hfiles]
    exact List.mem_map.mpr ⟨f, hf, hself⟩

/-- After a first run that did not fail, the list consists of the old files and the new ones. Old
files do not lie in the new directory, so they must be gone, and they do not lead to the carried
ones, so new ones must. -/
theorem confined_iff_remade (hold : old.isAbsolute = true) (hnew : new.isAbsolute = true)
    (hapart : ¬ d.place old <+: d.place new ∧ ¬ d.place new <+: d.place old)
    (hup : ".." ∉ old.steps ∧ ".." ∉ new.steps) {s : Spec}
    (hfailure : (s.generate new d).failure ≠ none)
    (hload : Ledger.load new d = .ok ⟨old, (first.generate old d₀).paths old⟩) :
    Confined s new d (Ledger.carried ⟨old, (first.generate old d₀).paths old⟩ old new) ↔
      Remade first old d₀ s new d := by
  have hcarried : ∀ {p}, p ∈ Ledger.carried ⟨old, (first.generate old d₀).paths old⟩ old new →
      d.place new <+: d.place p := by
    intro p hp
    obtain ⟨f, hf, rest, hrest, rfl⟩ := mem_carried.mp hp
    obtain ⟨-, -, -, -, -, rest', names, hrest', hplace⟩ :=
      of_mem_old_paths hold hnew hapart hup hf
    rw [hrest, Option.some.injEq] at hrest'
    rw [hrest', hplace]
    exact List.prefix_append _ _
  have hmerges : (∀ p ∈ (s.generate new d).paths new, d.place p ≠ d.place (ledgerPath new)) →
      (s.newLedger new d).files =
        addUnlisted ((s.generate new d).paths new) ((first.generate old d₀).paths old) :=
    fun hown => by rw [newLedger_merges hfailure hown hload]
  constructor
  · rintro ⟨hown, hinside, hreached⟩
    have hfiles := hmerges hown
    refine ⟨hown, fun p hp => ?_, fun p hp hfile => ?_⟩
    · rw [← Bool.not_eq_true]
      intro hfile
      obtain ⟨q, hq, hqFile, hout⟩ :=
        listed_of_mem_old_paths hold hnew hapart hup hfiles hp hfile
      exact hout (hinside q hq hqFile)
    · obtain ⟨-, q, hq, -, hplace⟩ := hreached p hp hfile
      rcases mem_listed_cases hold hnew hapart hup hfiles hq with ⟨f, hf, hsame, -⟩ | ⟨-, hout⟩
      · exact ⟨f, hf, hsame.symm.trans hplace⟩
      · exact absurd (hplace ▸ hcarried hp) hout
  · rintro ⟨hown, hgone, hagain⟩
    have hfiles := hmerges hown
    refine ⟨hown, fun p hp hfile => ?_, fun p hp hfile => ?_⟩
    · rcases mem_listed_cases hold hnew hapart hup hfiles hp with ⟨-, -, -, hin⟩ | ⟨hpold, -⟩
      · exact hin
      · rw [hgone p hpold] at hfile
        cases hfile
    · obtain ⟨q, hq, hplace⟩ := hagain p hp hfile
      obtain ⟨-, hlisted, hqFile, hsame, -⟩ := listed_of_mem_paths hnew hq
      exact ⟨hplace ▸ hown q hq, _, hlisted, hqFile, hsame.trans hplace⟩

end Names

/-- A directory with a recorded run is copied or renamed, a run in it fails, and it is cleaned.
Nothing outside is touched, and the files that were listed or written are gone, exactly when the
failed run is confined. If the first run went well, that is when no old file is where it was and the
failed run has written all of them again that are in the new directory. -/
theorem clean_moved_iff {first s : Spec} {d₀ d₁ d : Disk} {summary : CleanSummary} {w : World}
    (hold : old.isAbsolute = true) (hnew : new.isAbsolute = true)
    (hrecorded : Ledger.load old d₁ = .ok (first.newLedger old d₀))
    (hmoved : d₁.Copied d (d.place old) (d.place new) ∨ d₁.Renamed d (d.place old) (d.place new))
    (hapart : ¬ d.place old <+: d.place new ∧ ¬ d.place new <+: d.place old)
    (hthere : d.isDir new = true) (hfailure : (s.generate new d).failure ≠ none)
    (hclean : (clean new).perform { disk := s.recordDisk new d } = (.ok summary, w)) :
    (Contained new d w.disk
        ((first.newLedger old d₀).carried old new ++ (s.generate new d).paths new) ↔
      Confined s new d ((first.newLedger old d₀).carried old new)) ∧
    ((first.generate old d₀).failure = none → ".." ∉ old.steps → ".." ∉ new.steps →
      (Contained new d w.disk
          ((first.newLedger old d₀).carried old new ++ (s.generate new d).paths new) ↔
        Remade first old d₀ s new d)) := by
  have hconfined := contained_iff_confined hnew hthere hclean
    ((first.newLedger old d₀).carried old new)
  refine ⟨hconfined, fun hfirst hupOld hupNew => hconfined.trans ?_⟩
  have hcarried : d₁.Carried d (d.place old) (d.place new) := by
    rcases hmoved with hcopied | hrenamed
    · exact hcopied.toCarried
    · exact hrenamed.toCarried
  have hledger := newLedger_of_ok hfirst
  have haccepted : (ledgerPath new).Accepted := by
    obtain ⟨-, hload⟩ := load_of_perform_clean hnew hclean
    obtain ⟨content, hfind⟩ := Disk.find_of_isFile (Ledger.isFile_of_load hload)
    obtain ⟨t, -, ht, -⟩ := Disk.find_file hfind
    exact (Disk.target_ok ht).1
  have hload := load_of_carried hold hnew hcarried hthere haccepted hrecorded
  rw [hledger] at hload ⊢
  exact confined_iff_remade hold hnew hapart ⟨hupOld, hupNew⟩ hfailure hload

end Move

/-! ## A copy -/

/-- The bundled profile, generated in one directory that is then copied. -/
def copiedDirectory : Disk := (profile.recordDisk ⟨"/d"⟩ oneDirectory).copy ["d"] ["e"]

/-- The bundled profile with a name that is not allowed. -/
def badName : Spec := profile.withFstab "/fstab"

/-- The first run is recorded. -/
theorem load_recorded : Ledger.load ⟨"/d"⟩ (profile.recordDisk ⟨"/d"⟩ oneDirectory) =
    .ok (profile.newLedger ⟨"/d"⟩ oneDirectory) := by
  have hdir : (Path.mk "/d").isAbsolute = true := by decide
  obtain ⟨-, hload, -⟩ := recordDisk_spec (s := profile) hdir oneDirectory
  exact hload profile_records

set_option maxRecDepth 100000 in
theorem boardConfig_mem_paths :
    ⟨"/d/BoardConfig.mk"⟩ ∈ (profile.generate ⟨"/d"⟩ oneDirectory).paths ⟨"/d"⟩ := by
  decide +kernel

/-- Where the two directories are, on any disk. -/
theorem place_bothDirectories (d : Disk) : d.place ⟨"/d"⟩ = ["d"] ∧ d.place ⟨"/e"⟩ = ["e"] := by
  rw [Disk.place_of_isAbsolute (by decide), Disk.place_of_isAbsolute (by decide)]
  decide

theorem apart_bothDirectories (d : Disk) :
    ¬ d.place ⟨"/d"⟩ <+: d.place ⟨"/e"⟩ ∧ ¬ d.place ⟨"/e"⟩ <+: d.place ⟨"/d"⟩ := by
  obtain ⟨hd, he⟩ := place_bothDirectories d
  rw [hd, he]
  decide

set_option maxRecDepth 100000 in
/-- The copy has the ledger, and all files of the first run are still there. -/
theorem copiedDirectory_holds :
    copiedDirectory.isDir ⟨"/e"⟩ = true ∧
      copiedDirectory.isFile (ledgerPath ⟨"/e"⟩) = true ∧
      ∀ f ∈ (profile.generate ⟨"/d"⟩ oneDirectory).paths ⟨"/d"⟩,
        rebase ⟨"/e"⟩ ⟨"/e"⟩ f = f ∧ copiedDirectory.isFile f = true := by
  decide +kernel

set_option maxRecDepth 100000 in
/-- The second run fails, without writing to the ledger. -/
theorem badName_fails :
    (badName.generate ⟨"/e"⟩ copiedDirectory).failure ≠ none ∧
      ∀ p ∈ (badName.generate ⟨"/e"⟩ copiedDirectory).paths ⟨"/e"⟩,
        copiedDirectory.place p ≠ copiedDirectory.place (ledgerPath ⟨"/e"⟩) := by
  decide +kernel

theorem copied_copiedDirectory : (profile.recordDisk ⟨"/d"⟩ oneDirectory).Copied copiedDirectory
    (copiedDirectory.place ⟨"/d"⟩) (copiedDirectory.place ⟨"/e"⟩) := by
  obtain ⟨hd, he⟩ := place_bothDirectories copiedDirectory
  rw [hd, he]
  exact Disk.copied_copy (by decide) (by decide) _

/-- The ledger of the copy is that of the original. -/
theorem load_copiedDirectory : Ledger.load ⟨"/e"⟩ copiedDirectory =
    .ok ⟨⟨"/d"⟩, (profile.generate ⟨"/d"⟩ oneDirectory).paths ⟨"/d"⟩⟩ := by
  obtain ⟨hthere, -⟩ := copiedDirectory_holds
  have hload' := load_of_carried (by decide) (by decide) copied_copiedDirectory.toCarried
    hthere ⟨by decide, by decide, by decide⟩ load_recorded
  rwa [newLedger_of_ok profile_generates] at hload'

/-- A run in the copy that fails lists the files of both directories. -/
theorem newLedger_copiedDirectory : (badName.newLedger ⟨"/e"⟩ copiedDirectory).files =
    addUnlisted ((badName.generate ⟨"/e"⟩ copiedDirectory).paths ⟨"/e"⟩)
      ((profile.generate ⟨"/d"⟩ oneDirectory).paths ⟨"/d"⟩) := by
  obtain ⟨hfailure, hown⟩ := badName_fails
  rw [newLedger_merges hfailure hown load_copiedDirectory]

/-- Both directories can be cleaned of what the ledger of the copy lists. -/
theorem clean_copiedDirectory : ∃ summary w, (clean ⟨"/e"⟩).perform
    { disk := badName.recordDisk ⟨"/e"⟩ copiedDirectory } = (.ok summary, w) := by
  obtain ⟨-, hledger, hold⟩ := copiedDirectory_holds
  have hnew : (Path.mk "/e").isAbsolute = true := by decide
  obtain ⟨hwrote, hrecords, -⟩ := recordDisk_spec (s := badName) hnew copiedDirectory
  have hload := hrecords (records_of_isFile hnew hledger)
  have hne : (badName.newLedger ⟨"/e"⟩ copiedDirectory).files ≠ [] := by
    rw [newLedger_copiedDirectory]
    obtain ⟨f, hf, -⟩ := (lists_addUnlisted _).mpr
      (.inr ⟨_, boardConfig_mem_paths, Path.same_refl _⟩)
    exact List.ne_nil_of_mem hf
  obtain ⟨summary, e, hclean⟩ := Ledger.clean_ok_of_removable hnew hload hne (by
    intro p hp
    rw [newLedger_listed, newLedger_copiedDirectory] at hp
    obtain ⟨f, hf, rfl⟩ := List.mem_map.mp hp
    rcases mem_of_mem_addUnlisted hf with hfnew | hfold
    · obtain ⟨-, -, hfile, -⟩ := listed_of_mem_paths hnew hfnew
      exact .inl hfile
    · obtain ⟨hself, hfile⟩ := hold f hfold
      rw [hself]
      exact .inl (hwrote.isFile_of_isFile hfile))
  obtain ⟨w, hperform, -⟩ := (perform_clean_ok hnew).mp hclean
  exact ⟨summary, w, hperform⟩

theorem clean_moved_iff_copiedDirectory : ∃ summary w,
    (clean ⟨"/e"⟩).perform { disk := badName.recordDisk ⟨"/e"⟩ copiedDirectory } =
        (.ok summary, w) ∧
      (Contained ⟨"/e"⟩ copiedDirectory w.disk
          ((profile.newLedger ⟨"/d"⟩ oneDirectory).carried ⟨"/d"⟩ ⟨"/e"⟩ ++
            (badName.generate ⟨"/e"⟩ copiedDirectory).paths ⟨"/e"⟩) ↔
        Remade profile ⟨"/d"⟩ oneDirectory badName ⟨"/e"⟩ copiedDirectory) := by
  obtain ⟨hthere, -⟩ := copiedDirectory_holds
  obtain ⟨hfailure, -⟩ := badName_fails
  obtain ⟨summary, w, hclean⟩ := clean_copiedDirectory
  have hboth := clean_moved_iff (by decide) (by decide) load_recorded
    (.inl copied_copiedDirectory) (apart_bothDirectories _) hthere hfailure hclean
  exact ⟨summary, w, hclean, hboth.2 profile_generates (by decide) (by decide)⟩

/-- Cleaning the copy harms the directory it was copied from. -/
theorem clean_copiedDirectory_harms :
    Ledger.load ⟨"/d"⟩ (profile.recordDisk ⟨"/d"⟩ oneDirectory) =
        .ok (profile.newLedger ⟨"/d"⟩ oneDirectory) ∧
      (profile.recordDisk ⟨"/d"⟩ oneDirectory).Copied copiedDirectory
        (copiedDirectory.place ⟨"/d"⟩) (copiedDirectory.place ⟨"/e"⟩) ∧
      (badName.generate ⟨"/e"⟩ copiedDirectory).failure ≠ none ∧
      ∃ summary w, (clean ⟨"/e"⟩).perform
          { disk := badName.recordDisk ⟨"/e"⟩ copiedDirectory } = (.ok summary, w) ∧
        ¬ Contained ⟨"/e"⟩ copiedDirectory w.disk
          ((profile.newLedger ⟨"/d"⟩ oneDirectory).carried ⟨"/d"⟩ ⟨"/e"⟩ ++
            (badName.generate ⟨"/e"⟩ copiedDirectory).paths ⟨"/e"⟩) := by
  obtain ⟨hthere, -, hold⟩ := copiedDirectory_holds
  obtain ⟨hfailure, -⟩ := badName_fails
  obtain ⟨summary, w, hclean⟩ := clean_copiedDirectory
  refine ⟨load_recorded, copied_copiedDirectory, hfailure, summary, w, hclean, ?_⟩
  rw [contained_iff_confined (by decide) hthere hclean, newLedger_of_ok profile_generates,
    confined_iff_remade (by decide) (by decide) (apart_bothDirectories _) ⟨by decide, by decide⟩
      hfailure load_copiedDirectory]
  rintro ⟨-, hgone, -⟩
  -- the run only adds files, so that of the original is still there
  have hnew : (Path.mk "/e").isAbsolute = true := by decide
  obtain ⟨hwrote, -, -⟩ := recordDisk_spec (s := badName) hnew copiedDirectory
  have hfile := hwrote.isFile_of_isFile (hold _ boardConfig_mem_paths).2
  rw [hgone _ boardConfig_mem_paths] at hfile
  cases hfile

end DeviceSpec
