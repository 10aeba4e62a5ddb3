import DeviceSpec.Proofs.Disk.Delete
import DeviceSpec.Proofs.Ledger.Home
import Mathlib.Control.Monad.Basic

/-!
# Cleaning again after a failure

Cleaning stops at a path that cannot be removed, with the paths before it removed and the ledger as
it was. Someone deletes what was in the way and cleans again.

* **side by side** — this is compared with deleting the same on the disk as it was at first, and
  cleaning once. That disk has some more files (`Disk.Lacks`), and removing the same keeps it so
  (`Lacks.removed`);
* **catching up** — once none of these files is left, both runs have gone well and left the same
  (`removeListed_catchesUp`);
* **falling behind** — a deleted directory may be one that a listed path steps into and up again.
  Then the single run does not get to the file, which the failed one did. When every path leads
  where it led or its file is deleted, this does not happen (`removeListed_within`);
* **the whole** — when resuming leaves what a single run leaves (`clean_resumes_iff`).
-/

namespace DeviceSpec

open Disk

variable {d e d' e' : Disk} {files : List Path} {summary summary' : CleanSummary}

/-! ## Side by side -/

namespace Disk

/-- A removal leaves what its path does not lead to. -/
theorem Removed.kept_of_single {p : Path} (h : d.Removed d' [p]) {m : Location}
    (hother : ¬ (d.isFile p = true ∧ d.place p = m)) : d'.node? m = d.node? m :=
  h.kept m fun q hq hfile hplace => by
    rw [List.mem_singleton.mp hq] at hfile hplace
    exact hother ⟨hfile, hplace⟩

theorem Removed.gone_of_single {p : Path} (h : d.Removed d' [p]) {m : Location}
    (hled : d.isFile p = true ∧ d.place p = m) : d'.node? m = none := by
  obtain ⟨hfile, rfl⟩ := hled
  exact h.gone p List.mem_cons_self hfile

/-- Removing a path on two disks, one within the other, keeps it so unless it removes a file from
the larger one only. -/
theorem Within.removed {p : Path} (h : d.Within e) (hd : d.Removed d' [p]) (he : e.Removed e' [p])
    (hboth : e.isFile p = true → d.isFile p = true ∨ d.node? (e.place p) = none) :
    d'.Within e' := by
  refine ⟨?_, fun m n hn => ?_⟩
  · rw [hd.keepsDirs.workingDir, he.keepsDirs.workingDir, h.workingDir]
  · have hthere := hd.node?_some hn
    rw [he.kept_of_single, h.node? m n hthere]
    rintro ⟨hfile, rfl⟩
    rcases hboth hfile with hfile' | hnone
    · rw [hd.gone_of_single ⟨hfile', (h.keepsDirs.place_eq p).symm⟩] at hn
      cases hn
    · rw [hnone] at hthere
      cases hthere

/-- Removing a path on two disks, one of which only lacks some files, keeps it so. -/
theorem Lacks.removed {lost : Location → Prop} {p : Path} (h : d.Lacks e lost)
    (hd : d.Removed d' [p]) (he : e.Removed e' [p]) : d'.Lacks e' lost := by
  have hled : ∀ {m}, d.isFile p = true ∧ d.place p = m → e.node? m = d.node? m →
      e.isFile p = true ∧ e.place p = m := by
    rintro m ⟨hfile, rfl⟩ hsame
    obtain ⟨content, hnode⟩ := node?_of_isFile hfile
    exact ⟨isFile_mono h.keepsDirs hfile (hsame.trans hnode), h.keepsDirs.place_eq p⟩
  have hled' : ∀ {m}, e.isFile p = true ∧ e.place p = m → d.isFile p = true ∧ d.place p = m :=
    fun hm => ⟨h.within.isFile hm.1, (h.keepsDirs.place_eq p).symm.trans hm.2⟩
  refine ⟨⟨?_, fun m hm => ?_⟩, ?_, fun m hm => ?_⟩
  · rw [hd.keepsDirs.workingDir, he.keepsDirs.workingDir, h.keepsDirs.workingDir]
  · exact he.keepsDirs.directory m (h.keepsDirs.directory m (hd.node?_some hm))
  · refine ⟨?_, fun m n hn => ?_⟩
    · rw [hd.keepsDirs.workingDir, he.keepsDirs.workingDir, h.keepsDirs.workingDir]
    · have hthere := he.node?_some hn
      have hthere' := h.within.node? m n hthere
      rw [hd.kept_of_single, hthere']
      intro hm
      rw [he.gone_of_single (hled hm (hthere.trans hthere'.symm))] at hn
      cases hn
  · have hsame := h.same m hm
    by_cases hm' : d.isFile p = true ∧ d.place p = m
    · rw [hd.gone_of_single hm', he.gone_of_single (hled hm' hsame)]
    · rw [hd.kept_of_single hm', he.kept_of_single fun h => hm' (hled' h), hsame]

/-- Once what is lost is gone from both disks, they hold the same. -/
theorem Lacks.node?_eq {lost : Location → Prop} (h : d.Lacks e lost)
    (hgone : ∀ m, lost m → d.node? m = none) (m : Location) : e.node? m = d.node? m := by
  by_cases hm : lost m
  · rw [h.within.node?_eq_none (hgone m hm), hgone m hm]
  · exact h.same m hm

theorem Removed.lacks (h : d.Removed e files) :
    d.Lacks e fun m => ∃ p ∈ files, d.isFile p = true ∧ d.place p = m :=
  ⟨h.keepsDirs, h.within, fun m hm => h.kept m fun p hp hfile hplace => hm ⟨p, hp, hfile, hplace⟩⟩

end Disk

/-! ## Two runs -/

/-- A run goes well on the smaller disk. On the larger one it has caught up when none of the files
that the smaller one lacks is left. -/
theorem removeListed_catchesUp {lost : Location → Prop} (h : d.Lacks e lost)
    {result : Except (Path × FileError) CleanSummary} {other : CleanSummary}
    (hd : removeListed files summary d = (result, d'))
    (he : removeListed files other e = (.ok summary', e'))
    (hgone : ∀ m, lost m → d'.node? m = none) :
    (∃ summary'', result = .ok summary'') ∧ ∀ m, e'.node? m = d'.node? m := by
  induction files generalizing d e summary other with
  | nil =>
    cases hd
    cases he
    exact ⟨⟨summary, rfl⟩, h.node?_eq hgone⟩
  | cons p rest ih =>
    rcases removeListed_step e p with ⟨hremovable, e₁, hremoved, hrest⟩ | ⟨-, err, -, hstop⟩
    · rw [hrest] at he
      rcases removeListed_step d p with ⟨-, d₁, hremoved', hrest'⟩ | ⟨hnot, err, -, hstop⟩
      · rw [hrest'] at hd
        exact ih (h.removed hremoved' hremoved) hd he
      · -- it would have stopped where the disks hold the same
        rw [hstop] at hd
        obtain ⟨-, rfl⟩ := Prod.mk.inj hd
        have hsame := h.node?_eq hgone
        have hwithin : d.Within e := ⟨h.keepsDirs.workingDir, fun m n hn => (hsame m).trans hn⟩
        exact absurd (hwithin.removable hremovable) hnot
    · rw [hstop] at he
      cases he

/-- Where files and directories were deleted, a run goes well that went well before. What is left is
within what was left then, if every path leads where it led or its file is deleted. -/
theorem removeListed_within (summary : CleanSummary) (h : d.Within e)
    (hboth : ∀ p ∈ files, e.isFile p = true → d.isFile p = true ∨ d.node? (e.place p) = none)
    {other : CleanSummary} (he : removeListed files other e = (.ok summary', e')) :
    ∃ summary'' d', removeListed files summary d = (.ok summary'', d') ∧ d'.Within e' := by
  induction files generalizing d e summary other with
  | nil =>
    cases he
    exact ⟨summary, d, rfl, h⟩
  | cons p rest ih =>
    rcases removeListed_step e p with ⟨hremovable, e₁, hremoved, hrest⟩ | ⟨-, err, -, hstop⟩
    · rw [hrest] at he
      rcases removeListed_step d p with ⟨-, d₁, hremoved', hrest'⟩ | ⟨hnot, -⟩
      · rw [hrest']
        have hwithin := h.removed hremoved' hremoved (hboth p List.mem_cons_self)
        refine ih _ hwithin (fun q hq hfile => ?_) he
        rw [hremoved.keepsDirs.place_eq]
        -- the file of a later path is still there, or has been removed already
        rcases hboth q (List.mem_cons_of_mem p hq) (hremoved.isFile hfile) with hfile' | hnone
        · rcases hremoved'.node?_eq (d.place q) with hgone | hsame
          · exact .inr (by rwa [h.keepsDirs.place_eq])
          · exact .inl (hremoved'.isFile_of_node?_eq hfile' hsame)
        · exact .inr (hremoved'.within.node?_eq_none hnone)
      · exact absurd (h.removable hremovable) hnot
    · rw [hstop] at he
      cases he

/-! ## Cleaning again -/

/-- The working directory is reached as before while a ledger is found from there. -/
theorem Disk.Grounded.pruned {dir : Path} (h : d.Grounded) (hpruned : d.Pruned e)
    (hledger : e.isFile (ledgerPath dir) = true) (hrel : dir.isAbsolute = false) : e.Grounded := by
  obtain ⟨content, hfind⟩ := Disk.find_of_isFile hledger
  obtain ⟨-, hthere, -⟩ := find_ledgerPath_iff.mp hfind
  have horigin : e.origin dir = d.workingDir := by
    rw [Disk.origin, if_neg (by simp [hrel]), hpruned.within.workingDir]
  rw [horigin] at hthere
  have hnames : "." ∉ d.workingDir ∧ ".." ∉ d.workingDir :=
    ⟨fun hmem => absurd (h.named _ hmem).notIdle (by decide),
      fun hmem => (h.named _ hmem).notUp rfl⟩
  obtain ⟨-, hshorts, habove⟩ := (enterAll_names_iff hnames.1 hnames.2).mp h.reached
  refine ⟨hpruned.within.workingDir ▸ h.named, ?_⟩
  rw [← hpruned.within.workingDir]
  refine (enterAll_names_iff hnames.1 hnames.2).mpr ⟨rfl, hshorts, fun front hne hfront => ?_⟩
  exact hpruned.above _ _ _ hthere hfront (habove front hne hfront)

/-- The path steps up at most as the directory itself does. -/
def Path.Straight (p dir : Path) : Prop :=
  ".." ∉ p.steps ∨
    p.isAbsolute = dir.isAbsolute ∧ ∃ names, p.steps = dir.steps ++ names ∧ ".." ∉ names

/-- A path that steps up no more than its directory leads where it led while that and the file are
left. -/
theorem Path.Straight.isFile_or {dir p : Path} (h : p.Straight dir) (hpruned : d.Pruned e)
    (hledger : e.isFile (ledgerPath dir) = true) (hp : d.isFile p = true) :
    e.isFile p = true ∨ e.node? (d.place p) = none := by
  by_cases hthere : e.node? (d.place p) = none
  · exact .inr hthere
  refine .inl ?_
  have horigin : e.origin p = d.origin p := (hpruned.within.keepsDirs.origin_eq p).symm
  rcases h with hup | ⟨habs, names, hsteps, hup⟩
  · obtain ⟨content, hfind⟩ := Disk.find_of_isFile hp
    obtain ⟨-, -, hstart, -⟩ := Disk.find_file_iff.mp hfind
    obtain ⟨n, hn⟩ := Option.ne_none_iff_exists'.mp hthere
    have habove : d.origin p <+: d.place p := by
      rw [Disk.place, Disk.foldl_walk hup]
      exact List.prefix_append _ _
    rw [← horigin] at hstart habove
    have hbase : e.enterAll (e.origin p) [] = .ok (e.origin p) := rfl
    exact hpruned.isFile_of_steps hp (List.nil_append _).symm hup
      (hpruned.above _ _ n hn habove hstart) hbase hthere
  · obtain ⟨content, hfind⟩ := Disk.find_of_isFile hledger
    obtain ⟨-, hstart, henter, -⟩ := find_ledgerPath_iff.mp hfind
    have hsame : e.origin p = e.origin dir := by rw [Disk.origin, Disk.origin, habs]
    rw [← hsame] at hstart henter
    exact hpruned.isFile_of_steps hp hsteps hup hstart henter hthere

section Clean

variable {dir home : Path} {g : Disk} {l : Ledger}

/-- Apart from the ledger, cleaning leaves what removing the listed paths leaves. -/
theorem Ledger.Ready.node?_clean (hground : dir.isAbsolute = false → d.Grounded)
    (h : Ledger.Ready dir d l home) {result : Except (Path × FileError) CleanSummary}
    (hrun : removeListed (l.listed dir) {} d = (result, e)) {m : Location}
    (hm : m ≠ d.place (ledgerPath dir)) : (Ledger.clean dir d).2.node? m = e.node? m := by
  cases result with
  | error stop => rw [Ledger.clean_of_run_error h.load hrun]
  | ok summary =>
    rw [(Ledger.clean_ok_iff hground).mpr ⟨l, home, e, h, hrun, rfl⟩,
      Disk.node?_put (by simp [Ledger.place_ledgerPath]), if_neg hm]

/-- Some more files are nothing to the ledger. -/
theorem Ledger.Ready.larger {lost : Location → Prop} (h : Ledger.Ready dir e l home)
    (hlacks : d.Lacks e lost) : Ledger.Ready dir d l home where
  load := by rw [← Ledger.load_of_within hlacks.within (Ledger.isFile_of_load h.load), h.load]
  lists := h.lists
  named := by rw [absolutePath_congr hlacks.within.keepsDirs hlacks.keepsDirs, h.named]
  accepted := h.accepted

/-- One disk has some more files than another, on which cleaning goes well. On both it leaves the
same exactly when none of these files is left. -/
theorem clean_same_iff {lost : Location → Prop} (h : d.Lacks e lost)
    (hground : dir.isAbsolute = false → d.Grounded) (hground' : dir.isAbsolute = false → e.Grounded)
    (hledger : ∀ m, lost m → m ≠ d.place (ledgerPath dir)) (hlost : ∀ m, lost m → e.node? m = none)
    (hclean : Ledger.clean dir e = (.ok summary, g)) :
    (∃ summary' f, Ledger.clean dir d = (.ok summary', f) ∧ ∀ m, f.node? m = g.node? m) ↔
      ∀ m, lost m → (Ledger.clean dir d).2.node? m = none := by
  obtain ⟨l, home, e', hready', hrun', rfl⟩ := (Ledger.clean_ok_iff hground').mp hclean
  have hready := hready'.larger h
  have hplace : e.place (ledgerPath dir) = d.place (ledgerPath dir) := h.keepsDirs.place_eq _
  have hnonempty : d.place (ledgerPath dir) ≠ [] := by simp [Ledger.place_ledgerPath]
  constructor
  · rintro ⟨summary', f, hclean', hsame⟩ m hm
    obtain ⟨hremoved, -⟩ := removeListed_ok hrun'
    rw [hclean', hsame, hplace, Disk.node?_put hnonempty, if_neg (hledger m hm)]
    exact hremoved.within.node?_eq_none (hlost m hm)
  · intro hgone
    cases hrun : removeListed (l.listed dir) {} d with
    | mk result d' =>
      have hgone' : ∀ m, lost m → d'.node? m = none := fun m hm => by
        rw [← hready.node?_clean hground hrun (hledger m hm)]
        exact hgone m hm
      obtain ⟨⟨summary', rfl⟩, hsame⟩ := removeListed_catchesUp h hrun hrun' hgone'
      refine ⟨summary', _, (Ledger.clean_ok_iff hground).mpr ⟨l, home, d', hready, hrun, rfl⟩,
        fun m => ?_⟩
      rw [hplace, Disk.node?_put hnonempty, Disk.node?_put hnonempty, hsame]

/-- When the paths of a front lead where they led or their files are deleted, cleaning removes all
their files. -/
theorem node?_clean_of_front {front rest : List Path} (hwithin : e.Within d)
    (hground : dir.isAbsolute = false → e.Grounded) (hready : Ledger.Ready dir e l home)
    (hlisted : l.listed dir = front ++ rest)
    (hfront : removeListed front {} d = (.ok summary, d'))
    (hboth : ∀ p ∈ front, d.isFile p = true → e.isFile p = true ∨ e.node? (d.place p) = none)
    {m : Location} (hm : m ≠ d.place (ledgerPath dir)) (hgone : d'.node? m = none) :
    (Ledger.clean dir e).2.node? m = none := by
  obtain ⟨summary', e', hfront', hwithin'⟩ := removeListed_within {} hwithin hboth hfront
  cases hrest : removeListed rest summary' e' with
  | mk result f =>
    obtain ⟨files, hremoved⟩ := removed_of_removeListed hrest
    have hrun : removeListed (l.listed dir) {} e = (result, f) := by
      rw [hlisted, removeListed_append rest hfront', hrest]
    rw [hready.node?_clean hground hrun (hwithin.keepsDirs.place_eq _ ▸ hm)]
    exact hremoved.within.node?_eq_none (hwithin'.node?_eq_none hgone)

/-- Cleaning that does not go well has changed nothing, or it has met a path that cannot be removed
or a ledger that cannot be stored. -/
theorem clean_error_cases {err : LedgerError} (h : Ledger.clean dir d = (.error err, e)) :
    e = d ∨ (∃ file cause, err = .remove file cause) ∨ ∃ cause, err = .save cause := by
  rcases Ledger.clean_course dir d with
    ⟨⟨err', hclean⟩, -⟩ | ⟨l, hload, -, ⟨file, cause, e', -, hclean⟩ | ⟨summary', e', hrun,
      ⟨err', f, hstore, hclean⟩ | ⟨l', f, -, hclean⟩⟩⟩
  · rw [hclean] at h
    exact .inl (Prod.mk.inj h).2.symm
  · rw [hclean] at h
    exact .inr (.inl ⟨file, cause, (Except.error.inj (Prod.mk.inj h).1).symm⟩)
  · rw [hclean] at h
    obtain rfl : err' = err := Except.error.inj (Prod.mk.inj h).1
    -- the directory that held the ledger is still there, so it has a full name
    obtain ⟨hremoved, -⟩ := removeListed_ok hrun
    obtain ⟨home, hhome⟩ := exists_home (Ledger.isFile_of_load hload)
    rw [← absolutePath_congr hremoved.keepsDirs hremoved.keepsDirs'] at hhome
    unfold Ledger.store at hstore
    simp only [hhome] at hstore
    split at hstore
    · exact .inr (.inr ⟨_, (Except.error.inj (Prod.mk.inj hstore).1).symm⟩)
    · cases hstore
  · rw [hclean] at h
    cases h

/-- Cleaning stops at a path that cannot be removed when removing the listed paths does. -/
theorem run_of_clean_remove {file : Path} {cause : FileError} (hload : Ledger.load dir d = .ok l)
    (h : Ledger.clean dir d = (.error (.remove file cause), e)) :
    removeListed (l.listed dir) {} d = (.error (file, cause), e) := by
  rcases Ledger.clean_course dir d with
    ⟨-, hempty⟩ | ⟨l', hload', -, ⟨file', cause', e', hrun, hclean⟩ | ⟨summary', e', hrun,
      ⟨err, f, hstore, hclean⟩ | ⟨l'', f, -, hclean⟩⟩⟩
  · simp [Ledger.clean, hload, hempty l hload] at h
  · rw [hclean] at h
    cases h
    rwa [Except.ok.inj (hload.symm.trans hload')]
  · rw [hclean] at h
    cases h
    -- storing fails in other ways
    unfold Ledger.store at hstore
    split at hstore
    · cases hstore
    · simp only at hstore
      split at hstore <;> cases hstore
  · rw [hclean] at h
    cases h

/-- Some of the listed paths have been removed. Whatever is deleted then so that cleaning goes well,
it leaves what it would leave without these removals exactly when it would remove their files too.
So it would when each path leads where it led, or its file is deleted. -/
theorem clean_again_iff {front rest deleted : List Path}
    (hground : dir.isAbsolute = false → d.Grounded) (hload : Ledger.load dir d = .ok l)
    (hlisted : l.listed dir = front ++ rest)
    (hspared : ∀ p ∈ front, d.isFile p = true → d.place p ≠ d.place (ledgerPath dir))
    (hfront : removeListed front {} d = (.ok summary, e))
    (hagain : Ledger.clean dir (e.deleteAll deleted) = (.ok summary', g)) :
    ((∃ summary'' f, Ledger.clean dir (d.deleteAll deleted) = (.ok summary'', f) ∧
        ∀ m, f.node? m = g.node? m) ↔
      ∀ p ∈ front, d.isFile p = true →
        (Ledger.clean dir (d.deleteAll deleted)).2.node? (d.place p) = none) ∧
    ((∀ p ∈ front, d.isFile p = true → p.Straight dir ∨
        (d.deleteAll deleted).isFile p = true ∨ (d.deleteAll deleted).node? (d.place p) = none) →
      ∃ summary'' f, Ledger.clean dir (d.deleteAll deleted) = (.ok summary'', f) ∧
        ∀ m, f.node? m = g.node? m) := by
  obtain ⟨hremoved, -⟩ := removeListed_ok hfront
  -- deleting the same keeps the two disks apart by the files that are gone
  have hlacks := hremoved.lacks.deleteAll deleted
  have hpruned := Disk.pruned_deleteAll d deleted
  have hpruned' := Disk.pruned_deleteAll e deleted
  obtain ⟨l', -, -, hload', -⟩ := Ledger.run_of_clean_ok hagain
  have hledger' := Ledger.isFile_of_load hload'
  have hledger := hlacks.within.isFile hledger'
  have hground₁ : dir.isAbsolute = false → (d.deleteAll deleted).Grounded :=
    fun hrel => (hground hrel).pruned hpruned hledger hrel
  have hground₂ : dir.isAbsolute = false → (e.deleteAll deleted).Grounded :=
    fun hrel => ((hground hrel).mono hremoved.keepsDirs).pruned hpruned' hledger' hrel
  have hplace : (d.deleteAll deleted).place (ledgerPath dir) = d.place (ledgerPath dir) :=
    (hpruned.within.keepsDirs.place_eq _).symm
  have hapart : ∀ m, (∃ p ∈ front, d.isFile p = true ∧ d.place p = m) →
      m ≠ (d.deleteAll deleted).place (ledgerPath dir) ∧ (e.deleteAll deleted).node? m = none := by
    rintro m ⟨p, hp, hfile, rfl⟩
    exact ⟨hplace ▸ hspared p hp hfile,
      hpruned'.within.node?_eq_none (hremoved.gone p hp hfile)⟩
  have hsame := clean_same_iff hlacks hground₁ hground₂ (fun m hm => (hapart m hm).1)
    (fun m hm => (hapart m hm).2) hagain
  have hsame' : (∃ summary'' f, Ledger.clean dir (d.deleteAll deleted) = (.ok summary'', f) ∧
      ∀ m, f.node? m = g.node? m) ↔ ∀ p ∈ front, d.isFile p = true →
        (Ledger.clean dir (d.deleteAll deleted)).2.node? (d.place p) = none := by
    rw [hsame]
    constructor
    · exact fun hall p hp hfile => hall _ ⟨p, hp, hfile, rfl⟩
    · rintro hall m ⟨p, hp, hfile, rfl⟩
      exact hall p hp hfile
  refine ⟨hsame', fun hboth => hsame'.mpr fun p hp hfile => ?_⟩
  obtain ⟨l'', home, -, hready, -⟩ := (Ledger.clean_ok_iff hground₂).mp hagain
  have hready' := hready.larger hlacks
  have hload'' := hready'.load
  rw [Ledger.load_of_within hpruned.within hledger, hload, Except.ok.injEq] at hload''
  subst hload''
  refine node?_clean_of_front hpruned.within hground₁ hready' hlisted hfront ?_
    (hspared p hp hfile) (hremoved.gone p hp hfile)
  intro q hq hqFile
  rcases hboth q hq hqFile with hstraight | hstill
  · exact hstraight.isFile_or hpruned hledger hqFile
  · exact hstill

/-- Cleaning stops at a path that cannot be removed. Then the ledger is as it was, and of all files
just those are gone that paths listed before it lead to. Whatever is deleted then so that cleaning
goes well, it leaves what it would leave if the same had been deleted at first, exactly when that
removes all the files that are gone already. So it does when the paths before it step up no more
than the device directory does, or still lead to a file that was not deleted. Other failures change
nothing, unless it is the ledger that cannot be stored in the end. -/
theorem clean_resumes_iff (dir : Path) (d : Disk)
    (hground : dir.isAbsolute = false → d.Grounded) :
    (∀ err e, Ledger.clean dir d = (.error err, e) →
      e = d ∨ (∃ file cause, err = .remove file cause) ∨ ∃ cause, err = .save cause) ∧
    ∀ l file cause e, Ledger.load dir d = .ok l →
      (∀ p ∈ l.listed dir, d.isFile p = true → d.place p ≠ d.place (ledgerPath dir)) →
      Ledger.clean dir d = (.error (.remove file cause), e) →
      e.read (ledgerPath dir) = d.read (ledgerPath dir) ∧
      ∃ front rest, l.listed dir = front ++ file :: rest ∧ file ∉ front ∧
        (∀ p ∈ front, d.isFile p = true → e.node? (d.place p) = none) ∧
        (∀ m, (∀ p ∈ front, d.isFile p = true → d.place p ≠ m) → e.node? m = d.node? m) ∧
        ∀ deleted summary g, Ledger.clean dir (e.deleteAll deleted) = (.ok summary, g) →
          ((∃ summary' f, Ledger.clean dir (d.deleteAll deleted) = (.ok summary', f) ∧
              ∀ m, f.node? m = g.node? m) ↔
            ∀ p ∈ front, d.isFile p = true →
              (Ledger.clean dir (d.deleteAll deleted)).2.node? (d.place p) = none) ∧
          ((∀ p ∈ front, d.isFile p = true → p.Straight dir ∨
              (d.deleteAll deleted).isFile p = true ∨
              (d.deleteAll deleted).node? (d.place p) = none) →
            ∃ summary' f, Ledger.clean dir (d.deleteAll deleted) = (.ok summary', f) ∧
              ∀ m, f.node? m = g.node? m) := by
  refine ⟨fun err e => clean_error_cases, fun l file cause e hload hself hclean => ?_⟩
  have hrun := run_of_clean_remove hload hclean
  obtain ⟨front, rest, summary, hlisted, hfront, hdir, hremove⟩ := removeListed_error hrun
  obtain ⟨hremoved, hsettled⟩ := removeListed_ok hfront
  have hspared : ∀ p ∈ front, d.isFile p = true → d.place p ≠ d.place (ledgerPath dir) :=
    fun p hp => hself p (hlisted ▸ List.mem_append_left _ hp)
  refine ⟨?_, front, rest, hlisted, fun hmem => ?_, hremoved.gone, hremoved.kept,
    fun deleted summary' g => clean_again_iff hground hload hlisted hspared hfront⟩
  · have hkept := hremoved.kept _ hspared
    have hfile := hremoved.isFile_of_node?_eq (Ledger.isFile_of_load hload) hkept
    obtain ⟨content, hfind⟩ := Disk.find_of_isFile hfile
    rw [Disk.read_of_find hfind, Disk.read_of_find (hremoved.within.find_file hfind)]
  · exact Disk.not_removable_of_error hdir hremove (.inr (hsettled file hmem))

/-- What the ledger of `obstructed` lists. -/
def obstructedListing : Ledger :=
  ⟨⟨"/home/d"⟩, [⟨"/home/d/a"⟩, ⟨"/home/d/o/g"⟩, ⟨"/home/d/b"⟩]⟩

/-- A device directory in which a file stands where a listed path steps into a directory. -/
def obstructed : Disk where
  entries := [(["home"], .directory), (["home", "d"], .directory),
    (["home", "d", "a"], .file "a".toUTF8), (["home", "d", "b"], .file "b".toUTF8),
    (["home", "d", "o"], .file "".toUTF8),
    (["home", "d", ".avsstate"], .file obstructedListing.encode.toUTF8)]
  workingDir := ["home"]

theorem grounded_obstructed : obstructed.Grounded where
  named := by
    intro s hs
    rw [List.mem_singleton.mp hs]
    exact ⟨by decide, by decide, by decide⟩
  reached := by decide +kernel

theorem ready_obstructed : Ledger.Ready ⟨"d"⟩ obstructed obstructedListing ⟨"/home/d"⟩ where
  load := Ledger.load_of_read (by decide +kernel)
  lists := by decide
  named := by decide +kernel
  accepted := ⟨by decide +kernel, by decide, by decide⟩

theorem removeListed_obstructed : removeListed (obstructedListing.listed ⟨"d"⟩) {} obstructed =
    (.error (⟨"d/o/g"⟩, .notDirectory), obstructed.erase ["home", "d", "a"]) := by
  decide +kernel

theorem ready_obstructed_deleted : Ledger.Ready ⟨"d"⟩
    ((obstructed.erase ["home", "d", "a"]).deleteAll [⟨"d/o"⟩]) obstructedListing ⟨"/home/d"⟩ where
  load := Ledger.load_of_read (by decide +kernel)
  lists := by decide
  named := by decide +kernel
  accepted := ready_obstructed.accepted

/-- The file is deleted, and cleaning again leaves what cleaning once would. -/
theorem clean_resumes_iff_obstructed : ∃ e summary g summary' f,
    Ledger.clean ⟨"d"⟩ obstructed = (.error (.remove ⟨"d/o/g"⟩ .notDirectory), e) ∧
      Ledger.clean ⟨"d"⟩ (e.deleteAll [⟨"d/o"⟩]) = (.ok summary, g) ∧
      Ledger.clean ⟨"d"⟩ (obstructed.deleteAll [⟨"d/o"⟩]) = (.ok summary', f) ∧
      ∀ m, f.node? m = g.node? m := by
  have hclean := Ledger.clean_of_run_error ready_obstructed.load removeListed_obstructed
  obtain ⟨-, hstopped⟩ := clean_resumes_iff ⟨"d"⟩ obstructed fun _ => grounded_obstructed
  obtain ⟨-, front, rest, hlisted, -, -, -, hagain⟩ :=
    hstopped _ _ _ _ ready_obstructed.load (by decide +kernel) hclean
  have hrun : removeListed (obstructedListing.listed ⟨"d"⟩) {}
      ((obstructed.erase ["home", "d", "a"]).deleteAll [⟨"d/o"⟩]) =
      (.ok { removed := [⟨"d/b"⟩], missing := [⟨"d/a"⟩, ⟨"d/o/g"⟩] },
        ((obstructed.erase ["home", "d", "a"]).erase ["home", "d", "o"]).erase
          ["home", "d", "b"]) := by
    decide +kernel
  have hground : ((obstructed.erase ["home", "d", "a"]).deleteAll [⟨"d/o"⟩]).Grounded :=
    ⟨grounded_obstructed.named, by decide +kernel⟩
  have hclean' := (Ledger.clean_ok_iff fun _ => hground).mpr
    ⟨_, _, _, ready_obstructed_deleted, hrun, rfl⟩
  have hstraight : ∀ p ∈ obstructedListing.listed ⟨"d"⟩, ".." ∉ p.steps := by decide +kernel
  obtain ⟨summary', f, hclean'', hsame⟩ := (hagain _ _ _ hclean').2 fun p hp _ =>
    .inl (.inl (hstraight p (hlisted ▸ List.mem_append_left _ hp)))
  exact ⟨_, _, _, summary', f, hclean, hclean', hclean'', hsame⟩

/-- What the ledger of `steppedThrough` lists. -/
def steppedListing : Ledger := ⟨⟨"/d"⟩, [⟨"/x/../d/f"⟩, ⟨"/x/o/g"⟩]⟩

/-- A listed path steps into a directory and up again. In there a file is in the way of another. -/
def steppedThrough : Disk where
  entries := [(["d"], .directory), (["d", "f"], .file "f".toUTF8), (["x"], .directory),
    (["x", "o"], .file "".toUTF8), (["d", ".avsstate"], .file steppedListing.encode.toUTF8)]

theorem ready_stepped {d : Disk}
    (h : d.read (ledgerPath ⟨"/d"⟩) = .ok steppedListing.encode.toUTF8) :
    Ledger.Ready ⟨"/d"⟩ d steppedListing ⟨"/d"⟩ :=
  Ledger.ready_of_load (by decide) (Ledger.load_of_read h) (by decide)

/-- When that directory is deleted, a file that is gone already would have been left by cleaning
once. -/
theorem clean_not_resumed : ∃ e summary g summary' f,
    (∀ p ∈ steppedListing.listed ⟨"/d"⟩,
      steppedThrough.place p ≠ steppedThrough.place (ledgerPath ⟨"/d"⟩)) ∧
    Ledger.clean ⟨"/d"⟩ steppedThrough = (.error (.remove ⟨"/x/o/g"⟩ .notDirectory), e) ∧
    Ledger.clean ⟨"/d"⟩ (e.deleteAll [⟨"/x"⟩]) = (.ok summary, g) ∧
    Ledger.clean ⟨"/d"⟩ (steppedThrough.deleteAll [⟨"/x"⟩]) = (.ok summary', f) ∧
    g.node? ["d", "f"] = none ∧ f.node? ["d", "f"] = some (.file "f".toUTF8) := by
  have hstop : removeListed (steppedListing.listed ⟨"/d"⟩) {} steppedThrough =
      (.error (⟨"/x/o/g"⟩, .notDirectory), steppedThrough.erase ["d", "f"]) := by decide +kernel
  -- both paths lead nowhere once the directory is deleted
  have hresumed : removeListed (steppedListing.listed ⟨"/d"⟩) {}
      ((steppedThrough.erase ["d", "f"]).deleteAll [⟨"/x"⟩]) =
      (.ok { missing := [⟨"/x/../d/f"⟩, ⟨"/x/o/g"⟩] },
        (steppedThrough.erase ["d", "f"]).deleteAll [⟨"/x"⟩]) := by decide +kernel
  have honce : removeListed (steppedListing.listed ⟨"/d"⟩) {} (steppedThrough.deleteAll [⟨"/x"⟩]) =
      (.ok { missing := [⟨"/x/../d/f"⟩, ⟨"/x/o/g"⟩] }, steppedThrough.deleteAll [⟨"/x"⟩]) := by
    decide +kernel
  have habsolute : ∀ d : Disk, Path.isAbsolute ⟨"/d"⟩ = false → d.Grounded :=
    fun _ hrel => absurd hrel (by decide)
  exact ⟨_, _, _, _, _, by decide +kernel,
    Ledger.clean_of_run_error (ready_stepped (by decide +kernel)).load hstop,
    (Ledger.clean_ok_iff (habsolute _)).mpr
      ⟨_, _, _, ready_stepped (by decide +kernel), hresumed, rfl⟩,
    (Ledger.clean_ok_iff (habsolute _)).mpr
      ⟨_, _, _, ready_stepped (by decide +kernel), honce, rfl⟩,
    by decide +kernel, by decide +kernel⟩

end Clean

end DeviceSpec
