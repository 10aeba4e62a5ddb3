import DeviceSpec.Proofs.Command.Moved

/-!
# Cleaning a device directory in another place

After a run that goes well the directory is copied or renamed as a whole, and cleaned where it is
then.

* **items** — the file of an item lies below the new directory, and the path that is listed for it
  leads there unless it is too long (`item_carried`);
* **success** — cleaning goes well exactly when no path is too long in the new place
  (`clean_relocated_ok_iff`);
* **effect** — then the files of the items are gone from the new directory, its ledger is empty, and
  nothing else has changed (`cleaned_of_relocated`).
-/

namespace DeviceSpec

/-- In the new directory, neither the path of the ledger nor that of a file is too long. -/
structure Spec.ShortIn (s : Spec) (old : Path) (d₀ : Disk) (new : Path) : Prop where
  ledger : (ledgerPath new).text.utf8ByteSize ≤ Disk.longestPath
  files : ∀ p ∈ (s.generate old d₀).paths old,
    (rebase old new p).text.utf8ByteSize ≤ Disk.longestPath

/-- The files of the items, which were there, are gone; the ledger is empty; and all else is as it
was. -/
structure Spec.Cleaned (s : Spec) (dir : Path) (d e : Disk) : Prop where
  gone : ∀ i ∈ s.items, i.place s dir d ≠ d.place (ledgerPath dir) →
    (∃ content, d.node? (i.place s dir d) = some (.file content)) ∧
      e.node? (i.place s dir d) = none
  kept : ∀ l, l ≠ d.place (ledgerPath dir) → (∀ i ∈ s.items, i.place s dir d ≠ l) →
    e.node? l = d.node? l
  ledger : Ledger.load dir e = .ok ⟨dir, []⟩

/-! ## Items -/

section Relocated

variable {s : Spec} {old new : Path} {d₀ d : Disk} (hold : old.isAbsolute = true)
  (hnew : new.isAbsolute = true)
  (hcarried : (s.recordDisk old d₀).Carried d (d.place old) (d.place new))
  (hthere : d.isDir new = true)

include hold hnew hcarried hthere

/-- The file of an item lies below the new directory. The path that is listed for it leads there,
if it is short enough. -/
theorem item_carried {i : Item} (hi : i ∈ s.doneItems old d₀) :
    d.place (rebase old new (old.join (i.fileName s))) = i.place s new d ∧
      (rebase old new (old.join (i.fileName s))).isAbsolute = true ∧
      d.place new <+: i.place s new d ∧
      (∃ content, d.node? (i.place s new d) = some (.file content)) ∧
      ((rebase old new (old.join (i.fileName s))).text.utf8ByteSize ≤ Disk.longestPath →
        d.isFile (rebase old new (old.join (i.fileName s))) = true) := by
  obtain ⟨hran, -⟩ := generate_ran s old d₀
  obtain ⟨hrel, hup⟩ := inside_of_isInsideName (hran.inside i hi)
  obtain ⟨hfile, -⟩ := listed_of_mem_paths hold (hran.mem_paths_iff_item.mpr ⟨i, hi, rfl⟩)
  obtain ⟨content, hfind⟩ := Disk.find_of_isFile hfile
  obtain ⟨-, hholdable, -, hholds⟩ := (Disk.find_join_iff hold hrel hup).mp hfind
  obtain ⟨front, last, hsteps⟩ := Path.steps_of_named hholdable.named
  obtain ⟨rest, hbelow, hrebase, hrestRel, hrestSteps, hnamed⟩ :=
    rebase_below new hold (Path.isAbsolute_join hold _) (by simp [hsteps]) (Path.steps_join hrel)
  have hrestUp : ".." ∉ Path.steps ⟨rest⟩ := by rwa [hrestSteps]
  have hplace : i.place s new d = d.place new ++ Path.steps ⟨i.fileName s⟩ :=
    Disk.place_join hrel hup
  rw [hrebase]
  refine ⟨?_, Path.isAbsolute_join hnew rest, ?_, ⟨content, ?_⟩, fun hshort => ?_⟩
  · rw [hplace, Disk.place_join hrestRel hrestUp, hrestSteps]
  · rw [hplace]
    exact List.prefix_append _ _
  · have hnode := hholds.file
    rw [Disk.place_of_isAbsolute hold, ← Disk.place_of_isAbsolute hold d] at hnode
    rw [hplace, hcarried.inside, hnode]
  · -- what is left of the name is part of it, so only the length of the path is new
    have hsub := Path.sublist_of_below?_join hold hrel hbelow
    obtain ⟨-, hnul⟩ := Path.accepted_of_join hold hrel hholdable.accepted
    obtain ⟨haccepted, -⟩ := Disk.isDir_iff.mp hthere
    rw [Path.getLast?_segments_join hrestRel] at hnamed
    have hholdable' : new.Holdable rest :=
      ⟨Path.accepted_join haccepted hrestRel (fun hmem => hnul (hsub.subset hmem)) hshort,
        hnamed, by rw [hrestSteps]; exact hholdable.short⟩
    exact Disk.isFile_of_find
      (hcarried.find_join hold hnew hthere hrel hup hrestRel hrestSteps hholdable' hfind)

/-! ## Success -/

/-- The ledger of a run that went well can be fetched, unless its path is too long, and then lists
the files of the items. -/
theorem load_relocated (hok : (s.generate old d₀).failure = none) (hrecord : s.Records old d₀)
    (hshort : (ledgerPath new).text.utf8ByteSize ≤ Disk.longestPath) :
    Ledger.load new d = .ok ⟨old, (s.generate old d₀).paths old⟩ := by
  obtain ⟨-, hrecords, -⟩ := recordDisk_spec (s := s) hold d₀
  obtain ⟨haccepted, -⟩ := Disk.isDir_iff.mp hthere
  rw [← newLedger_of_ok hok]
  exact load_of_carried hold hnew hcarried hthere
    (Path.accepted_join haccepted Ledger.isAbsolute_ledgerName (by decide) hshort)
    (hrecords hrecord)

/-- Cleaning goes well exactly when no path is too long. -/
theorem clean_relocated_ok_iff (hok : (s.generate old d₀).failure = none)
    (hrecord : s.Records old d₀) :
    (∃ summary f, Ledger.clean new d = (.ok summary, f)) ↔ s.ShortIn old d₀ new := by
  obtain ⟨hran, hall⟩ := generate_ran s old d₀
  constructor
  · rintro ⟨summary, f, hclean⟩
    obtain ⟨l, e, hl, hrun, -⟩ := Ledger.clean_ok hnew hclean
    obtain ⟨content, hfind⟩ := Disk.find_of_isFile (Ledger.isFile_of_load hl)
    have hledger := (Disk.find_file_iff.mp hfind).1.short
    have hload := load_relocated hold hnew hcarried hthere hok hrecord hledger
    rw [hl, Except.ok.injEq] at hload
    subst hload
    obtain ⟨-, hsettled⟩ := removeListed_ok hrun
    refine ⟨hledger, fun p hp => ?_⟩
    obtain ⟨i, hi, rfl⟩ := hran.mem_paths_iff_item.mp hp
    obtain ⟨-, habs, -⟩ := item_carried hold hnew hcarried hthere hi
    exact ((hsettled _ (List.mem_map_of_mem hp)).accepted habs).short
  · rintro ⟨hledger, hfiles⟩
    have hload := load_relocated hold hnew hcarried hthere hok hrecord hledger
    have hne := newLedger_files_ne_nil hok
    rw [newLedger_of_ok hok] at hne
    refine Ledger.clean_ok_of_removable hnew hload hne fun q hq => ?_
    obtain ⟨p, hp, rfl⟩ := List.mem_map.mp hq
    obtain ⟨i, hi, rfl⟩ := hran.mem_paths_iff_item.mp hp
    obtain ⟨-, -, -, -, hfile⟩ := item_carried hold hnew hcarried hthere hi
    exact .inl (hfile (hfiles _ hp))

/-! ## Effect -/

/-- When cleaning goes well, it removes the files of the items. -/
theorem cleaned_of_relocated (hok : (s.generate old d₀).failure = none)
    (hrecord : s.Records old d₀) {summary : CleanSummary} {f : Disk}
    (hclean : Ledger.clean new d = (.ok summary, f)) : s.Cleaned new d f := by
  obtain ⟨hran, hall⟩ := generate_ran s old d₀
  obtain ⟨hledger, hfiles⟩ := (clean_relocated_ok_iff hold hnew hcarried hthere hok hrecord).mp
    ⟨summary, f, hclean⟩
  have hload := load_relocated hold hnew hcarried hthere hok hrecord hledger
  obtain ⟨l, e, hl, hrun, -, hempty, hnode⟩ := Ledger.clean_ok hnew hclean
  rw [hload, Except.ok.injEq] at hl
  subst hl
  obtain ⟨hremoved, -⟩ := removeListed_ok hrun
  have hpath := fun i : Item => hran.mem_paths_iff_item (p := old.join (i.fileName s))
  rw [hall hok] at hpath
  have hitem := fun i hi => item_carried hold hnew hcarried hthere (i := i) (hall hok ▸ hi)
  refine ⟨fun i hi hother => ?_, fun m hm hnone => ?_, hempty⟩
  · obtain ⟨hplace, -, -, hbefore, hfile⟩ := hitem i hi
    have hmem := (hpath i).mpr ⟨i, hi, rfl⟩
    refine ⟨hbefore, ?_⟩
    rw [hnode, if_neg hother, ← hplace]
    exact hremoved.gone _ (List.mem_map_of_mem hmem) (hfile (hfiles _ hmem))
  · rw [hnode, if_neg hm]
    refine hremoved.kept m fun q hq _ hqm => ?_
    obtain ⟨p, hp, rfl⟩ := List.mem_map.mp hq
    obtain ⟨i, hi, rfl⟩ := hran.mem_paths_iff_item.mp hp
    rw [hall hok] at hi
    obtain ⟨hplace, -⟩ := hitem i hi
    exact hnone i hi (hplace.symm.trans hqm)

end Relocated

/-- A run goes well, and its directory is copied or renamed. Cleaning the directory in the new place
goes well exactly when no path is too long there. Then it removes the files of the items from there
and leaves an empty ledger; outside nothing changes, so a copied directory keeps all it had; and
there is nothing left to clean. -/
theorem clean_relocated {s : Spec} {old new : Path} {d₀ d : Disk} (hold : old.isAbsolute = true)
    (hnew : new.isAbsolute = true)
    (hok : ∃ l, ((generateAndRecord s old).perform { disk := d₀ }).1 = .ok l)
    (hmoved : (s.recordDisk old d₀).Copied d (d.place old) (d.place new) ∨
      (s.recordDisk old d₀).Renamed d (d.place old) (d.place new))
    (hapart : ¬ d.place old <+: d.place new ∧ ¬ d.place new <+: d.place old)
    (hthere : d.isDir new = true) :
    ((∃ summary w, (clean new).perform { disk := d } = (.ok summary, w)) ↔
      s.ShortIn old d₀ new) ∧
    ∀ summary w, (clean new).perform { disk := d } = (.ok summary, w) →
      s.Cleaned new d w.disk ∧
      (∀ l, ¬ d.place new <+: l → w.disk.node? l = d.node? l) ∧
      ((s.recordDisk old d₀).Copied d (d.place old) (d.place new) → ∀ names,
        w.disk.node? (d.place old ++ names) = (s.recordDisk old d₀).node? (d.place old ++ names)) ∧
      ∀ w', w'.disk = w.disk → ((clean new).perform w').1 = .error (.ledger (.noLedger new)) := by
  obtain ⟨hfailure, hrecord⟩ := (perform_generateAndRecord s old { disk := d₀ }).2.mp hok
  simp only at hfailure hrecord
  have hcarried : (s.recordDisk old d₀).Carried d (d.place old) (d.place new) := by
    rcases hmoved with hcopied | hrenamed
    · exact hcopied.toCarried
    · exact hrenamed.toCarried
  refine ⟨(clean_goes_well_iff hnew).symm.trans
    (clean_relocated_ok_iff hold hnew hcarried hthere hfailure hrecord), fun summary w hclean => ?_⟩
  have hrun := (perform_clean_ok hnew).mpr ⟨w, hclean, rfl⟩
  have hcleaned := cleaned_of_relocated hold hnew hcarried hthere hfailure hrecord hrun
  have houtside : ∀ l, ¬ d.place new <+: l → w.disk.node? l = d.node? l := by
    intro l hl
    obtain ⟨-, hall⟩ := generate_ran s old d₀
    refine hcleaned.kept l ?_ fun i hi hil => ?_
    · rintro rfl
      rw [Ledger.place_ledgerPath] at hl
      exact hl (List.prefix_append _ _)
    · rw [← hall hfailure] at hi
      obtain ⟨-, -, hbelow, -⟩ := item_carried hold hnew hcarried hthere hi
      exact hl (hil ▸ hbelow)
  refine ⟨hcleaned, houtside, fun hcopied names => ?_, fun w' hw' => ?_⟩
  · have hout := Disk.not_prefix_append hapart.1 hapart.2 names
    rw [houtside _ hout, hcopied.outside _ hout]
  · have hload := hcleaned.ledger
    rw [← hw'] at hload
    rw [(perform_clean hnew w').2, Ledger.clean_of_load_empty hload]
    rfl

/-- The bundled profile, generated in one directory that is then moved. -/
def movedDirectory : Disk := (profile.recordDisk ⟨"/d"⟩ oneDirectory).relocate ["d"] ["e"]

set_option maxRecDepth 100000 in
/-- Moving the directory leads there. -/
theorem move_profile :
    (profile.recordDisk ⟨"/d"⟩ oneDirectory).move ⟨"/d"⟩ ⟨"/e"⟩ = .ok movedDirectory := by
  have hgoes : ((profile.recordDisk ⟨"/d"⟩ oneDirectory).move ⟨"/d"⟩ ⟨"/e"⟩).isOk = true := by
    decide +kernel
  cases hmove : (profile.recordDisk ⟨"/d"⟩ oneDirectory).move ⟨"/d"⟩ ⟨"/e"⟩ with
  | error e =>
    rw [hmove] at hgoes
    cases hgoes
  | ok e =>
    obtain ⟨hd, he⟩ := place_bothDirectories (profile.recordDisk ⟨"/d"⟩ oneDirectory)
    rcases Disk.move_ok hmove with ⟨hsame, -⟩ | rfl
    · rw [hd, he] at hsame
      exact absurd hsame (by decide)
    · rw [hd, he]
      rfl

theorem renamed_movedDirectory : (profile.recordDisk ⟨"/d"⟩ oneDirectory).Renamed movedDirectory
    (movedDirectory.place ⟨"/d"⟩) (movedDirectory.place ⟨"/e"⟩) := by
  obtain ⟨hsource, htarget⟩ := apart_bothDirectories (profile.recordDisk ⟨"/d"⟩ oneDirectory)
  have hrenamed := Disk.renamed_of_move move_profile hsource htarget
  obtain ⟨hd, he⟩ := place_bothDirectories (profile.recordDisk ⟨"/d"⟩ oneDirectory)
  rw [hd, he] at hrenamed
  obtain ⟨hd, he⟩ := place_bothDirectories movedDirectory
  rwa [hd, he]

set_option maxRecDepth 100000 in
theorem shortIn_profile : profile.ShortIn ⟨"/d"⟩ oneDirectory ⟨"/e"⟩ :=
  ⟨by decide +kernel, by decide +kernel⟩

set_option maxRecDepth 100000 in
/-- The bundled profile, generated in one directory. Cleaning goes well in a copy of the directory,
and in the directory once it has been moved. -/
theorem clean_relocated_profile :
    Path.isAbsolute ⟨"/d"⟩ = true ∧ Path.isAbsolute ⟨"/e"⟩ = true ∧
      (∃ l, ((generateAndRecord profile ⟨"/d"⟩).perform { disk := oneDirectory }).1 = .ok l) ∧
      ((profile.recordDisk ⟨"/d"⟩ oneDirectory).Copied copiedDirectory
          (copiedDirectory.place ⟨"/d"⟩) (copiedDirectory.place ⟨"/e"⟩) ∧
        copiedDirectory.isDir ⟨"/e"⟩ = true ∧
        ∃ summary w, (clean ⟨"/e"⟩).perform { disk := copiedDirectory } = (.ok summary, w) ∧
          profile.Cleaned ⟨"/e"⟩ copiedDirectory w.disk) ∧
      (profile.recordDisk ⟨"/d"⟩ oneDirectory).move ⟨"/d"⟩ ⟨"/e"⟩ = .ok movedDirectory ∧
        movedDirectory.isDir ⟨"/e"⟩ = true ∧
        ∃ summary w, (clean ⟨"/e"⟩).perform { disk := movedDirectory } = (.ok summary, w) ∧
          profile.Cleaned ⟨"/e"⟩ movedDirectory w.disk := by
  have hold : Path.isAbsolute ⟨"/d"⟩ = true := by decide
  have hnew : Path.isAbsolute ⟨"/e"⟩ = true := by decide
  have hok := (perform_generateAndRecord profile ⟨"/d"⟩ { disk := oneDirectory }).2.mpr
    ⟨profile_generates, profile_records⟩
  refine ⟨hold, hnew, hok, ?_, move_profile, ?_⟩
  · obtain ⟨hthere, -⟩ := copiedDirectory_holds
    obtain ⟨hiff, heffect⟩ := clean_relocated hold hnew hok (.inl copied_copiedDirectory)
      (apart_bothDirectories _) hthere
    obtain ⟨summary, w, hclean⟩ := hiff.mpr shortIn_profile
    exact ⟨copied_copiedDirectory, hthere, summary, w, hclean, (heffect summary w hclean).1⟩
  · have hthere : movedDirectory.isDir ⟨"/e"⟩ = true := by decide +kernel
    obtain ⟨hiff, heffect⟩ := clean_relocated hold hnew hok (.inr renamed_movedDirectory)
      (apart_bothDirectories _) hthere
    obtain ⟨summary, w, hclean⟩ := hiff.mpr shortIn_profile
    exact ⟨hthere, summary, w, hclean, (heffect summary w hclean).1⟩

/-! ## A path that is too long -/

/-- A directory below the root is found behind any number of slashes, as long as the path is not too
long. -/
theorem isDir_slashes {d : Disk} {name : String} (hname : Path.steps ⟨name⟩ = [name])
    (hnul : '\x00' ∉ name.toList) (hup : name ≠ "..")
    (hshort : name.utf8ByteSize ≤ Disk.longestName) (hd : d.node? [name] = some .directory) {n : Nat}
    (hn : n + 1 + name.utf8ByteSize ≤ Disk.longestPath) :
    d.isDir ⟨slashes (n + 1) ++ name⟩ = true ∧ d.place ⟨slashes (n + 1) ++ name⟩ = [name] := by
  have habs := isAbsolute_slashes n name
  have hsteps := (steps_slashes (n + 1) name).trans hname
  have hdot : name ≠ "." := by
    rintro rfl
    cases hname
  have hplace : d.place ⟨slashes (n + 1) ++ name⟩ = [name] := by
    rw [Disk.place_of_isAbsolute habs, hsteps]
    simp [walk, hup]
  have haccepted : Path.Accepted ⟨slashes (n + 1) ++ name⟩ := by
    refine ⟨?_, Path.text_ne_empty_of_isAbsolute habs, ?_⟩
    · simp only [String.toList_append, List.mem_append, not_or]
      exact ⟨nul_not_mem_slashes _, hnul⟩
    · simp only [String.utf8ByteSize_append, byteSize_slashes]
      exact hn
  have horigin : d.origin ⟨slashes (n + 1) ++ name⟩ = [] := by simp [Disk.origin, habs]
  refine ⟨Disk.isDir_iff.mpr ⟨haccepted, ?_, ?_⟩, hplace⟩
  · rw [horigin]
    rfl
  · rw [hplace, hsteps, horigin]
    unfold Disk.enterAll
    rw [(Disk.enter_name_iff hdot hup).mpr ⟨hshort, hd, rfl⟩]
    rfl

/-- The copy cannot be cleaned under a path that only has room for the ledger. -/
theorem clean_relocated_too_long :
    (∃ l, ((generateAndRecord profile ⟨"/d"⟩).perform { disk := oneDirectory }).1 = .ok l) ∧
      (profile.recordDisk ⟨"/d"⟩ oneDirectory).Copied copiedDirectory
        (copiedDirectory.place ⟨"/d"⟩) (copiedDirectory.place ⟨slashes 4082 ++ "e"⟩) ∧
      copiedDirectory.isDir ⟨slashes 4082 ++ "e"⟩ = true ∧
      ¬ ∃ summary w, (clean ⟨slashes 4082 ++ "e"⟩).perform { disk := copiedDirectory } =
        (.ok summary, w) := by
  obtain ⟨-, hplace⟩ := place_bothDirectories copiedDirectory
  have hold : Path.isAbsolute ⟨"/d"⟩ = true := by decide
  have hnew := isAbsolute_slashes 4081 "e"
  have hok := (perform_generateAndRecord profile ⟨"/d"⟩ { disk := oneDirectory }).2.mpr
    ⟨profile_generates, profile_records⟩
  have hnode : copiedDirectory.node? ["e"] = some .directory := by decide +kernel
  obtain ⟨hthere, hsame⟩ := isDir_slashes (n := 4081) (by decide) (by decide) (by decide)
    (by decide) hnode (by decide)
  have hcopied := copied_copiedDirectory
  rw [hplace, ← hsame] at hcopied
  refine ⟨hok, hcopied, hthere, fun hclean => ?_⟩
  rw [← clean_goes_well_iff hnew, clean_relocated_ok_iff hold hnew hcopied.toCarried hthere
    profile_generates profile_records] at hclean
  have hbelow : Path.below? ⟨"/d/BoardConfig.mk"⟩ ⟨"/d"⟩ = some "BoardConfig.mk" := by
    decide +kernel
  have hfile : Path.isAbsolute ⟨"BoardConfig.mk"⟩ = false := by decide
  have hsizes : "e".utf8ByteSize = 1 ∧ "BoardConfig.mk".utf8ByteSize = 14 := by decide
  -- the slashes and the name of the file are too long together
  have hlong := hclean.files _ boardConfig_mem_paths
  rw [rebase, hbelow] at hlong
  simp only [Path.text_join hfile, String.utf8ByteSize_append, byteSize_slashes, hsizes.1, hsizes.2,
    Disk.longestPath] at hlong
  omega

end DeviceSpec
