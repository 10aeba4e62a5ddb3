import DeviceSpec.Proofs.Check.Keep
import DeviceSpec.Proofs.Command.Again
import DeviceSpec.Proofs.Command.Prepare
import DeviceSpec.Proofs.Spec.RoundTrip

/-!
# Updating again

Updating reads the description and its overlays, checks them against what is there, and generates.

* **what it does** — it goes well when the description passes and generating goes well
  (`update_ok_iff`);
* **what it reads** — the description only depends on the files with the names of inputs
  (`SameInputs.deviceSpec`), and a ledger that lists none of these tells that the run has written
  none (`apart_of_spares`);
* **what stays** — so on a disk that has the other files the description passes again, as long as
  the sources that have to be there are there (`passes_iff_of_sameFiles`);
* **again** — then updating restores what it had left (`update_of_sameApart`), and right after
  updating nothing changes (`update_again`).
-/

namespace DeviceSpec

/-- The name of a file that describes a device: the description or an overlay. -/
def IsInputName (name : String) : Prop :=
  name = configName ∨ isOverlayName name = true ∧ '/' ∉ name.toList

/-- No listed file is one that updating reads: the description, an overlay in the directory or a
build file. -/
structure Ledger.SparesInputs (l : Ledger) (dir : Path) : Prop where
  description : ∀ f ∈ l.files, f.same (configPath dir) = false
  overlay : ∀ f ∈ l.files, ∀ name, isOverlayName name = true → '/' ∉ name.toList →
    f.same (dir.join name) = false
  buildFile : ∀ f ∈ l.files, ∀ name ∈ buildFileNames, f.fileName? ≠ some name

/-- The second disk has the directories of the first, and in one of them the same files under the
names of inputs. -/
structure Disk.SameInputs (dir : Path) (d e : Disk) : Prop where
  keepsDirs : d.KeepsDirs e
  file : ∀ name, IsInputName name → ∀ content,
    e.node? (d.place dir ++ [name]) = some (.file content) ↔
      d.node? (d.place dir ++ [name]) = some (.file content)

/-- The second disk has the directories of the first, and the same files but for the places of the
writes. -/
structure Disk.SameFilesApart (d e : Disk) (ws : List (Path × ByteArray)) : Prop where
  keepsDirs : d.KeepsDirs e
  file : ∀ l, d.lastAt l ws = none → ∀ content,
    e.node? l = some (.file content) ↔ d.node? l = some (.file content)

/-! ## What updating does -/

section
variable {dir : Path} {settings : Settings} {e : Disk} {w : World} {l : Ledger}

/-- Updating goes well when the description passes and generating goes well. -/
theorem update_ok_iff (hdir : dir.isAbsolute = true) :
    (∃ w', (update dir settings).perform w = (.ok l, w') ∧ w'.disk = e) ↔
      ∃ s : Spec, s.Passes dir settings w.disk ∧ s.GoesWell dir w.disk ∧
        l = s.newLedger dir w.disk ∧ e = s.recordDisk dir w.disk := by
  obtain ⟨w₁, hprepare, hdisk⟩ := looks_prepareUpdate hdir settings w
  have hready : ∀ ready, checked dir settings (fun s _ => (dir, s)) w.disk = .ok ready ↔
      ∃ s : Spec, s.Passes dir settings w.disk ∧ (dir, s) = ready :=
    fun ready => checked_ok_iff
  have habs : ∀ ready w', (prepareUpdate dir settings).perform w = (.ok ready, w') →
      ready.1.isAbsolute = true := by
    intro ready w' hperform
    rw [hprepare] at hperform
    obtain ⟨s, -, rfl⟩ := (hready ready).mp (Prod.mk.inj hperform).1
    exact hdir
  have hnext : ∀ (ready : Path × Spec) (l : Ledger), (do
      say ("[avs u] OK: " ++ toString l.files.length ++ " files generated")
      return l : Action Ledger).Yields l :=
    fun ready l => (Action.quiet_say _).bind_yields fun _ => Action.yields_pure l
  rw [update_eq, prepared_ok_iff habs hnext]
  constructor
  · rintro ⟨ready, w', hperform, hwell, hl, he⟩
    rw [hprepare] at hperform
    obtain ⟨hchecked, rfl⟩ := Prod.mk.inj hperform
    obtain ⟨s, hpasses, rfl⟩ := (hready ready).mp hchecked
    rw [hdisk] at hwell hl he
    exact ⟨s, hpasses, hwell, hl, he⟩
  · rintro ⟨s, hpasses, hwell, hl, he⟩
    rw [← hdisk] at hwell hl he
    refine ⟨(dir, s), w₁, ?_, hwell, hl, he⟩
    rw [hprepare, (hready (dir, s)).mpr ⟨s, hpasses, rfl⟩]

end

/-! ## What it reads -/

theorem IsInputName.isName {name : String} (h : IsInputName name) : Path.IsName name := by
  rcases h with rfl | ⟨hoverlay, hslash⟩
  · exact ⟨by decide +kernel, by decide +kernel, by decide⟩
  · exact isName_of_isOverlayName hoverlay hslash

section
variable {dir : Path} {d e : Disk} {name : String} {content : ByteArray} {l : Location}

/-- A file right below a directory. -/
theorem Disk.find_child_iff (hdir : dir.isAbsolute = true) (hname : Path.IsName name) :
    d.find (dir.join name) = .ok (l, .file content) ↔
      d.isDir dir = true ∧ dir.Holdable name ∧ l = d.place dir ++ [name] ∧
        d.node? (d.place dir ++ [name]) = some (.file content) := by
  have hup : ".." ∉ Path.steps ⟨name⟩ := by simp [hname.steps, hname.notUp.symm]
  have hholds : d.HoldsFile (d.place dir) [name] content ↔
      d.node? (d.place dir ++ [name]) = some (.file content) := by
    rw [← List.nil_append [name], Disk.holdsFile_concat_iff, List.append_nil]
    refine and_iff_right fun front hne hfront => ?_
    exact absurd (List.prefix_nil.mp hfront) hne
  rw [Disk.find_join_iff hdir hname.isAbsolute hup, hname.steps, hholds]

namespace Disk.SameInputs

/-- Under the names of inputs the same is read. -/
theorem read_iff (h : d.SameInputs dir e) (hdir : dir.isAbsolute = true)
    (hthere : d.isDir dir = true) (hname : IsInputName name) :
    e.read (dir.join name) = .ok content ↔ d.read (dir.join name) = .ok content := by
  have hfind : ∀ {f : Disk}, f.read (dir.join name) = .ok content ↔
      f.find (dir.join name) = .ok (f.place (dir.join name), .file content) :=
    ⟨Disk.find_of_read, Disk.read_of_find⟩
  have hthere' := Disk.isDir_mono h.keepsDirs hthere
  rw [hfind, hfind, Disk.find_child_iff hdir hname.isName, Disk.find_child_iff hdir hname.isName,
    h.keepsDirs.place_eq, h.keepsDirs.place_eq, h.file name hname, hthere, hthere']

/-- The description with its overlays only depends on them. -/
theorem deviceSpec (h : d.SameInputs dir e) (hdir : dir.isAbsolute = true) (hd : d.WellFormed)
    (he : e.WellFormed) {s : Spec} (hs : DeviceSpec.deviceSpec dir d = .ok s) :
    DeviceSpec.deviceSpec dir e = .ok s := by
  unfold DeviceSpec.deviceSpec at hs ⊢
  cases hload : loadSpec (configPath dir) d with
  | error err =>
    rw [hload] at hs
    cases hs
  | ok base =>
    rw [hload] at hs
    obtain ⟨text, hread, hdecode⟩ := loadDocument_ok_iff.mp hload
    have hconfig : IsInputName configName := .inl rfl
    have hthere : d.isDir dir = true :=
      ((Disk.find_child_iff hdir hconfig.isName).mp (Disk.find_of_read hread)).1
    have hload' : loadSpec (configPath dir) e = .ok base :=
      loadDocument_ok_iff.mpr ⟨text, (h.read_iff hdir hthere hconfig).mpr hread, hdecode⟩
    -- the same HALs are merged, in the same order
    have hfragments : fragments dir e = fragments dir d := by
      refine fragments_congr hd he fun name hal => ?_
      rw [isFragment_iff hd, isFragment_iff he, loadHal_ok_iff, loadHal_ok_iff, hthere,
        Disk.isDir_mono h.keepsDirs hthere]
      refine and_congr_right fun _ => and_congr_right fun hoverlay => and_congr_right fun hslash =>
        exists_congr fun text => and_congr_left fun _ => ?_
      exact h.read_iff hdir hthere (.inr ⟨hoverlay, hslash⟩)
    have hhals : (mergeOverlays base.hals dir e).hals = (mergeOverlays base.hals dir d).hals := by
      rw [(mergeOverlays_fragments he base.hals dir).1,
        (mergeOverlays_fragments hd base.hals dir).1, hfragments]
    rw [hload', ← hs]
    simp only [Except.map, Spec.withMerge, hhals]

end Disk.SameInputs

end

/-- The description of a directory without overlays is read from its document. -/
theorem deviceSpec_of_read {s : Spec} {dir : Path} {d : Disk}
    (hread : d.read (configPath dir) = .ok s.encode.toUTF8)
    (hnone : ∀ names, d.list dir = .ok names → ∀ name ∈ names, isOverlayName name = true →
      d.isFile (dir.join name) = false) : deviceSpec dir d = .ok s := by
  have hload : loadSpec (configPath dir) d = .ok s :=
    loadDocument_ok_iff.mpr ⟨s.encode, hread, s.decode_encode⟩
  have hoverlays : findOverlays dir d = [] := by
    unfold findOverlays
    cases hlist : d.list dir with
    | error err => rfl
    | ok names =>
      have hfound : ((names.filter isOverlayName).map dir.join).filter d.isFile = [] := by
        rw [List.filter_eq_nil_iff]
        intro p hp
        obtain ⟨name, hname, rfl⟩ := List.mem_map.mp hp
        obtain ⟨hmem, hoverlay⟩ := List.mem_filter.mp hname
        simp [hnone names hlist name hmem hoverlay]
      simp only [hfound, List.mergeSort_nil]
  unfold deviceSpec mergeOverlays
  rw [hload, hoverlays]
  rfl

/-! ## What is written -/

section
variable {s : Spec} {dir : Path} {settings : Settings} {d e : Disk} {w : Path × ByteArray}

/-- A file that is named like one in the directory ends in its name. -/
theorem fileName?_of_same {f : Path} {name : String} (hdir : dir.isAbsolute = true)
    (hname : Path.IsName name) (h : f.same (dir.join name) = true) : f.fileName? = some name := by
  have habs := Path.isAbsolute_join hdir name
  rw [Path.same_comm] at h
  have hsteps := (Path.same_iff_steps habs (Path.same.isAbsolute h habs)).mp h
  rw [Path.steps_join hname.isAbsolute, hname.steps] at hsteps
  exact Path.fileName?_of_steps hsteps.symm hname.notUp

/-- Listed files spare the inputs if none has the name of one. -/
theorem Ledger.sparesInputs_of_names {l : Ledger} (hdir : dir.isAbsolute = true)
    (h : ∀ f ∈ l.files, ∀ name ∈ f.fileName?, name ≠ configName ∧ isOverlayName name = false ∧
      name ∉ buildFileNames) : l.SparesInputs dir := by
  have hother : ∀ f ∈ l.files, ∀ name, IsInputName name → f.same (dir.join name) = false := by
    intro f hf name hname
    cases hsame : f.same (dir.join name) with
    | false => rfl
    | true =>
      obtain ⟨hconfig, hoverlay, -⟩ :=
        h f hf name (fileName?_of_same hdir hname.isName hsame)
      rcases hname with hname | ⟨hname, -⟩
      · exact absurd hname hconfig
      · rw [hname] at hoverlay
        cases hoverlay
  refine ⟨fun f hf => hother f hf configName (.inl rfl), ?_, ?_⟩
  · intro f hf name hoverlay hslash
    exact hother f hf name (.inr ⟨hoverlay, hslash⟩)
  · intro f hf name hname heq
    exact (h f hf name heq).2.2 hname

/-- A path that is written is named in its place. -/
theorem exists_place_of_written (hran : (s.generate dir d).Ran s dir d (s.doneItems dir d))
    {p : Path} (hp : p ∈ (s.generate dir d).paths dir) :
    ∃ here last, d.place p = here ++ [last] ∧ p.fileName? = some last := by
  obtain ⟨-, hfile⟩ := hran.of_mem_paths hp
  obtain ⟨content, hfind⟩ := Disk.find_of_isFile hfile
  obtain ⟨-, -, -, front, last, here, hsteps, hup, -, -, hplace, -⟩ := Disk.find_file_iff.mp hfind
  rw [hran.wroteAll.keepsDirs.place_eq] at hplace
  exact ⟨here, last, hplace, Path.fileName?_of_steps hsteps hup⟩

/-- Where the ledger of a run lists no input, the run has written none. -/
theorem apart_of_spares (hdir : dir.isAbsolute = true)
    (hspares : (s.newLedger dir d).SparesInputs dir) (hw : w ∈ s.recordWrites dir d) :
    (∀ name, IsInputName name → d.place w.1 ≠ d.place dir ++ [name]) ∧
      ∀ l, ∀ name ∈ buildFileNames, d.place w.1 ≠ l ++ [name] := by
  obtain ⟨hran, -⟩ := generate_ran s dir d
  rcases fst_of_mem_recordWrites hw with hpath | hledger
  · have hlisted := paths_subset_newLedger hpath
    constructor
    · intro name hname hplace
      obtain ⟨⟨name', hinside, hjoin⟩, -⟩ := hran.of_mem_paths hpath
      obtain ⟨hrel, hup⟩ := inside_of_isInsideName hinside
      rw [hjoin, Disk.place_join hrel hup, List.append_cancel_left_eq] at hplace
      -- the same place below the directory is the same path
      have hsame : w.1.same (dir.join name) = true := by
        rw [hjoin, Path.same_iff_steps (Path.isAbsolute_join hdir _) (Path.isAbsolute_join hdir _),
          Path.steps_join hrel, Path.steps_join hname.isName.isAbsolute, hplace, hname.isName.steps]
      have hother : w.1.same (dir.join name) = false := by
        rcases hname with rfl | ⟨hoverlay, hslash⟩
        · exact hspares.description _ hlisted
        · exact hspares.overlay _ hlisted name hoverlay hslash
      rw [hsame] at hother
      cases hother
    · intro l name hname hplace
      obtain ⟨here, last, hhere, hlast⟩ := exists_place_of_written hran hpath
      rw [hhere] at hplace
      obtain ⟨-, hsame⟩ := List.append_inj' hplace rfl
      rw [List.singleton_inj.mp hsame] at hlast
      exact hspares.buildFile _ hlisted name hname hlast
  · rw [hledger, Ledger.place_ledgerPath]
    constructor
    · intro name hname hplace
      have hsame : ".avsstate" = name := List.singleton_inj.mp (List.append_cancel_left hplace)
      subst hsame
      exact absurd hname (by unfold IsInputName; decide +kernel)
    · intro l name hname hplace
      obtain ⟨-, hsame⟩ := List.append_inj' hplace rfl
      rw [← List.singleton_inj.mp hsame] at hname
      exact absurd hname (by decide)

/-- Nothing is written where the inputs and the build files are. -/
theorem lastAt_of_spares (hdir : dir.isAbsolute = true)
    (hspares : (s.newLedger dir d).SparesInputs dir) :
    (∀ name, IsInputName name →
      d.lastAt (d.place dir ++ [name]) (s.recordWrites dir d) = none) ∧
    ∀ l, ∀ name ∈ buildFileNames, d.lastAt (l ++ [name]) (s.recordWrites dir d) = none := by
  constructor
  · intro name hname
    rw [Disk.lastAt_eq_none_iff]
    exact fun w hw => (apart_of_spares hdir hspares hw).1 name hname
  · intro l name hname
    rw [Disk.lastAt_eq_none_iff]
    exact fun w hw => (apart_of_spares hdir hspares hw).2 l name hname

/-! ## What stays -/

theorem Disk.WellFormed.writeItems (hd : d.WellFormed) (s : Spec) (dir : Path) (is : List Item) :
    (DeviceSpec.writeItems s dir is d).disk.WellFormed := by
  induction is generalizing d with
  | nil => exact hd
  | cons i rest ih =>
    unfold DeviceSpec.writeItems
    split
    · exact hd
    · rename_i text hcontent
      have hnamed : (writeNamed dir (i.fileName s) text d).2.WellFormed := by
        cases hinside : isInsideName (i.fileName s) with
        | false => simpa [writeNamed, hinside] using hd
        | true =>
          rw [writeNamed_disk hinside]
          exact hd.writeWithParents _ _
      split <;> rename_i hwrite <;> rw [hwrite] at hnamed
      · exact hnamed
      · exact ih hnamed

theorem Disk.WellFormed.recordDisk (hd : d.WellFormed) (s : Spec) (dir : Path) :
    (s.recordDisk dir d).WellFormed := by
  rw [recordDisk_eq]
  exact (hd.writeItems s dir s.items).store _

/-- A disk that differs from the one after the writes in their places only has the other files from
before. -/
theorem sameFilesApart_of_wroteAll {f : Disk} {ws : List (Path × ByteArray)}
    (hwrote : d.WroteAll e ws) (hsame : e.SameApart f ws) : d.SameFilesApart f ws := by
  refine ⟨hwrote.keepsDirs.trans hsame.keepsDirs, fun l hl content => ?_⟩
  rw [hsame.node? l (by rwa [Disk.lastAt_congr hwrote.keepsDirs]), hwrote.node?_file, hl]
  simp

/-- The inputs are among the other files. -/
theorem sameInputs_of_spares (hdir : dir.isAbsolute = true)
    (hspares : (s.newLedger dir d).SparesInputs dir)
    (hsame : d.SameFilesApart e (s.recordWrites dir d)) : d.SameInputs dir e := by
  obtain ⟨hinputs, -⟩ := lastAt_of_spares hdir hspares
  exact ⟨hsame.keepsDirs, fun name hname => hsame.file _ (hinputs name hname)⟩

/-- On a disk that has the other files, a description that has passed passes exactly when the
sources that have to be there are there. -/
theorem passes_iff_of_sameFiles (hdir : dir.isAbsolute = true) (hd : d.WellFormed)
    (he : e.WellFormed) (hpasses : s.Passes dir settings d)
    (hspares : (s.newLedger dir d).SparesInputs dir)
    (hsame : d.SameFilesApart e (s.recordWrites dir d)) :
    s.Passes dir settings e ↔
      ∀ source ∈ s.neededSources, (settings.surroundings dir).Provides e source := by
  obtain ⟨-, hbuildFiles⟩ := lastAt_of_spares hdir hspares
  have hkeeps : d.KeepsBuildFiles e :=
    ⟨hsame.keepsDirs, fun l name content hname hnode =>
      (hsame.file _ (hbuildFiles l name hname) content).mpr hnode⟩
  have hdescribed := (sameInputs_of_spares hdir hspares hsame).deviceSpec hdir hd he
    hpasses.described
  rw [← passed_iff_of_passed hkeeps hd hpasses.passed]
  exact ⟨fun hagain => hagain.passed, fun hpassed => ⟨hdescribed, hpassed⟩⟩

/-- Writing takes nothing away. -/
theorem Disk.WroteAll.pathExists {ws : List (Path × ByteArray)} (h : d.WroteAll e ws) {p : Path}
    (hp : d.pathExists p = true) : e.pathExists p = true := by
  rcases Disk.pathExists_iff.mp hp with hdir | hfile
  · exact Disk.pathExists_iff.mpr (.inl (Disk.isDir_mono h.keepsDirs hdir))
  · exact Disk.pathExists_iff.mpr (.inr (h.isFile_of_isFile hfile))

end

/-! ## Again -/

section
variable {s : Spec} {dir : Path} {settings : Settings} {d f : Disk}

/-- Where only the files that updating has written can have changed, updating goes well again
exactly when the sources that have to be there are there, and it restores what it had left. -/
theorem update_of_sameApart (hdir : dir.isAbsolute = true) (hd : d.WellFormed)
    (hpasses : s.Passes dir settings d) (h : s.GoesWell dir d)
    (hspares : (s.newLedger dir d).SparesInputs dir) (hf : f.WellFormed)
    (hsame : (s.recordDisk dir d).SameApart f (s.recordWrites dir d)) {w : World}
    (hw : w.disk = f) :
    ((∃ l w', (update dir settings).perform w = (.ok l, w')) ↔
      ∀ source ∈ s.neededSources, (settings.surroundings dir).Provides f source) ∧
    ∀ l w', (update dir settings).perform w = (.ok l, w') →
      l = s.newLedger dir d ∧ ∀ m, w'.disk.node? m = (s.recordDisk dir d).node? m := by
  subst hw
  obtain ⟨hwrote, -, -⟩ := recordDisk_spec (s := s) hdir d
  have hpassesIff := passes_iff_of_sameFiles hdir hd hf hpasses hspares
    (sameFilesApart_of_wroteAll hwrote hsame)
  have hcomes : s.ComesTo dir d w.disk := recordAgain hdir h hsame
  -- no other description is read there
  have hinputs : deviceSpec dir w.disk = .ok s :=
    (sameInputs_of_spares hdir hspares (sameFilesApart_of_wroteAll hwrote hsame)).deviceSpec
      hdir hd hf hpasses.described
  have honly : ∀ s' : Spec, s'.Passes dir settings w.disk → s' = s := by
    intro s' hpasses'
    have hdescribed := hpasses'.described
    rw [hinputs, Except.ok.injEq] at hdescribed
    exact hdescribed.symm
  constructor
  · rw [← hpassesIff]
    constructor
    · rintro ⟨l, w', hperform⟩
      obtain ⟨s', hpasses', -⟩ := (update_ok_iff hdir).mp ⟨w', hperform, rfl⟩
      exact honly s' hpasses' ▸ hpasses'
    · intro hagain
      obtain ⟨w', hperform, -⟩ := (update_ok_iff hdir).mpr ⟨s, hagain, hcomes.goesWell, rfl, rfl⟩
      exact ⟨_, w', hperform⟩
  · intro l w' hperform
    obtain ⟨s', hpasses', -, hl, hdisk⟩ := (update_ok_iff hdir).mp ⟨w', hperform, rfl⟩
    rw [honly s' hpasses'] at hl hdisk
    refine ⟨hl.trans hcomes.ledger, fun m => ?_⟩
    rw [hdisk, hcomes.node?]

end

/-- Updating again right after updating went well goes well too, with the same ledger, and changes
nothing, if no input is among the files that were generated. -/
theorem update_again {dir : Path} (hdir : dir.isAbsolute = true) {settings : Settings}
    {w w' : World} {l : Ledger} (hd : w.disk.WellFormed)
    (hupdate : (update dir settings).perform w = (.ok l, w')) (hspares : l.SparesInputs dir)
    {v : World} (hv : v.disk = w'.disk) :
    ∃ v', (update dir settings).perform v = (.ok l, v') ∧
      ∀ m, v'.disk.node? m = w'.disk.node? m := by
  obtain ⟨s, hpasses, hwell, rfl, hdisk⟩ := (update_ok_iff hdir).mp ⟨w', hupdate, rfl⟩
  obtain ⟨hwrote, -, -⟩ := recordDisk_spec (s := s) hdir w.disk
  -- the first update has taken no source away
  have hprovides : ∀ source ∈ s.neededSources,
      (settings.surroundings dir).Provides (s.recordDisk dir w.disk) source := by
    intro source hsource path hpath
    exact hwrote.pathExists (provides_of_passed hpasses.passed source hsource path hpath)
  obtain ⟨hiff, hrestores⟩ := update_of_sameApart hdir hd hpasses hwell hspares
    (hd.recordDisk s dir) (Disk.SameApart.refl _ _) (hv.trans hdisk)
  obtain ⟨l, v', hperform⟩ := hiff.mpr hprovides
  obtain ⟨rfl, hnode⟩ := hrestores l v' hperform
  exact ⟨v', hperform, fun m => by rw [hnode, hdisk]⟩

/-- A disk with one directory, which holds a description and other files. -/
def Spec.inDirectory (s : Spec) (others : List (String × String)) : Disk :=
  { entries := (["d"], .directory) :: (["d", "config.json"], .file s.encode.toUTF8) ::
      others.map fun file => (["d", file.1], .file file.2.toUTF8) }

/-- A description that passes in such a directory, without overlays there, is generated if its names
can be written to. -/
theorem updates_inDirectory {s : Spec} {others : List (String × String)}
    (hlist : ∃ names, (s.inDirectory others).list ⟨"/d"⟩ = .ok names ∧
      ∀ name ∈ names, isOverlayName name = false)
    (hpassed : (validate s (Settings.surroundings {} ⟨"/d"⟩) (s.inDirectory others)).passed = true)
    (hitems : ∀ i ∈ s.items, isInsideName (i.fileName s) = true ∧
      (s.inDirectory others).Writable (Path.join ⟨"/d"⟩ (i.fileName s)))
    (hledger : (s.inDirectory others).Writable (ledgerPath ⟨"/d"⟩)) :
    s.Passes ⟨"/d"⟩ {} (s.inDirectory others) ∧ s.GoesWell ⟨"/d"⟩ (s.inDirectory others) := by
  constructor
  · refine ⟨deviceSpec_of_read rfl fun names hnames name hname hoverlay => ?_, hpassed⟩
    obtain ⟨names', hnames', hnone⟩ := hlist
    rw [hnames, Except.ok.injEq] at hnames'
    rw [hnone name (hnames' ▸ hname)] at hoverlay
    cases hoverlay
  · refine (recorded_of_writable (by decide) (fun i hi => ?_) hledger).1
    obtain ⟨hinside, hwritable⟩ := hitems i hi
    exact ⟨hinside, exists_render_of_mem_items hi, hwritable⟩

set_option maxRecDepth 100000 in
/-- The bundled profile passes and is generated in a directory that holds nothing else, and what is
generated spares the inputs. -/
theorem profile_updates : (profile.inDirectory []).WellFormed ∧
    profile.Passes ⟨"/d"⟩ {} (profile.inDirectory []) ∧
      profile.GoesWell ⟨"/d"⟩ (profile.inDirectory []) ∧
      (profile.newLedger ⟨"/d"⟩ (profile.inDirectory [])).SparesInputs ⟨"/d"⟩ := by
  have hupdates : profile.Passes ⟨"/d"⟩ {} (profile.inDirectory []) ∧
      profile.GoesWell ⟨"/d"⟩ (profile.inDirectory []) :=
    updates_inDirectory ⟨["config.json"], rfl, by decide +kernel⟩ (profile_passed rfl rfl)
      (by decide +kernel) (by decide +kernel)
  refine ⟨⟨by decide +kernel, by decide +kernel, nofun⟩, hupdates.1, hupdates.2, ?_⟩
  rw [hupdates.2.newLedger]
  exact Ledger.sparesInputs_of_names (by decide) (by decide +kernel)

/-- Updating twice with the bundled profile. -/
theorem update_again_profile : ∃ l w',
    Path.isAbsolute ⟨"/d"⟩ = true ∧ (profile.inDirectory []).WellFormed ∧
      (update ⟨"/d"⟩ {}).perform { disk := profile.inDirectory [] } = (.ok l, w') ∧
      l.SparesInputs ⟨"/d"⟩ ∧
      ∃ v', (update ⟨"/d"⟩ {}).perform w' = (.ok l, v') ∧
        ∀ m, v'.disk.node? m = w'.disk.node? m := by
  have hdir : Path.isAbsolute ⟨"/d"⟩ = true := by decide
  obtain ⟨hd, hpasses, hwell, hspares⟩ := profile_updates
  obtain ⟨w', hupdate, -⟩ := (update_ok_iff (w := { disk := profile.inDirectory [] }) hdir).mpr
    ⟨profile, hpasses, hwell, rfl, rfl⟩
  exact ⟨_, w', hdir, hd, hupdate, hspares, update_again hdir hd hupdate hspares rfl⟩

end DeviceSpec
