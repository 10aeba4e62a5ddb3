import DeviceSpec.Proofs.Command.Update

/-!
# Updating after cleaning

Cleaning after an update that went well takes away what the run has written, and nothing that
updating reads, except that a source of the description may be among the generated files.

* **what is left** — directories, the other files and an empty ledger (`sameApart_of_clean`);
* **sources** — the sources that were there are still there exactly when none is a file that was
  generated (`provides_clean_iff`);
* **after cleaning** — so updating goes well again exactly when no source that has to be there is
  such a file, and then everything is restored (`update_after_clean`);
* **what fails** — a source that was there before and was written over is gone
  (`cleaned_directory_refused`).
-/

namespace DeviceSpec

/-- No source file that has to be there is one of the listed files, other than the ledger. -/
def Ledger.SparesSources (l : Ledger) (s : Spec) (env : Surroundings) (d : Disk) : Prop :=
  ∀ source ∈ s.neededSources, ∀ p, env.resolve source = some p → d.isFile p = true →
    ∀ f ∈ l.files, d.place f = d.place p → d.place p = d.place (ledgerPath env.dir)

section
variable {s : Spec} {dir : Path} {settings : Settings} {d c : Disk} {summary : CleanSummary}

/-! ## What is left -/

/-- What is listed after a run that went well is what it has written. -/
theorem listed_of_goesWell (hdir : dir.isAbsolute = true) (h : s.GoesWell dir d) {q : Path}
    (hq : q ∈ (s.newLedger dir d).listed dir) :
    ∃ f ∈ (s.newLedger dir d).files, d.place q = d.place f := by
  rw [newLedger_listed] at hq
  obtain ⟨f, hf, rfl⟩ := List.mem_map.mp hq
  have hpath : f ∈ (s.generate dir d).paths dir := by
    rw [newLedger_of_ok h.generates] at hf
    exact hf
  obtain ⟨-, -, -, hplace, -⟩ := listed_of_mem_paths hdir hpath
  exact ⟨f, hf, hplace⟩

/-- All listed files have been written, and the ledger. -/
theorem exists_write (h : s.GoesWell dir d) {f : Path}
    (hf : f ∈ (s.newLedger dir d).files ∨ f = ledgerPath dir) :
    ∃ content, (f, content) ∈ s.recordWrites dir d := by
  rw [h.recordWrites]
  rcases hf with hf | rfl
  · rw [h.newLedger] at hf
    obtain ⟨i, hi, rfl⟩ := List.mem_map.mp hf
    obtain ⟨text, hrender⟩ := exists_render_of_mem_items hi
    exact ⟨_, List.mem_append_left _ (mem_writes.mpr ⟨i, hi, text, hrender, rfl⟩)⟩
  · exact ⟨_, List.mem_append_right _ (List.mem_singleton_self _)⟩

/-- Cleaning after a run that went well leaves everything but the files that were written. -/
theorem sameApart_of_clean (hdir : dir.isAbsolute = true) (h : s.GoesWell dir d)
    (hclean : Ledger.clean dir (s.recordDisk dir d) = (.ok summary, c)) :
    (s.recordDisk dir d).SameApart c (s.recordWrites dir d) := by
  obtain ⟨hwrote, hrecords, -⟩ := recordDisk_spec (s := s) hdir d
  obtain ⟨hkeeps, hback⟩ := Ledger.keepsDirs_of_clean hdir hclean
  refine ⟨hkeeps, hback, fun l hl => ?_⟩
  rw [Disk.lastAt_congr hwrote.keepsDirs, Disk.lastAt_eq_none_iff] at hl
  have hother : ∀ f, f ∈ (s.newLedger dir d).files ∨ f = ledgerPath dir → d.place f ≠ l := by
    intro f hf
    obtain ⟨content, hw⟩ := exists_write h hf
    exact hl (f, content) hw
  refine (Ledger.node?_of_clean_iff hdir hclean (hrecords h.records) ?_).mpr ?_
  · rw [hwrote.keepsDirs.place_eq]
    exact (hother _ (.inr rfl)).symm
  · intro q hq _
    obtain ⟨f, hf, hplace⟩ := listed_of_goesWell hdir h hq
    rw [hwrote.keepsDirs.place_eq, hplace]
    exact hother f (.inl hf)

/-! ## Sources -/

/-- A path that led somewhere still does exactly when it does not lead to a listed file, or leads to
the ledger. -/
theorem pathExists_clean_iff (hdir : dir.isAbsolute = true) (h : s.GoesWell dir d)
    (hclean : Ledger.clean dir (s.recordDisk dir d) = (.ok summary, c)) {p : Path}
    (hp : d.pathExists p = true) :
    c.pathExists p = true ↔ (d.isFile p = true → ∀ f ∈ (s.newLedger dir d).files,
      d.place f = d.place p → d.place p = d.place (ledgerPath dir)) := by
  obtain ⟨hwrote, hrecords, -⟩ := recordDisk_spec (s := s) hdir d
  obtain ⟨hkeeps, hback⟩ := Ledger.keepsDirs_of_clean hdir hclean
  rcases Disk.pathExists_iff.mp hp with hisDir | hfile
  · have hstays := Disk.isDir_mono hkeeps (Disk.isDir_mono hwrote.keepsDirs hisDir)
    refine iff_of_true (Disk.pathExists_iff.mpr (.inl hstays)) fun hfile => ?_
    rw [Disk.isFile_of_isDir hisDir] at hfile
    cases hfile
  · have hfile' := hwrote.isFile_of_isFile hfile
    have hkept : c.pathExists p = true ↔ c.isFile p = true := by
      rw [Disk.pathExists_iff]
      refine or_iff_right fun hisDir => ?_
      rw [Disk.isFile_of_isDir (Disk.isDir_mono hback hisDir)] at hfile'
      cases hfile'
    rw [hkept, Ledger.isFile_of_clean_iff hdir hclean (hrecords h.records)]
    simp only [hwrote.keepsDirs.place_eq, hfile, hfile', true_and, true_imp_iff]
    constructor
    · rintro (hledger | hspared) f hf hplace
      · exact hledger
      · have hpath : f ∈ (s.generate dir d).paths dir := by
          rw [newLedger_of_ok h.generates] at hf
          exact hf
        obtain ⟨-, hlisted, hthere, hsame, -⟩ := listed_of_mem_paths hdir hpath
        exact absurd (hsame.trans hplace) (hspared _ hlisted hthere)
    · intro hspared
      by_cases hledger : d.place p = d.place (ledgerPath dir)
      · exact .inl hledger
      · refine .inr fun q hq _ hplace => hledger ?_
        obtain ⟨f, hf, hsame⟩ := listed_of_goesWell hdir h hq
        exact hspared f hf (hsame.symm.trans hplace)

/-- After cleaning, the sources that have to be there are there exactly when none of those that were
files was generated. -/
theorem provides_clean_iff (hdir : dir.isAbsolute = true) (hpasses : s.Passes dir settings d)
    (h : s.GoesWell dir d)
    (hclean : Ledger.clean dir (s.recordDisk dir d) = (.ok summary, c)) :
    (∀ source ∈ s.neededSources, (settings.surroundings dir).Provides c source) ↔
      (s.newLedger dir d).SparesSources s (settings.surroundings dir) d := by
  have hprovides := provides_of_passed hpasses.passed
  refine forall₂_congr fun source hsource => forall₂_congr fun p hp => ?_
  exact pathExists_clean_iff hdir h hclean (hprovides source hsource p hp)

/-! ## After cleaning -/

/-- After cleaning, updating goes well exactly when no source file that has to be there was
generated, and it restores what it had left. -/
theorem update_of_cleaned (hdir : dir.isAbsolute = true) (hd : d.WellFormed)
    (hpasses : s.Passes dir settings d) (h : s.GoesWell dir d)
    (hspares : (s.newLedger dir d).SparesInputs dir)
    (hclean : Ledger.clean dir (s.recordDisk dir d) = (.ok summary, c)) {w : World}
    (hw : w.disk = c) :
    ((∃ l w', (update dir settings).perform w = (.ok l, w')) ↔
      (s.newLedger dir d).SparesSources s (settings.surroundings dir) d) ∧
    ∀ l w', (update dir settings).perform w = (.ok l, w') →
      l = s.newLedger dir d ∧ ∀ m, w'.disk.node? m = (s.recordDisk dir d).node? m := by
  have hc : c.WellFormed := by
    have hcleaned := (hd.recordDisk s dir).clean dir
    rwa [hclean] at hcleaned
  rw [← provides_clean_iff hdir hpasses h hclean]
  exact update_of_sameApart hdir hd hpasses h hspares hc (sameApart_of_clean hdir h hclean) hw

end

/-- When updating and then cleaning went well, and no input is among the files that were generated,
updating goes well again exactly when no source file that has to be there is among them either. It
then answers with the same ledger and restores everything. -/
theorem update_after_clean {dir : Path} (hdir : dir.isAbsolute = true) {settings : Settings}
    {w w' : World} {l : Ledger} (hd : w.disk.WellFormed)
    (hupdate : (update dir settings).perform w = (.ok l, w')) (hspares : l.SparesInputs dir)
    {v v' : World} (hv : v.disk = w'.disk) {summary : CleanSummary}
    (hclean : (clean dir).perform v = (.ok summary, v')) {u : World} (hu : u.disk = v'.disk) :
    ((∃ l' u', (update dir settings).perform u = (.ok l', u')) ↔
      ∀ s, deviceSpec dir w.disk = .ok s →
        l.SparesSources s (settings.surroundings dir) w.disk) ∧
    ∀ l' u', (update dir settings).perform u = (.ok l', u') →
      l' = l ∧ ∀ m, u'.disk.node? m = w'.disk.node? m := by
  obtain ⟨s, hpasses, hwell, rfl, hdisk⟩ := (update_ok_iff hdir).mp ⟨w', hupdate, rfl⟩
  have hrun := clean_of_perform hdir hclean
  rw [hv, hdisk] at hrun
  have hdescribed : (∀ s', deviceSpec dir w.disk = .ok s' →
      (s.newLedger dir w.disk).SparesSources s' (settings.surroundings dir) w.disk) ↔
        (s.newLedger dir w.disk).SparesSources s (settings.surroundings dir) w.disk := by
    rw [hpasses.described]
    simp only [Except.ok.injEq, forall_eq']
  rw [hdescribed, hdisk]
  exact update_of_cleaned hdir hd hpasses hwell hspares hrun hu

/-- Where the description passes and is generated, updating and then cleaning go well. -/
theorem exists_update_clean {s : Spec} {dir : Path} {settings : Settings} {d : Disk}
    (hdir : dir.isAbsolute = true) (hpasses : s.Passes dir settings d) (h : s.GoesWell dir d) :
    ∃ w' summary v', (update dir settings).perform { disk := d } = (.ok (s.newLedger dir d), w') ∧
      (clean dir).perform { disk := w'.disk } = (.ok summary, v') ∧
      Ledger.clean dir (s.recordDisk dir d) = (.ok summary, v'.disk) := by
  have hruns := (update_ok_iff (w := { disk := d }) (l := s.newLedger dir d)
    (e := s.recordDisk dir d) hdir).mpr ⟨s, hpasses, h, rfl, rfl⟩
  obtain ⟨w', hupdate, hdisk⟩ := hruns
  obtain ⟨summary, f, hrun⟩ := clean_recordDisk_of_ok hdir h.generates h.records
  obtain ⟨v', hclean, rfl⟩ := (perform_clean_ok hdir).mp hrun
  rw [← hdisk] at hclean
  exact ⟨w', summary, v', hupdate, hclean, hrun⟩

/-- The bundled profile is restored: none of its sources lies in the directory. -/
theorem update_after_clean_profile : ∃ l w' summary v',
    Path.isAbsolute ⟨"/d"⟩ = true ∧ (profile.inDirectory []).WellFormed ∧
      (update ⟨"/d"⟩ {}).perform { disk := profile.inDirectory [] } = (.ok l, w') ∧
      l.SparesInputs ⟨"/d"⟩ ∧
      (clean ⟨"/d"⟩).perform { disk := w'.disk } = (.ok summary, v') ∧
      ∃ u', (update ⟨"/d"⟩ {}).perform v' = (.ok l, u') ∧
        ∀ m, u'.disk.node? m = w'.disk.node? m := by
  have hdir : Path.isAbsolute ⟨"/d"⟩ = true := by decide
  obtain ⟨hd, hpasses, hwell, hspares⟩ := profile_updates
  obtain ⟨w', summary, v', hupdate, hclean, -⟩ := exists_update_clean hdir hpasses hwell
  obtain ⟨hiff, hrestores⟩ :=
    update_after_clean (v := { disk := w'.disk }) (u := v') hdir hd hupdate hspares rfl hclean rfl
  obtain ⟨l', u', hagain⟩ := hiff.mpr fun s hs source hsource p hp => by
    have hprofile : s = profile := Except.ok.inj (hs.symm.trans hpasses.described)
    rw [hprofile] at hsource
    rw [resolve_of_mem_profile hsource rfl] at hp
    cases hp
  obtain ⟨rfl, hnode⟩ := hrestores l' u' hagain
  exact ⟨_, w', summary, v', hdir, hd, hupdate, hspares, hclean, u', hagain, hnode⟩

/-! ## What fails -/

/-- The bundled profile with a configuration that is copied from where a file is generated. -/
def profileWithConfig : Spec :=
  { profile with
    hals := [{ name := "audio", runtimeConfigs := [{ source := "$(LOCAL_PATH)/manifest.xml" }] }] }

/-- A directory with that description, where the configuration is. -/
def directoryWithConfig : Disk := profileWithConfig.inDirectory [("manifest.xml", "")]

set_option maxRecDepth 100000 in
theorem profileWithConfig_updates :
    profileWithConfig.Passes ⟨"/d"⟩ {} directoryWithConfig ∧
      profileWithConfig.GoesWell ⟨"/d"⟩ directoryWithConfig :=
  updates_inDirectory ⟨["config.json", "manifest.xml"], rfl, by decide +kernel⟩ (by decide +kernel)
    (by decide +kernel) (by decide +kernel)

set_option maxRecDepth 100000 in
/-- A configuration that was there is written over and removed, and then updating fails. -/
theorem cleaned_directory_refused : ∃ l w' summary v',
    Path.isAbsolute ⟨"/d"⟩ = true ∧ directoryWithConfig.WellFormed ∧
      (update ⟨"/d"⟩ {}).perform { disk := directoryWithConfig } = (.ok l, w') ∧
      l.SparesInputs ⟨"/d"⟩ ∧
      (clean ⟨"/d"⟩).perform { disk := w'.disk } = (.ok summary, v') ∧
      ¬ ∃ l' u', (update ⟨"/d"⟩ {}).perform v' = (.ok l', u') := by
  have hdir : Path.isAbsolute ⟨"/d"⟩ = true := by decide
  have hd : directoryWithConfig.WellFormed := ⟨by decide +kernel, by decide +kernel, nofun⟩
  obtain ⟨hpasses, hwell⟩ := profileWithConfig_updates
  obtain ⟨w', summary, v', hupdate, hclean, hrun⟩ := exists_update_clean hdir hpasses hwell
  have hspares :
      (profileWithConfig.newLedger ⟨"/d"⟩ directoryWithConfig).SparesInputs ⟨"/d"⟩ := by
    rw [hwell.newLedger]
    exact Ledger.sparesInputs_of_names hdir (by decide +kernel)
  have hiff := (update_of_cleaned hdir hd hpasses hwell hspares hrun rfl).1
  refine ⟨_, w', summary, v', hdir, hd, hupdate, hspares, hclean, fun hagain => ?_⟩
  -- the configuration is one of the listed files
  have hsource : "$(LOCAL_PATH)/manifest.xml" ∈ profileWithConfig.neededSources := by decide +kernel
  have hlisted : Path.mk "/d/manifest.xml" ∈
      (profileWithConfig.newLedger ⟨"/d"⟩ directoryWithConfig).files := by
    rw [hwell.newLedger]
    decide +kernel
  have hledger := hiff.mp hagain _ hsource ⟨"/d/manifest.xml"⟩ (by decide +kernel)
    (by decide +kernel) _ hlisted rfl
  exact absurd hledger (by decide +kernel)

end DeviceSpec
