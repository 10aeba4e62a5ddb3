import DeviceSpec.Proofs.Command.Inputs
import DeviceSpec.Proofs.Command.Update
import DeviceSpec.Proofs.Generate.LastWriter

/-!
# Right after initialising

Initialising does not check what it generates. With the bundled profile it need not.

* **the description** — what is saved is what is generated from (`of_initialise`);
* **generated names** — no generated file replaces it (`read_description_of_goesWell`): whatever the
  device is called, the name of each has a letter that the name of the description lacks
  (`letter_of_mem_items`);
* **stable** — where what has been generated passes, checking goes well, and updating gives the
  ledger that is there and changes nothing (`stable_of_passes`); and the profile passes
  (`scaffold_stable`).
-/

namespace DeviceSpec

/-! ## The description -/

/-- A template has been pointed at a device and saved in the device directory. -/
structure Prepared (vendorDir : Path) (vendor device : String) (template : Option Path)
    (ready : Path × Spec) (d : Disk) : Prop where
  dir : ready.1 = vendorDir.join device
  retargeted : ∃ base : Spec, ready.2 = base.retarget vendor device ∧
    (template = none → base = profile)
  saved : d.read (configPath ready.1) = .ok ready.2.encode.toUTF8

theorem of_prepareDirs {vendorDir : Path} {vendor device : String} {template : Option Path}
    {w w' : World} {ready : Path × Spec}
    (h : (prepareDirs vendorDir vendor device template).perform w = (.ok ready, w')) :
    Prepared vendorDir vendor device template ready w'.disk := by
  unfold prepareDirs at h
  obtain ⟨-, w₁, -, h⟩ := Action.perform_bind_ok_iff.mp h
  -- whatever the template is, it is pointed at the device and saved, and nothing comes after
  have hsaved : ∀ (base : Spec) (w₁ : World), (do
      change .spec (saveSpec (base.retarget vendor device) (configPath (vendorDir.join device)))
      say ("[avs i] Created " ++ (configPath (vendorDir.join device)).text)
      return (vendorDir.join device, base.retarget vendor device) : Action (Path × Spec)).perform
        w₁ = (.ok ready, w') → ready = (vendorDir.join device, base.retarget vendor device) ∧
          w'.disk.read (configPath ready.1) = .ok ready.2.encode.toUTF8 := by
    intro base w₁ h
    obtain ⟨u, w₂, hsave, h⟩ := Action.perform_bind_ok_iff.mp h
    rw [Action.perform_change] at hsave
    cases hwrite : saveSpec (base.retarget vendor device) (configPath (vendorDir.join device))
        w₁.disk with
    | mk result e =>
      rw [hwrite] at hsave
      cases result with
      | error err => cases hsave
      | ok u =>
        cases hsave
        cases h
        exact ⟨rfl, read_of_saveDocument hwrite⟩
  cases template with
  | none =>
    obtain ⟨base, w₂, hbase, h⟩ := Action.perform_bind_ok_iff.mp h
    obtain ⟨rfl, hread⟩ := hsaved base w₂ h
    rw [Action.perform_pure, Prod.mk.injEq, Except.ok.injEq] at hbase
    exact ⟨rfl, ⟨base, rfl, fun _ => hbase.1.symm⟩, hread⟩
  | some path =>
    obtain ⟨path', w₂, -, h⟩ := Action.perform_bind_ok_iff.mp h
    obtain ⟨u, w₃, -, h⟩ := Action.perform_bind_ok_iff.mp h
    obtain ⟨base, w₄, -, h⟩ := Action.perform_bind_ok_iff.mp h
    obtain ⟨rfl, hread⟩ := hsaved base w₄ h
    exact ⟨rfl, ⟨base, rfl, nofun⟩, hread⟩

section
variable {root dir : Path} {vendor device : String} {template : Option Path} {w w' : World}

theorem of_prepareInitialise (hroot : root.isAbsolute = true) {ready : Path × Spec}
    (h : (prepareInitialise root vendor device template).perform w = (.ok ready, w')) :
    Prepared (root.join vendor) vendor device template ready w'.disk := by
  unfold prepareInitialise at h
  split at h
  · cases h
  · obtain ⟨root', w₁, habsolute, h⟩ := Action.perform_bind_ok_iff.mp h
    obtain ⟨w₂, hperform, -⟩ := looks_absolute hroot w
    rw [hperform] at habsolute
    cases habsolute
    exact of_prepareDirs h

/-- Initialising that goes well generates and records what it has saved. -/
theorem of_initialise (hroot : root.isAbsolute = true)
    (h : (initialise root vendor device template).perform w = (.ok dir, w')) :
    ∃ s d, Prepared (root.join vendor) vendor device template (dir, s) d ∧ s.GoesWell dir d ∧
      w'.disk = s.recordDisk dir d := by
  have hnext : ∀ (ready : Path × Spec) (l : Ledger), (do
      say ("[avs i] OK: " ++ toString l.files.length ++ " files generated in " ++ ready.1.text)
      return ready.1 : Action Path).Yields ready.1 :=
    fun ready l => (Action.quiet_say _).bind_yields fun _ => Action.yields_pure ready.1
  have habs : ∀ ready w₁,
      (prepareInitialise root vendor device template).perform w = (.ok ready, w₁) →
        ready.1.isAbsolute = true := by
    intro ready w₁ hready
    rw [(of_prepareInitialise hroot hready).dir]
    exact Path.isAbsolute_join (Path.isAbsolute_join hroot vendor) device
  rw [initialise_eq] at h
  obtain ⟨⟨dir, s⟩, w₁, hready, hwell, rfl, hdisk⟩ := (prepared_ok_iff habs hnext).mp ⟨w', h, rfl⟩
  exact ⟨s, w₁.disk, of_prepareInitialise hroot hready, hwell, hdisk⟩

end

/-! ## Generated names -/

/-- The name has a letter that the other lacks. -/
def HasLetterBeyond (other name : String) : Prop :=
  ∃ c ∈ name.toList, c ≠ '/' ∧ c ≠ '.' ∧ c ∉ other.toList

instance (other name : String) : Decidable (HasLetterBeyond other name) :=
  List.decidableBEx (fun c => c ≠ '/' ∧ c ≠ '.' ∧ c ∉ other.toList) name.toList

/-- Such a name does not come to the single step of the other. -/
theorem steps_ne_of_letter {other name : String} (h : HasLetterBeyond other name) :
    Path.steps ⟨name⟩ ≠ [other] := by
  obtain ⟨c, hc, hslash, hdot, hlacks⟩ := h
  obtain ⟨step, hstep, hmem⟩ := Path.exists_mem_steps (p := ⟨name⟩) hc hslash hdot
  intro hsteps
  rw [hsteps, List.mem_singleton] at hstep
  exact hlacks (hstep ▸ hmem)

/-- Every name that is generated for the profile has a letter that the name of the description
lacks, whatever the device is called. -/
theorem letter_of_mem_items {vendor device : String} {i : Item}
    (hi : i ∈ (profile.retarget vendor device).items) :
    HasLetterBeyond configName (i.fileName (profile.retarget vendor device)) := by
  cases i with
  | artifact a =>
    have hown : ∀ a ∈ Artifact.ownNamed, HasLetterBeyond configName (a.fileName profile) := by
      decide
    by_cases ha : a ∈ Artifact.ownNamed
    · rw [Item.fileName, Artifact.fileName_ownNamed ha _ profile]
      exact hown a ha
    · -- the other names hold the name of the device, or come from the profile
      cases a with
      | productMakefile => exact ⟨'m', by simp [Item.fileName, Artifact.fileName], by decide⟩
      | ueventScript =>
        show HasLetterBeyond configName (generatedName "ueventd.rc")
        decide
      | fstab =>
        show HasLetterBeyond configName ("fstab." ++ device)
        exact ⟨'t', by simp, by decide⟩
      | usbScript =>
        exact ⟨'t', by simp [Item.fileName, Artifact.fileName, usbScriptName], by decide⟩
      | policy file => cases file <;> exact absurd (by decide) ha
      | _ => exact absurd (by decide) ha
  | script script =>
    have hscript : script ∈ (profile.retarget vendor device).initScripts := by
      rcases List.mem_append.mp hi with hplan | hembedded
      · obtain ⟨a, -, ha⟩ := List.mem_map.mp hplan
        cases ha
      · obtain ⟨script', hmem, heq⟩ := List.mem_map.mp hembedded
        cases heq
        exact (List.mem_filter.mp hmem).1
    have hname : script.name = "init." ++ device ++ ".rc" := by
      rw [List.mem_singleton.mp hscript]
    exact ⟨'t', by simp [Item.fileName, hname], by decide⟩

/-- A description is still read after a run that goes well, if no name that is generated leads to
it. -/
theorem read_description_of_goesWell {s : Spec} {dir : Path} (hdir : dir.isAbsolute = true)
    {d : Disk} {content : ByteArray} (hread : d.read (configPath dir) = .ok content)
    (hwell : s.GoesWell dir d) (hnames : ∀ i ∈ s.items, Path.steps ⟨i.fileName s⟩ ≠ [configName]) :
    (s.recordDisk dir d).read (configPath dir) = .ok content := by
  have hlast : d.lastAt (d.place (configPath dir)) (s.recordWrites dir d) = none := by
    refine Disk.lastAt_eq_none_iff.mpr fun w hw => ?_
    rw [hwell.recordWrites] at hw
    rcases List.mem_append.mp hw with hw | hw
    · obtain ⟨i, hi, text, -, rfl⟩ := mem_writes.mp hw
      have hinside := (generate_ran s dir d).1.inside i
        ((generate_ran s dir d).2 hwell.generates ▸ hi)
      obtain ⟨hrel, hup⟩ := inside_of_isInsideName hinside
      rw [place_configPath, Disk.place_join hrel hup]
      exact fun h => hnames i hi (List.append_cancel_left h)
    · rw [List.mem_singleton.mp hw]
      exact (place_configPath_ne dir d).symm
  refine (read_recordDisk_iff hdir hread).mpr fun c hc => ?_
  rw [hlast] at hc
  cases hc

/-! ## Right after -/

/-- Where a description passes after it has been generated, it can be checked and updated: updating
gives the ledger that is there and changes nothing. -/
theorem stable_of_passes {s : Spec} {dir : Path} (hdir : dir.isAbsolute = true)
    {settings : Settings} {d : Disk} (hwell : s.GoesWell dir d)
    (hpasses : s.Passes dir settings (s.recordDisk dir d)) {v : World}
    (hv : v.disk = s.recordDisk dir d) :
    (∃ r v', (check dir settings).perform v = (.ok r, v') ∧ v'.disk = v.disk) ∧
      ∃ v', (update dir settings).perform v = (.ok (s.newLedger dir d), v') ∧
        ∀ m, v'.disk.node? m = v.disk.node? m := by
  rw [← hv] at hpasses
  constructor
  · obtain ⟨v', hperform, hdisk⟩ := looks_check hdir settings v
    rw [checked_ok_iff.mpr ⟨s, hpasses, rfl⟩] at hperform
    exact ⟨_, v', hperform, hdisk⟩
  · have hcomes : s.ComesTo dir d v.disk := by
      rw [hv]
      exact recordAgain hdir hwell (Disk.SameApart.refl _ _)
    obtain ⟨v', hperform, hdisk⟩ := (update_ok_iff hdir).mpr
      ⟨s, hpasses, hcomes.goesWell, rfl, rfl⟩
    rw [hcomes.ledger] at hperform
    refine ⟨v', hperform, fun m => ?_⟩
    rw [hdisk, hcomes.node?, hv]

/-- Initialising with the bundled profile, whatever the vendor and the device are called: unless
there are overlays, the directory passes the checks, and updating gives the ledger that is there and
changes nothing. -/
theorem scaffold_stable {root : Path} (hroot : root.isAbsolute = true) {vendor device : String}
    {w w' : World} {dir : Path}
    (hinit : (initialise root vendor device none).perform w = (.ok dir, w'))
    (hnone : ∀ names, w'.disk.list dir = .ok names → ∀ name ∈ names, isOverlayName name = true →
      w'.disk.isFile (dir.join name) = false) :
    ∃ l, Ledger.load dir w'.disk = .ok l ∧ ∀ v : World, v.disk = w'.disk →
      (∃ r v', (check dir {}).perform v = (.ok r, v') ∧ v'.disk = v.disk) ∧
      ∃ v', (update dir {}).perform v = (.ok l, v') ∧
        ∀ m, v'.disk.node? m = w'.disk.node? m := by
  obtain ⟨s, d, ⟨hjoin, ⟨base, hs, hbase⟩, hread⟩, hwell, hdisk⟩ := of_initialise hroot hinit
  have hdir : dir.isAbsolute = true := by
    rw [show dir = (root.join vendor).join device from hjoin]
    exact Path.isAbsolute_join (Path.isAbsolute_join hroot vendor) device
  rw [hbase rfl] at hs
  subst hs
  -- the description is still there, and passes
  have hkept : w'.disk.read (configPath dir) =
      .ok (profile.retarget vendor device).encode.toUTF8 := by
    rw [hdisk]
    exact read_description_of_goesWell hdir hread hwell fun i hi =>
      steps_ne_of_letter (letter_of_mem_items hi)
  have hpasses : (profile.retarget vendor device).Passes dir {} w'.disk :=
    ⟨deviceSpec_of_read hkept hnone,
      (passed_retarget_iff vendor device).mpr (profile_passed rfl rfl)⟩
  obtain ⟨-, hload, -⟩ := recordDisk_spec (s := profile.retarget vendor device) hdir d
  rw [← hdisk] at hload
  rw [hdisk] at hpasses
  refine ⟨_, hload hwell.records, fun v hv => ?_⟩
  obtain ⟨hcheck, v', hperform, hnode⟩ := stable_of_passes hdir hwell hpasses (hv.trans hdisk)
  exact ⟨hcheck, v', hperform, fun m => by rw [hnode, hv]⟩

set_option maxRecDepth 100000 in
/-- Initialising on an empty disk, for a device whose name leads down by two steps. -/
theorem scaffold_stable_nested : ∃ w' l, Path.isAbsolute ⟨"/"⟩ = true ∧
    (initialise ⟨"/"⟩ "acme" "board/v2" none).perform { disk := {} } =
      (.ok ⟨"/acme/board/v2"⟩, w') ∧
    (∀ names, w'.disk.list ⟨"/acme/board/v2"⟩ = .ok names → ∀ name ∈ names,
      isOverlayName name = true → w'.disk.isFile (Path.join ⟨"/acme/board/v2"⟩ name) = false) ∧
    Ledger.load ⟨"/acme/board/v2"⟩ w'.disk = .ok l ∧ ∀ v : World, v.disk = w'.disk →
      (∃ r v', (check ⟨"/acme/board/v2"⟩ {}).perform v = (.ok r, v') ∧ v'.disk = v.disk) ∧
      ∃ v', (update ⟨"/acme/board/v2"⟩ {}).perform v = (.ok l, v') ∧
        ∀ m, v'.disk.node? m = w'.disk.node? m := by
  have hroot : Path.isAbsolute ⟨"/"⟩ = true := by decide
  have hrun : (match (initialise ⟨"/"⟩ "acme" "board/v2" none).perform { disk := {} } with
      | (.ok dir, w) => decide (dir = ⟨"/acme/board/v2"⟩) &&
          (w.disk.list dir).toOption.all fun names => names.all fun name => !isOverlayName name
      | (.error _, _) => false) = true := by decide +kernel
  generalize hinit : (initialise ⟨"/"⟩ "acme" "board/v2" none).perform { disk := {} } = performed
    at hrun
  obtain ⟨result, w'⟩ := performed
  cases result with
  | error err => cases hrun
  | ok dir =>
    rw [Bool.and_eq_true, decide_eq_true_iff] at hrun
    obtain ⟨rfl, hlist⟩ := hrun
    have hnone : ∀ names, w'.disk.list ⟨"/acme/board/v2"⟩ = .ok names → ∀ name ∈ names,
        isOverlayName name = true →
          w'.disk.isFile (Path.join ⟨"/acme/board/v2"⟩ name) = false := by
      intro names hnames name hname hoverlay
      rw [hnames] at hlist
      have hplain := List.all_eq_true.mp hlist name hname
      rw [hoverlay] at hplain
      cases hplain
    obtain ⟨l, hload, hstable⟩ := scaffold_stable hroot hinit hnone
    exact ⟨w', l, hroot, rfl, hnone, hload, hstable⟩

end DeviceSpec
