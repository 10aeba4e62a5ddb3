import DeviceSpec.Proofs.Command.Record

/-!
# Before a run

Updating and initialising prepare a description and then generate it and record the run
(`update_eq`, `initialise_eq`). What they do before leaves the ledger of the directory alone.

* **looking** — checking and preparing an update answer with what comes of the checks on the disk as
  it is (`looks_checkFrom`, `looks_prepareUpdateFrom`);
* **updating** — it changes nothing (`prepareUpdate_meets`);
* **initialising** — it makes directories and writes the description (`prepareDirs_meets`).
-/

namespace DeviceSpec

/-! ## Preparing -/

/-- What updating does before it generates: the device directory and its description, if that
passes the checks. -/
def prepareUpdate (dir : Path) (settings : Settings) : Action (Path × Spec) := do
  let dir ← absolute dir
  let s ← loadDeviceSpec dir
  let r := validate s (settings.surroundings dir) (← getDisk)
  r.show
  if r.passed then return (dir, s)
  else
    say "[avs u] FAILED: fix the validation errors first"
    throw (.invalid r)

/-- What initialising does in its directories before it generates: the description, saved. -/
def prepareDirs (vendorDir : Path) (vendor device : String) (template : Option Path) :
    Action (Path × Spec) := do
  let dir := vendorDir.join device
  [dir, vendorDir.join (device ++ "-kernel")].forM fun p =>
    change (.createDir p) (fun d => d.makeDirs p)
  let base ← match template with
    | none => pure profile
    | some path => do
      let path ← absolute path
      say ("[avs i] Using " ++ path.text ++ " as template")
      look .spec (loadSpec path)
  let s := base.retarget vendor device
  change .spec (saveSpec s (configPath dir))
  say ("[avs i] Created " ++ (configPath dir).text)
  return (dir, s)

/-- What initialising does before it generates. -/
def prepareInitialise (root : Path) (vendor device : String) (template : Option Path) :
    Action (Path × Spec) := do
  if vendor.isEmpty ∨ device.isEmpty then throw .emptyNames
  let root ← absolute root
  prepareDirs (root.join vendor) vendor device template

/-! ## The commands -/

theorem update_eq (dir : Path) (settings : Settings) :
    update dir settings = prepareUpdate dir settings >>= fun ready => do
      let l ← generateAndRecord ready.2 ready.1
      say ("[avs u] OK: " ++ toString l.files.length ++ " files generated")
      return l := by
  unfold update prepareUpdate
  simp only [bind_assoc]
  congr 1
  funext dir
  congr 1
  funext s
  congr 1
  funext d
  congr 1
  funext _
  split
  · rw [pure_bind]
  · rw [bind_assoc]
    rfl

theorem initialise_eq (root : Path) (vendor device : String) (template : Option Path) :
    initialise root vendor device template =
      prepareInitialise root vendor device template >>= fun ready => do
        let l ← generateAndRecord ready.2 ready.1
        say ("[avs i] OK: " ++ toString l.files.length ++ " files generated in " ++ ready.1.text)
        return ready.1 := by
  unfold initialise prepareInitialise prepareDirs
  cases template <;> by_cases hempty : vendor.isEmpty = true ∨ device.isEmpty = true <;>
    simp only [hempty, if_true, if_false, bind_assoc, pure_bind]

/-! ## What is looked at -/

/-- The description of a device directory, with its overlays. -/
def deviceSpec (dir : Path) (d : Disk) : Except SpecError Spec :=
  (loadSpec (configPath dir) d).map fun s => s.withMerge (mergeOverlays s.hals dir d)

/-- The description of a device directory passes the checks. -/
structure Spec.Passes (s : Spec) (dir : Path) (settings : Settings) (d : Disk) : Prop where
  described : deviceSpec dir d = .ok s
  passed : (validate s (settings.surroundings dir) d).passed = true

/-- What comes of the checks in a device directory: a description that passes gives a result. -/
def checked {α : Type} (dir : Path) (settings : Settings) (result : Spec → Report → α) (d : Disk) :
    Except CommandError α :=
  (deviceSpec dir d).mapError .spec >>= fun s =>
    if (validate s (settings.surroundings dir) d).passed then
      .ok (result s (validate s (settings.surroundings dir) d))
    else .error (.invalid (validate s (settings.surroundings dir) d))

/-- What comes of the checks in a directory that need not be named from the root. -/
def checkedFrom {α : Type} (dir : Path) (settings : Settings) (result : Path → Spec → Report → α)
    (d : Disk) : Except CommandError α :=
  (absolutePath dir d).mapError .workingDir >>= fun home => checked home settings (result home) d

theorem checkedFrom_of_isAbsolute {α : Type} {dir : Path} (hdir : dir.isAbsolute = true)
    {settings : Settings} {result : Path → Spec → Report → α} :
    checkedFrom dir settings result = checked dir settings (result dir) := by
  funext d
  rw [checkedFrom, absolutePath_of_isAbsolute hdir]
  rfl

theorem checked_ok_iff {α : Type} {dir : Path} {settings : Settings} {result : Spec → Report → α}
    {d : Disk} {v : α} : checked dir settings result d = .ok v ↔
      ∃ s : Spec, s.Passes dir settings d ∧
        result s (validate s (settings.surroundings dir) d) = v := by
  unfold checked
  cases hspec : deviceSpec dir d with
  | error e =>
    refine ⟨nofun, ?_⟩
    rintro ⟨s, ⟨hdescribed, -⟩, -⟩
    rw [hspec] at hdescribed
    cases hdescribed
  | ok s =>
    show (if (validate s (settings.surroundings dir) d).passed = true then _ else _) = _ ↔ _
    split
    · rename_i hpassed
      rw [Except.ok.injEq]
      refine ⟨fun hv => ⟨s, ⟨hspec, hpassed⟩, hv⟩, ?_⟩
      rintro ⟨s', ⟨hdescribed, -⟩, hv⟩
      rw [hspec, Except.ok.injEq] at hdescribed
      rw [hdescribed, hv]
    · rename_i hfailed
      refine ⟨nofun, ?_⟩
      rintro ⟨s', ⟨hdescribed, hpassed⟩, -⟩
      rw [hspec, Except.ok.injEq] at hdescribed
      exact absurd (hdescribed ▸ hpassed) hfailed

theorem looks_absolute {dir : Path} (hdir : dir.isAbsolute = true) :
    (absolute dir).Looks fun _ => .ok dir := by
  intro w
  obtain ⟨w', hperform, hdisk⟩ := Action.looks_look .workingDir (absolutePath dir) w
  refine ⟨w', hperform.trans ?_, hdisk⟩
  simp only [absolutePath_of_isAbsolute hdir, Action.mapError_ok]

theorem looks_loadDeviceSpec (dir : Path) :
    (loadDeviceSpec dir).Looks fun d => (deviceSpec dir d).mapError .spec := by
  have hnotices : ∀ m : Merge, (m.notices.forM Notice.show).Quiet := by
    intro m
    refine Action.quiet_forM (fun notice => ?_) _
    cases notice with
    | said line => exact Action.quiet_say line
    | warned line => exact Action.quiet_warn line
  have hlooks : (loadDeviceSpec dir).Looks fun d =>
      (loadSpec (configPath dir) d).mapError .spec >>= fun s => Except.ok d >>= fun d =>
        .ok (s.withMerge (mergeOverlays s.hals dir d)) :=
    (Action.looks_look _ _).bind fun s => Action.looks_getDisk.bind fun d =>
      (hnotices _).bind_looks fun _ => Action.looks_pure _
  intro w
  obtain ⟨w', hperform, hdisk⟩ := hlooks w
  refine ⟨w', hperform.trans ?_, hdisk⟩
  simp only [deviceSpec]
  cases loadSpec (configPath dir) w.disk <;> rfl

theorem quiet_show (r : Report) : r.show.Quiet := by
  intro w
  obtain ⟨u, w', hfindings, hdisk⟩ :=
    Action.quiet_forM (fun f : Finding => Action.quiet_say f.line) r.findings w
  obtain ⟨u', w'', hsummary, hdisk'⟩ := Action.quiet_forM Action.quiet_say r.summary w'
  refine ⟨u', w'', ?_, hdisk'.trans hdisk⟩
  rw [Report.show, Action.perform_bind, hfindings]
  exact hsummary

/-- Commands that go on from the checks of a description, without changing the disk, answer with
what comes of the checks. -/
theorem looks_checked {α : Type} {dir : Path} {settings : Settings}
    {rest : Path → Spec → Report → Action α} {result : Path → Spec → Report → α}
    (hrest : ∀ dir s r, (rest dir s r).Looks fun _ =>
      if r.passed then .ok (result dir s r) else .error (.invalid r)) :
    (do
      let dir ← absolute dir
      let s ← loadDeviceSpec dir
      let r := validate s (settings.surroundings dir) (← getDisk)
      r.show
      rest dir s r : Action α).Looks (checkedFrom dir settings result) := by
  have hlooks := (Action.looks_look .workingDir (absolutePath dir)).bind fun dir =>
    (looks_loadDeviceSpec dir).bind fun s => Action.looks_getDisk.bind fun d =>
      (quiet_show (validate s (settings.surroundings dir) d)).bind_looks fun _ =>
        hrest dir s (validate s (settings.surroundings dir) d)
  intro w
  obtain ⟨w', hperform, hdisk⟩ := hlooks w
  exact ⟨w', hperform, hdisk⟩

theorem looks_prepareUpdateFrom (dir : Path) (settings : Settings) :
    (prepareUpdate dir settings).Looks (checkedFrom dir settings fun dir s _ => (dir, s)) := by
  have hrest : ∀ (dir : Path) (s : Spec) (r : Report),
      (if r.passed then return (dir, s)
        else do
          say "[avs u] FAILED: fix the validation errors first"
          throw (.invalid r) : Action (Path × Spec)).Looks fun _ =>
        if r.passed then .ok (dir, s) else .error (.invalid r) := by
    intro dir s r
    cases r.passed with
    | true => exact Action.looks_pure _
    | false => exact (Action.quiet_say _).bind_looks fun _ => Action.looks_throw _
  have hlooks := @looks_checked _ dir settings _ _ hrest
  exact hlooks

theorem looks_prepareUpdate {dir : Path} (hdir : dir.isAbsolute = true) (settings : Settings) :
    (prepareUpdate dir settings).Looks (checked dir settings fun s _ => (dir, s)) := by
  have hlooks := looks_prepareUpdateFrom dir settings
  rwa [checkedFrom_of_isAbsolute hdir] at hlooks

theorem looks_checkFrom (dir : Path) (settings : Settings) :
    (check dir settings).Looks (checkedFrom dir settings fun _ _ r => r) := by
  have hrest : ∀ (dir : Path) (s : Spec) (r : Report),
      (if r.passed then do
          say "[avs v] OK"
          return r
        else do
          say "[avs v] FAILED"
          throw (.invalid r) : Action Report).Looks fun _ =>
        if r.passed then .ok r else .error (.invalid r) := by
    intro dir s r
    cases r.passed with
    | true => exact (Action.quiet_say _).bind_looks fun _ => Action.looks_pure _
    | false => exact (Action.quiet_say _).bind_looks fun _ => Action.looks_throw _
  have hlooks := @looks_checked _ dir settings _ _ hrest
  exact hlooks

theorem looks_check {dir : Path} (hdir : dir.isAbsolute = true) (settings : Settings) :
    (check dir settings).Looks (checked dir settings fun _ r => r) := by
  have hlooks := looks_checkFrom dir settings
  rwa [checkedFrom_of_isAbsolute hdir] at hlooks

/-! ## What is left alone -/

theorem steps_configName : Path.steps ⟨configName⟩ = ["config.json"] := by decide +kernel

/-- The description lies in its directory. -/
theorem place_configPath (dir : Path) (d : Disk) :
    d.place (configPath dir) = d.place dir ++ ["config.json"] := by
  rw [configPath, Disk.place_join (by decide +kernel) (by rw [steps_configName]; decide),
    steps_configName]

/-- The description and the ledger of a directory lie in different places. -/
theorem place_configPath_ne (dir : Path) (d : Disk) :
    d.place (configPath dir) ≠ d.place (ledgerPath dir) := by
  rw [Ledger.place_ledgerPath, place_configPath]
  intro h
  exact absurd (List.append_cancel_left h) (by decide)

theorem sparesLedger_saveSpec {dir : Path} (hdir : dir.isAbsolute = true) (s : Spec) (d : Disk) :
    d.SparesLedger dir (saveSpec s (configPath dir) d).2 := by
  unfold saveSpec
  cases hsave : saveDocument s.encode (configPath dir) d with
  | mk result e =>
    cases result with
    | error err =>
      have habs : (configPath dir).isAbsolute = true := Path.isAbsolute_join hdir configName
      exact (of_saveDocument_error habs hsave).2.sparesLedger dir
    | ok u =>
      refine ⟨_, wroteAll_saveDocument hsave, fun w hw => ?_⟩
      rw [List.mem_singleton.mp hw]
      exact place_configPath_ne dir d

/-- Before updating generates, the disk is as it was. -/
theorem prepareUpdate_meets {dir : Path} (hdir : dir.isAbsolute = true) (settings : Settings) :
    (prepareUpdate dir settings).Meets Eq (fun ready => ready.1 = dir) := by
  refine (looks_prepareUpdate hdir settings).meets Eq.refl fun d ready hready => ?_
  obtain ⟨s, -, rfl⟩ := checked_ok_iff.mp hready
  rfl

/-- Before initialising generates, only the description has been written. -/
theorem prepareDirs_meets {vendorDir : Path} {vendor device : String}
    (hdir : (vendorDir.join device).isAbsolute = true) (template : Option Path) :
    (prepareDirs vendorDir vendor device template).Meets
      (Disk.SparesLedger (vendorDir.join device))
      (fun ready => ready.1 = vendorDir.join device) := by
  have refl : ∀ d, Disk.SparesLedger (vendorDir.join device) d d :=
    fun d => (Disk.MoreDirs.refl d).sparesLedger _
  have trans : ∀ {d e f}, Disk.SparesLedger (vendorDir.join device) d e →
      Disk.SparesLedger (vendorDir.join device) e f →
        Disk.SparesLedger (vendorDir.join device) d f :=
    Disk.SparesLedger.trans
  have hdirs : ∀ p, (change (CommandError.createDir p) (fun d => d.makeDirs p)).Meets
      (Disk.SparesLedger (vendorDir.join device)) (fun _ => True) :=
    fun p => Action.meets_change _ fun d => (Disk.moreDirs_makeDirs d p).sparesLedger _
  have hsave : ∀ s : Spec, (change CommandError.spec
      (saveSpec s (configPath (vendorDir.join device)))).Meets
      (Disk.SparesLedger (vendorDir.join device)) (fun _ => True) :=
    fun s => Action.meets_change _ (sparesLedger_saveSpec hdir s)
  unfold prepareDirs
  refine (Action.meets_forM refl trans fun p _ => hdirs p).bind trans fun _ _ => ?_
  have hrest : ∀ base : Spec, (do
      change .spec (saveSpec (base.retarget vendor device) (configPath (vendorDir.join device)))
      say ("[avs i] Created " ++ (configPath (vendorDir.join device)).text)
      return (vendorDir.join device, base.retarget vendor device) : Action (Path × Spec)).Meets
        (Disk.SparesLedger (vendorDir.join device))
        (fun ready => ready.1 = vendorDir.join device) :=
    fun base => (hsave _).bind trans fun _ _ =>
      (Action.Quiet.meets refl (Action.quiet_say _)).bind trans fun _ _ =>
        Action.meets_pure refl rfl
  cases template with
  | none =>
    exact (Action.meets_pure (Q := fun _ => True) refl trivial).bind trans fun base _ => hrest base
  | some path =>
    have hlook : ∀ {ε α : Type} (wrap : ε → CommandError) (f : Disk → Except ε α),
        (look wrap f).Meets (Disk.SparesLedger (vendorDir.join device)) (fun _ => True) :=
      fun wrap _ => Action.meets_look refl wrap fun _ _ _ => trivial
    refine (hlook _ _).bind trans fun path _ => ?_
    refine (Action.Quiet.meets refl (Action.quiet_say _)).bind trans fun _ _ => ?_
    exact (hlook _ _).bind trans fun base _ => hrest base

/-- Before initialising generates in a directory, the ledger there has been left alone. -/
theorem prepareInitialise_spares {root dir : Path} {vendor device : String}
    (template : Option Path) {w : World} (hdir : dir.isAbsolute = true)
    (h : ∀ r, absolutePath root w.disk = .ok r → (r.join vendor).join device = dir) :
    w.disk.SparesLedger dir ((prepareInitialise root vendor device template).perform w).2.disk ∧
      ∀ ready, ((prepareInitialise root vendor device template).perform w).1 = .ok ready →
        ready.1 = dir := by
  have hself : w.disk.SparesLedger dir w.disk := (Disk.MoreDirs.refl w.disk).sparesLedger dir
  unfold prepareInitialise absolute
  split
  · rw [Action.perform_bind, Action.perform_throw]
    refine ⟨hself, fun ready hready => ?_⟩
    cases hready
  · rw [Action.perform_bind, Action.perform_look]
    cases hroot : absolutePath root w.disk with
    | error err =>
      simp only [Action.mapError_error]
      refine ⟨hself, fun ready hready => ?_⟩
      cases hready
    | ok r =>
      have hjoin := h r hroot
      subst hjoin
      simp only [Action.mapError_ok]
      exact prepareDirs_meets hdir template w

end DeviceSpec
