import DeviceSpec.Proofs.Check.Keep
import DeviceSpec.Proofs.Disk.Within

/-!
# More files and fewer questions

A description that passes still does when files and directories are added, and when less is asked.

* **more files** — nothing that was there is taken away (`Disk.Within`): each source is still
  provided (`Within.provides`), and each module is still declared (`Within.keepsBuildFiles`);
* **fewer questions** — without an Android tree no source is looked for there, and modules need not
  be looked for (`Surroundings.Eases`): each rule asks for what it asked before or for less
  (`Eases.holds`);
* **the whole** — so validating is monotone in both (`validate_monotone`).
-/

namespace DeviceSpec

/-- The second surroundings are about the same directory. They know of no other Android tree, and
look for modules only if the first do. -/
structure Surroundings.Eases (env eased : Surroundings) : Prop where
  dir : eased.dir = env.dir
  buildTop : eased.buildTop = env.buildTop ∨ eased.buildTop = none
  checksModules : eased.checksModules = true → env.checksModules = true

section
variable {d e : Disk} {s : Spec} {env eased : Surroundings} {source : String}

/-! ## More files -/

namespace Disk.Within

theorem keepsBuildFiles (h : d.Within e) : d.KeepsBuildFiles e :=
  ⟨h.keepsDirs, fun _ _ _ _ hnode => h.node? _ _ hnode⟩

theorem provides (h : d.Within e) (hsource : env.Provides d source) : env.Provides e source :=
  fun p hp => h.pathExists (hsource p hp)

end Disk.Within

/-- What passes on one disk passes on a disk that has more. -/
theorem passed_of_within (hd : d.WellFormed) (h : d.Within e)
    (hpassed : (validate s env d).passed = true) : (validate s env e).passed = true :=
  (passed_iff_of_passed h.keepsBuildFiles hd hpassed).mpr fun source hsource =>
    h.provides (provides_of_passed hpassed source hsource)

/-! ## Fewer questions -/

namespace Surroundings.Eases

/-- It is known of fewer sources where they lie. -/
theorem resolve (h : env.Eases eased) {p : Path} (hp : eased.resolve source = some p) :
    env.resolve source = some p := by
  unfold Surroundings.resolve at hp ⊢
  cases hlocal : Text.afterHead? localPath source with
  | some rest => simpa only [hlocal, h.dir] using hp
  | none =>
    simp only [hlocal] at hp ⊢
    rcases h.buildTop with htop | htop
    · rwa [← htop]
    · simp [htop] at hp

theorem provides (h : env.Eases eased) (hsource : env.Provides d source) :
    eased.Provides d source := fun p hp => hsource p (h.resolve hp)

/-- Each rule asks for no more than before. -/
theorem holds (h : env.Eases eased) (r : Rule) (hr : r.Holds s env d) : r.Holds s eased d := by
  cases r with
  | features =>
    obtain ⟨hboard, hhals⟩ := hr
    exact ⟨fun f hf => h.provides (hboard f hf),
      fun hal hhal f hf => h.provides (hhals hal hhal f hf)⟩
  | runtimeConfigs => exact fun hal hhal c hc => h.provides (hr hal hhal c hc)
  | copiedFiles =>
    intro hal hhal
    obtain ⟨hcopied, hfirmwares, hdrivers⟩ := hr hal hhal
    exact ⟨fun c hc => h.provides (hcopied c hc), fun f hf => h.provides (hfirmwares f hf),
      fun f hf => h.provides (hdrivers f hf)⟩
  | modules =>
    -- build files are looked for in the device directory alone
    show ∀ hal ∈ s.hals, ∀ module, _ → ∃ file, IsBuildFile d (eased.dir.join hal.name) file ∧ _
    rw [h.dir]
    exact hr
  | halNames => exact hr
  | partitions => exact hr
  | loadAddress => exact hr
  | kernelImages => trivial
  | ramdiskScripts => trivial
  | halScripts => trivial

end Surroundings.Eases

/-- What passes in some surroundings passes in surroundings that ask for less. -/
theorem passed_of_eases (h : env.Eases eased) (hpassed : (validate s env d).passed = true) :
    (validate s eased d).passed = true := by
  rw [validate, passed_runRules_iff] at hpassed ⊢
  intro r hr
  refine h.holds r (hpassed r (Surroundings.mem_rules.mpr fun hmodules => ?_))
  exact h.checksModules (Surroundings.mem_rules.mp hr hmodules)

end

/-! ## The whole -/

/-- A description that passes still does on every disk that has more, and on the same disk when the
Android tree is not known, when no modules are looked for, or both. -/
theorem validate_monotone {d : Disk} (hd : d.WellFormed) {s : Spec} {env : Surroundings}
    (hpassed : (validate s env d).passed = true) :
    (∀ e : Disk, d.Within e → (validate s env e).passed = true) ∧
      (validate s { env with buildTop := none } d).passed = true ∧
      (validate s { env with checksModules := false } d).passed = true ∧
      (validate s { env with buildTop := none, checksModules := false } d).passed = true := by
  have heased : ∀ eased, env.Eases eased → (validate s eased d).passed = true :=
    fun eased h => passed_of_eases h hpassed
  refine ⟨fun e he => passed_of_within hd he hpassed, ?_, ?_, ?_⟩
  · exact heased _ ⟨rfl, .inr rfl, id⟩
  · exact heased _ ⟨rfl, .inl rfl, nofun⟩
  · exact heased _ ⟨rfl, .inr rfl, nofun⟩

/-- A device directory with the source of a module, and an Android tree with a configuration file.
-/
def moduleDirectory : Disk :=
  { entries := [(["d"], .directory), (["d", "wifi"], .directory),
      (["d", "wifi", "Android.mk"], .file "LOCAL_MODULE := wifi_hal\n".toUTF8),
      (["tree"], .directory), (["tree", "wifi.conf"], .file "".toUTF8)] }

/-- A description that asks for both. -/
def moduleSpec : Spec :=
  { profile with
    board := { profileBoard with features := [] }
    hals := [{ name := "wifi", packages := some { build := ["wifi_hal:v"] },
               runtimeConfigs := [{ source := "wifi.conf" }] }] }

/-- It passes with the tree and the module in place, also after another HAL has got a build file of
its own. -/
theorem validate_monotone_moduleSpec :
    let env : Surroundings := ⟨⟨"/d"⟩, some ⟨"/tree"⟩, true⟩
    let e := (moduleDirectory.put ["d", "gps"] .directory).put ["d", "gps", "Android.bp"]
      (.file "".toUTF8)
    moduleDirectory.WellFormed ∧ (validate moduleSpec env moduleDirectory).passed = true ∧
      moduleDirectory.Within e ∧ (validate moduleSpec env e).passed = true ∧
      (validate moduleSpec ⟨⟨"/d"⟩, none, false⟩ moduleDirectory).passed = true := by
  intro env e
  have hd : moduleDirectory.WellFormed := ⟨by decide +kernel, by decide +kernel, nofun⟩
  have hpassed : (validate moduleSpec env moduleDirectory).passed = true := by decide +kernel
  have hwithin : moduleDirectory.Within e := by
    have hvacant : ∀ l ∈ [["d", "gps"], ["d", "gps", "Android.bp"]],
        moduleDirectory.node? l = none := by decide +kernel
    refine ⟨rfl, fun l n hnode => ?_⟩
    rw [Disk.node?_put (by simp), Disk.node?_put (by simp), if_neg, if_neg, hnode]
    all_goals
      rintro rfl
      rw [hvacant _ (by simp)] at hnode
      cases hnode
  obtain ⟨hmore, -, -, hless⟩ := validate_monotone hd hpassed
  exact ⟨hd, hpassed, hwithin, hmore e hwithin, hless⟩

end DeviceSpec
