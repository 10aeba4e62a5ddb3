import DeviceSpec.Proofs.Command.Prepare

/-!
# What is refused is left alone

Checking and updating come to the same verdict on a device directory.

* **the verdict** — a directory is refused, for one reason (`Refuses`), or accepted with its
  description (`Accepts`), whatever a command makes of that (`checkedFrom_cases`);
* **checking** — it answers with the verdict and writes nothing (`check_verdict`);
* **updating** — it gives the same reason and writes nothing, or does what generating and recording
  the accepted description does (`update_of_error`, `update_of_ok`).
-/

namespace DeviceSpec

/-- A device directory is refused. -/
inductive Refuses (dir : Path) (settings : Settings) (d : Disk) : CommandError → Prop where
  /-- It is not known where the directory is. -/
  | workingDir {cause : FileError} : absolutePath dir d = .error cause →
      Refuses dir settings d (.workingDir cause)
  /-- Its description cannot be loaded. -/
  | spec {home : Path} {cause : SpecError} : absolutePath dir d = .ok home →
      deviceSpec home d = .error cause → Refuses dir settings d (.spec cause)
  /-- Its description, with the overlays merged, does not pass. -/
  | invalid {home : Path} {s : Spec} : absolutePath dir d = .ok home →
      deviceSpec home d = .ok s → (validate s (settings.surroundings home) d).passed = false →
      Refuses dir settings d (.invalid (validate s (settings.surroundings home) d))

/-- A device directory is accepted: its description, with the overlays merged, passes. -/
structure Accepts (dir : Path) (settings : Settings) (d : Disk) (home : Path) (s : Spec) :
    Prop where
  located : absolutePath dir d = .ok home
  passes : s.Passes home settings d

section
variable {dir home : Path} {settings : Settings} {d : Disk} {s : Spec} {w : World}
  {e : CommandError}

/-! ## The verdict -/

/-- Every command that goes on from the checks meets the same verdict. -/
theorem checkedFrom_cases (dir : Path) (settings : Settings) (d : Disk) :
    (∃ e, Refuses dir settings d e ∧ ∀ (α : Type) (result : Path → Spec → Report → α),
      checkedFrom dir settings result d = .error e) ∨
    ∃ home s, Accepts dir settings d home s ∧ ∀ (α : Type) (result : Path → Spec → Report → α),
      checkedFrom dir settings result d =
        .ok (result home s (validate s (settings.surroundings home) d)) := by
  cases hhome : absolutePath dir d with
  | error cause =>
    refine .inl ⟨_, .workingDir hhome, fun α result => ?_⟩
    rw [checkedFrom, hhome]
    rfl
  | ok home =>
    have hfrom : ∀ (α : Type) (result : Path → Spec → Report → α),
        checkedFrom dir settings result d = checked home settings (result home) d := by
      intro α result
      rw [checkedFrom, hhome]
      rfl
    cases hspec : deviceSpec home d with
    | error cause =>
      refine .inl ⟨_, .spec hhome hspec, fun α result => ?_⟩
      rw [hfrom, checked, hspec]
      rfl
    | ok s =>
      cases hpassed : (validate s (settings.surroundings home) d).passed with
      | true =>
        have hpasses : s.Passes home settings d := ⟨hspec, hpassed⟩
        refine .inr ⟨home, s, ⟨hhome, hpasses⟩, fun α result => ?_⟩
        rw [hfrom, checked_ok_iff]
        exact ⟨s, hpasses, rfl⟩
      | false =>
        refine .inl ⟨_, .invalid hhome hspec hpassed, fun α result => ?_⟩
        rw [hfrom, checked, hspec]
        simp [bind, Except.bind, hpassed]

/-! ## Checking -/

/-- Checking answers with what comes of the checks and leaves the disk alone. -/
theorem check_verdict (dir : Path) (settings : Settings) (w : World) :
    ((check dir settings).perform w).1 = checkedFrom dir settings (fun _ _ r => r) w.disk ∧
      ((check dir settings).perform w).2.disk = w.disk := by
  obtain ⟨w', hperform, hdisk⟩ := looks_checkFrom dir settings w
  rw [hperform]
  exact ⟨rfl, hdisk⟩

/-! ## Updating -/

/-- Updating fails for the reason that the checks give, and leaves the disk alone. -/
theorem update_of_error
    (h : checkedFrom dir settings (fun dir s _ => (dir, s)) w.disk = .error e) :
    ((update dir settings).perform w).1 = .error e ∧
      ((update dir settings).perform w).2.disk = w.disk := by
  obtain ⟨w', hprepare, hdisk⟩ := looks_prepareUpdateFrom dir settings w
  rw [h] at hprepare
  rw [update_eq, Action.perform_bind, hprepare]
  exact ⟨rfl, hdisk⟩

/-- Updating goes on to generate and record what has been accepted. What it prints before makes no
difference to that. -/
theorem update_of_ok
    (h : checkedFrom dir settings (fun dir s _ => (dir, s)) w.disk = .ok (home, s)) :
    ((update dir settings).perform w).1 = ((generateAndRecord s home).perform w).1 ∧
      ((update dir settings).perform w).2.disk =
        ((generateAndRecord s home).perform w).2.disk := by
  obtain ⟨w', hprepare, hdisk⟩ := looks_prepareUpdateFrom dir settings w
  rw [h] at hprepare
  obtain ⟨hresult, hstored⟩ := generateAndRecord_stores s home w
  obtain ⟨hresult', hstored'⟩ := generateAndRecord_stores s home w'
  rw [hdisk, ← hresult] at hresult'
  rw [hdisk, ← hstored] at hstored'
  rw [update_eq, Action.perform_bind, hprepare, ← hresult', ← hstored']
  simp only [Action.perform_bind]
  cases (generateAndRecord s home).perform w' with
  | mk result w'' => cases result <;> exact ⟨rfl, rfl⟩

/-- Checking writes nothing. Updating fails for the same reason and writes nothing either when
checking refuses the directory; when checking accepts it, updating does and answers what generating
and recording the description with its overlays does. -/
theorem update_follows_check (dir : Path) (settings : Settings) (w : World) :
    ((check dir settings).perform w).2.disk = w.disk ∧
      ((∃ e, Refuses dir settings w.disk e ∧ ((check dir settings).perform w).1 = .error e ∧
          ((update dir settings).perform w).1 = .error e ∧
          ((update dir settings).perform w).2.disk = w.disk) ∨
        ∃ home s, Accepts dir settings w.disk home s ∧
          ((check dir settings).perform w).1 =
            .ok (validate s (settings.surroundings home) w.disk) ∧
          ((update dir settings).perform w).1 = ((generateAndRecord s home).perform w).1 ∧
          ((update dir settings).perform w).2.disk =
            ((generateAndRecord s home).perform w).2.disk) := by
  obtain ⟨hcheck, hdisk⟩ := check_verdict dir settings w
  refine ⟨hdisk, ?_⟩
  rw [hcheck]
  rcases checkedFrom_cases dir settings w.disk with ⟨e, hrefuses, hall⟩ | ⟨home, s, haccepts, hall⟩
  · exact .inl ⟨e, hrefuses, hall _ _, update_of_error (hall _ _)⟩
  · exact .inr ⟨home, s, haccepts, hall _ _, update_of_ok (hall _ _)⟩

end

end DeviceSpec
