import DeviceSpec.Command

/-!
# Performing commands

A command is performed on a world, step by step.

* **steps** — binding performs one command after the other (`perform_bind`), and each step has its
  equation (`perform_change`, `perform_look`);
* **printing** — what only prints goes on and leaves the disk alone (`Quiet`);
* **looking** — what only looks answers with what it finds on the disk (`Looks.bind`);
* **changing** — what a command may do to the disk is collected from its steps (`Meets.bind`).
-/

namespace DeviceSpec

namespace Action

variable {α β : Type}

/-- Perform a command: its result and the world afterwards. -/
def perform (a : Action α) (w : World) : Except CommandError α × World := a.run.run w

@[simp] theorem perform_pure (v : α) (w : World) : (pure v : Action α).perform w = (.ok v, w) := rfl

@[simp] theorem perform_throw (e : CommandError) (w : World) :
    (throw e : Action α).perform w = (.error e, w) := rfl

theorem perform_bind (a : Action α) (f : α → Action β) (w : World) :
    (a >>= f).perform w =
      match a.perform w with
      | (.ok v, w) => (f v).perform w
      | (.error e, w) => (.error e, w) := by
  unfold perform
  rw [ExceptT.run_bind, StateT.run_bind]
  generalize a.run.run w = performed
  cases performed with
  | mk result w' => cases result <;> rfl

/-- A command goes well when its parts do, one after the other. -/
theorem perform_bind_ok_iff {a : Action α} {f : α → Action β} {w w' : World} {v : β} :
    (a >>= f).perform w = (.ok v, w') ↔
      ∃ u w'', a.perform w = (.ok u, w'') ∧ (f u).perform w'' = (.ok v, w') := by
  rw [perform_bind]
  cases a.perform w with
  | mk result w'' =>
    cases result with
    | error e => simp
    | ok u =>
      constructor
      · intro h
        exact ⟨u, w'', rfl, h⟩
      · rintro ⟨u', w₁, heq, h⟩
        cases heq
        exact h

@[simp] theorem perform_getDisk (w : World) : getDisk.perform w = (.ok w.disk, w) := rfl

@[simp] theorem perform_setDisk (d : Disk) (w : World) :
    (setDisk d).perform w = (.ok (), { w with disk := d }) := rfl

@[simp] theorem perform_say (line : String) (w : World) :
    (say line).perform w = (.ok (), { w with out := w.out ++ line ++ "\n" }) := rfl

@[simp] theorem perform_warn (line : String) (w : World) :
    (warn line).perform w = (.ok (), { w with err := w.err ++ line ++ "\n" }) := rfl

@[simp] theorem mapError_ok {ε ε' : Type} (wrap : ε → ε') (v : α) :
    (Except.ok v : Except ε α).mapError wrap = .ok v := rfl

@[simp] theorem mapError_error {ε ε' : Type} (wrap : ε → ε') (e : ε) :
    (Except.error e : Except ε α).mapError wrap = .error (wrap e) := rfl

theorem perform_change {ε : Type} (wrap : ε → CommandError) (f : Disk → Except ε α × Disk)
    (w : World) : (change wrap f).perform w =
      ((f w.disk).1.mapError wrap, { w with disk := (f w.disk).2 }) := by
  unfold change
  rw [perform_bind, perform_getDisk]
  simp only [perform_bind, perform_setDisk]
  cases (f w.disk).1 <;> rfl

theorem perform_look {ε : Type} (wrap : ε → CommandError) (f : Disk → Except ε α) (w : World) :
    (look wrap f).perform w = ((f w.disk).mapError wrap, w) := by
  unfold look
  rw [perform_bind, perform_getDisk]
  simp only
  cases f w.disk <;> rfl

/-! ## Printing -/

/-- The command goes on and leaves the disk alone. -/
def Quiet (a : Action α) : Prop := ∀ w, ∃ v w', a.perform w = (.ok v, w') ∧ w'.disk = w.disk

theorem quiet_say (line : String) : (say line).Quiet := fun _ => ⟨(), _, rfl, rfl⟩

theorem quiet_warn (line : String) : (warn line).Quiet := fun _ => ⟨(), _, rfl, rfl⟩

theorem quiet_forM {γ : Type} {f : γ → Action PUnit} (h : ∀ x, (f x).Quiet) (xs : List γ) :
    (xs.forM f).Quiet := by
  induction xs with
  | nil => exact fun w => ⟨(), w, rfl, rfl⟩
  | cons x xs ih =>
    intro w
    obtain ⟨v, w', hx, hw'⟩ := h x w
    obtain ⟨v', w'', hxs, hw''⟩ := ih w'
    refine ⟨v', w'', ?_, hw''.trans hw'⟩
    show (f x >>= fun _ => xs.forM f).perform w = _
    rw [perform_bind, hx]
    exact hxs

/-- What is performed after something quiet is performed on the same disk. -/
theorem perform_quiet_bind {a : Action α} (ha : a.Quiet) (f : α → Action β) (w : World) :
    ∃ v w', w'.disk = w.disk ∧ (a >>= f).perform w = (f v).perform w' := by
  obtain ⟨v, w', hperform, hdisk⟩ := ha w
  exact ⟨v, w', hdisk, by rw [perform_bind, hperform]⟩

/-- The command ends with a value and leaves the disk alone. -/
def Yields (a : Action α) (v : α) : Prop :=
  ∀ w, ∃ w', a.perform w = (.ok v, w') ∧ w'.disk = w.disk

theorem yields_pure (v : α) : (pure v : Action α).Yields v := fun w => ⟨w, rfl, rfl⟩

theorem Quiet.bind_yields {a : Action α} {f : α → Action β} {v : β} (ha : a.Quiet)
    (hf : ∀ u, (f u).Yields v) : (a >>= f).Yields v := by
  intro w
  obtain ⟨u, w', hw', hperform⟩ := perform_quiet_bind ha f w
  obtain ⟨w'', hrest, hw''⟩ := hf u w'
  exact ⟨w'', hperform.trans hrest, hw''.trans hw'⟩

/-! ## Looking things up -/

/-- The command answers with what it finds on the disk, and leaves that alone. -/
def Looks (a : Action α) (f : Disk → Except CommandError α) : Prop :=
  ∀ w, ∃ w', a.perform w = (f w.disk, w') ∧ w'.disk = w.disk

theorem looks_pure (v : α) : (pure v : Action α).Looks fun _ => .ok v := fun w => ⟨w, rfl, rfl⟩

theorem looks_throw (e : CommandError) : (throw e : Action α).Looks fun _ => .error e :=
  fun w => ⟨w, rfl, rfl⟩

theorem looks_getDisk : getDisk.Looks .ok := fun w => ⟨w, rfl, rfl⟩

theorem looks_look {ε : Type} (wrap : ε → CommandError) (f : Disk → Except ε α) :
    (look wrap f).Looks fun d => (f d).mapError wrap :=
  fun w => ⟨w, perform_look wrap f w, rfl⟩

section Looks

variable {a : Action α} {f : Disk → Except CommandError α} {k : α → Action β}

theorem Looks.bind {g : α → Disk → Except CommandError β} (ha : a.Looks f)
    (hk : ∀ v, (k v).Looks (g v)) : (a >>= k).Looks fun d => f d >>= fun v => g v d := by
  intro w
  obtain ⟨w', hperform, hdisk⟩ := ha w
  rw [perform_bind, hperform]
  simp only
  cases f w.disk with
  | error e => exact ⟨w', rfl, hdisk⟩
  | ok v =>
    obtain ⟨w'', hrest, hdisk'⟩ := hk v w'
    rw [hdisk] at hrest
    exact ⟨w'', hrest, hdisk'.trans hdisk⟩

theorem Quiet.bind_looks {g : Disk → Except CommandError β} (ha : a.Quiet)
    (hk : ∀ v, (k v).Looks g) : (a >>= k).Looks g := by
  intro w
  obtain ⟨v, w', hdisk, hperform⟩ := perform_quiet_bind ha k w
  obtain ⟨w'', hrest, hdisk'⟩ := hk v w'
  rw [hdisk] at hrest
  exact ⟨w'', hperform.trans hrest, hdisk'.trans hdisk⟩

end Looks

/-! ## Changing the disk -/

/-- The command changes the disk only in the given way, and a result has the given property. -/
def Meets (a : Action α) (change : Disk → Disk → Prop) (result : α → Prop) : Prop :=
  ∀ w, change w.disk (a.perform w).2.disk ∧ ∀ v, (a.perform w).1 = .ok v → result v

section Meets

variable {R : Disk → Disk → Prop} {Q : α → Prop} {Q' : β → Prop}

theorem Meets.bind {a : Action α} {f : α → Action β} (trans : ∀ {d e f}, R d e → R e f → R d f)
    (ha : a.Meets R Q) (hf : ∀ v, Q v → (f v).Meets R Q') : (a >>= f).Meets R Q' := by
  intro w
  obtain ⟨hchange, hresult⟩ := ha w
  rw [perform_bind]
  cases hperform : a.perform w with
  | mk result w' =>
    rw [hperform] at hchange hresult
    cases result with
    | error e => exact ⟨hchange, nofun⟩
    | ok v =>
      obtain ⟨hchange', hresult'⟩ := hf v (hresult v rfl) w'
      exact ⟨trans hchange hchange', hresult'⟩

theorem meets_pure (refl : ∀ d, R d d) {v : α} (h : Q v) : (pure v : Action α).Meets R Q :=
  fun w => ⟨refl w.disk, fun _ hv => Except.ok.inj hv ▸ h⟩

theorem Quiet.meets {a : Action α} (refl : ∀ d, R d d) (h : a.Quiet) :
    a.Meets R (fun _ => True) := by
  intro w
  obtain ⟨v, w', hperform, hdisk⟩ := h w
  rw [hperform]
  exact ⟨hdisk ▸ refl w.disk, fun _ _ => trivial⟩

/-- What is looked up has what the answers of the look have. -/
theorem Looks.meets {a : Action α} {f : Disk → Except CommandError α} (refl : ∀ d, R d d)
    (ha : a.Looks f) (h : ∀ d v, f d = .ok v → Q v) : a.Meets R Q := by
  intro w
  obtain ⟨w', hperform, hdisk⟩ := ha w
  rw [hperform]
  exact ⟨hdisk ▸ refl w.disk, fun v hv => h w.disk v hv⟩

theorem meets_look {ε : Type} (refl : ∀ d, R d d) (wrap : ε → CommandError)
    {f : Disk → Except ε α} (h : ∀ d v, f d = .ok v → Q v) : (look wrap f).Meets R Q := by
  intro w
  rw [perform_look]
  refine ⟨refl w.disk, fun v hv => ?_⟩
  cases hf : f w.disk with
  | error e =>
    rw [hf] at hv
    cases hv
  | ok v' =>
    rw [hf] at hv
    cases hv
    exact h _ _ hf

theorem meets_change {ε : Type} (wrap : ε → CommandError) {f : Disk → Except ε α × Disk}
    (h : ∀ d, R d (f d).2) : (change wrap f).Meets R (fun _ => True) := by
  intro w
  rw [perform_change]
  exact ⟨h w.disk, fun _ _ => trivial⟩

theorem meets_forM {γ : Type} {f : γ → Action PUnit} (refl : ∀ d, R d d)
    (trans : ∀ {d e f}, R d e → R e f → R d f) {xs : List γ}
    (h : ∀ x ∈ xs, (f x).Meets R (fun _ => True)) : (xs.forM f).Meets R (fun _ => True) := by
  induction xs with
  | nil => exact meets_pure refl trivial
  | cons x xs ih =>
    show (f x >>= fun _ => xs.forM f).Meets R _
    exact (h x List.mem_cons_self).bind trans fun _ _ =>
      ih fun y hy => h y (List.mem_cons_of_mem x hy)

end Meets

end Action

end DeviceSpec
