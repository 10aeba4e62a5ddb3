import DeviceSpec.Proofs.Command.Prepare

/-!
# What a device directory remembers

Runs of all kinds follow each other on one device directory, and the descriptions change between
them. Files that were generated and are still there should be listed.

* **one event** — what an event does to the disk and to the ledger (`Event.outcome`);
* **step** — a run that does not fail replaces the list, so what an earlier run made is forgotten
  unless it is made again; a run that fails adds to the list (`tracked_step_iff`);
* **history** — nothing is ever forgotten exactly when every event keeps what there is
  (`remembers_iff`).
-/

namespace DeviceSpec

/-! ## Histories -/

/-- What can happen to a device directory. -/
inductive Event where
  | initialise (root : Path) (vendor device : String) (template : Option Path)
  | update (settings : Settings)
  | clean
  /-- Someone changes the disk. -/
  | edit (after : Disk)

namespace Event

/-- The disk after an event. -/
def run (dir : Path) : Event → Disk → Disk
  | .initialise root vendor device template, d =>
    ((DeviceSpec.initialise root vendor device template).perform { disk := d }).2.disk
  | .update settings, d => ((DeviceSpec.update dir settings).perform { disk := d }).2.disk
  | .clean, d => ((DeviceSpec.clean dir).perform { disk := d }).2.disk
  | .edit after, _ => after

/-- The description that an event generates, and the disk it is generated on. -/
def generation? (dir : Path) : Event → Disk → Option (Spec × Disk)
  | .initialise root vendor device template, d =>
    match (prepareInitialise root vendor device template).perform { disk := d } with
    | (.ok ready, w) => some (ready.2, w.disk)
    | (.error _, _) => none
  | .update settings, d =>
    match (prepareUpdate dir settings).perform { disk := d } with
    | (.ok ready, w) => some (ready.2, w.disk)
    | (.error _, _) => none
  | .clean, _ => none
  | .edit _, _ => none

/-- The paths that an event generates. -/
def made (dir : Path) (e : Event) (d : Disk) : List Path :=
  match e.generation? dir d with
  | some (s, d) => (s.generate dir d).paths dir
  | none => []

/-- Cleaning reports that it has removed the file that a path leads to. -/
def removes (dir : Path) (e : Event) (d : Disk) (p : Path) : Bool :=
  match e with
  | .clean =>
    match ((DeviceSpec.clean dir).perform { disk := d }).1 with
    | .ok summary => summary.removed.any (fun q => decide (d.place q = d.place p))
    | .error _ => false
  | _ => false

/-- The event is about the device directory and leaves the ledger to the program. -/
def Fits (dir : Path) (e : Event) (d : Disk) : Prop :=
  match e with
  | .initialise root vendor device _ =>
    ∀ r, absolutePath root d = .ok r → (r.join vendor).join device = dir
  | .edit after => (Ledger.load dir after).toOption = (Ledger.load dir d).toOption
  | _ => True

end Event

/-- A disk, and the paths that were generated and whose files were not deleted since. -/
structure Past where
  disk : Disk
  made : List Path := []

namespace Past

/-- One event more. -/
def step (dir : Path) (h : Past) (e : Event) : Past where
  disk := e.run dir h.disk
  made := (h.made ++ e.made dir h.disk).filter fun p =>
    (e.run dir h.disk).isFile p && !e.removes dir h.disk p

/-- Events one after the other. -/
def run (dir : Path) : Past → List Event → Past := List.foldl (step dir)

/-- Something holds at every event. -/
def Always (dir : Path) (P : Past → Event → Prop) : Past → List Event → Prop
  | _, [] => True
  | h, e :: events => P h e ∧ Always dir P (h.step dir e) events

/-- The ledger lists all that was generated and is still there. -/
def Tracked (dir : Path) (h : Past) : Prop :=
  ∀ p ∈ h.made, ∃ l, Ledger.load dir h.disk = .ok l ∧ ∃ f ∈ l.files, f.same p = true

/-- The event lets nothing be forgotten: either nothing is left of what was generated, or

* a run can store its ledger, and makes all earlier files again or, if it fails, still finds them
  in the earlier ledger;
* any other event leaves the ledger there. -/
def Keeps (dir : Path) (h : Past) (e : Event) : Prop :=
  (h.step dir e).made = [] ∨
    match e.generation? dir h.disk with
    | some (s, d) => s.Records dir d ∧ ∀ p ∈ h.made,
      (∃ q ∈ (s.generate dir d).paths dir, q.same p = true) ∨
        (s.generate dir d).failure ≠ none ∧
          ∃ l, Ledger.load dir (s.generate dir d).disk = .ok l ∧ ∃ f ∈ l.files, f.same p = true
    | none => (e.run dir h.disk).isFile (ledgerPath dir) = true

end Past

/-! ## One event -/

section

variable {dir : Path}

theorem perform_generateAndRecord_bind {α : Type} (s : Spec) {next : Ledger → Action α}
    (hnext : ∀ l, (next l).Quiet) (w : World) :
    ((generateAndRecord s dir >>= next).perform w).2.disk = s.recordDisk dir w.disk := by
  obtain ⟨hdisk, -⟩ := perform_generateAndRecord s dir w
  rw [← recordDisk_eq] at hdisk
  rw [Action.perform_bind]
  cases hperform : (generateAndRecord s dir).perform w with
  | mk result w' =>
    rw [hperform] at hdisk
    cases result with
    | error err => exact hdisk
    | ok l =>
      obtain ⟨v, w'', hrest, hw''⟩ := hnext l w'
      simp only [hrest]
      exact hw''.trans hdisk

/-- What has been prepared for the directory is generated and recorded there; if preparing fails,
nothing more is done. -/
theorem perform_prepared {α : Type} {a : Action α} {prepare : Action (Path × Spec)}
    {next : Path × Spec → Ledger → Action α}
    (ha : a = prepare >>= fun ready => generateAndRecord ready.2 ready.1 >>= next ready)
    (hnext : ∀ ready l, (next ready l).Quiet) {w : World}
    (hready : ∀ ready, (prepare.perform w).1 = .ok ready → ready.1 = dir) :
    (∃ s w', prepare.perform w = (.ok (dir, s), w') ∧
      (a.perform w).2.disk = s.recordDisk dir w'.disk) ∨
    ∃ err w', prepare.perform w = (.error err, w') ∧ (a.perform w).2.disk = w'.disk := by
  rw [ha, Action.perform_bind]
  cases hperform : prepare.perform w with
  | mk result w' =>
    rw [hperform] at hready
    cases result with
    | error err => exact .inr ⟨err, w', rfl, rfl⟩
    | ok ready =>
      obtain ⟨dir', s⟩ := ready
      have hdir' : dir' = dir := hready (dir', s) rfl
      subst hdir'
      exact .inl ⟨s, w', rfl, perform_generateAndRecord_bind s (hnext _) w'⟩

/-- An event generates and records, or keeps a ledger that could be fetched, or cleans. -/
theorem Event.outcome (hdir : dir.isAbsolute = true) {e : Event} {d : Disk} (hfits : e.Fits dir d) :
    (∃ s d', e.generation? dir d = some (s, d') ∧ d.SparesLedger dir d' ∧
      e.run dir d = s.recordDisk dir d' ∧ ∀ p, e.removes dir d p = false) ∨
    (e.generation? dir d = none ∧
      ∀ l, Ledger.load dir d = .ok l → Ledger.load dir (e.run dir d) = .ok l) ∨
    e = .clean := by
  cases e with
  | clean => exact .inr (.inr rfl)
  | edit after =>
    refine .inr (.inl ⟨rfl, fun l hl => ?_⟩)
    have hsame : (Ledger.load dir after).toOption = (Ledger.load dir d).toOption := hfits
    rw [hl] at hsame
    show Ledger.load dir after = .ok l
    cases hafter : Ledger.load dir after with
    | error err => simp [hafter, Except.toOption] at hsame
    | ok l' => simpa [hafter, Except.toOption] using hsame
  | update settings =>
    obtain ⟨hdisk, hready⟩ := prepareUpdate_meets hdir settings { disk := d }
    simp only [Event.generation?, Event.run]
    rcases perform_prepared (update_eq dir settings) (fun _ l w => ⟨l, _, rfl, rfl⟩) hready with
      ⟨s, w, hperform, hrun⟩ | ⟨err, w, hperform, hrun⟩
    · rw [hperform] at hdisk ⊢
      refine .inl ⟨s, w.disk, rfl, ?_, hrun, fun _ => rfl⟩
      exact hdisk ▸ (Disk.MoreDirs.refl d).sparesLedger dir
    · rw [hperform] at hdisk ⊢
      refine .inr (.inl ⟨rfl, fun l hl => ?_⟩)
      rw [hrun, ← hdisk]
      exact hl
  | initialise root vendor device template =>
    have hfits' : ∀ r, absolutePath root d = .ok r → (r.join vendor).join device = dir := hfits
    obtain ⟨hspared, hready⟩ :=
      prepareInitialise_spares template (w := { disk := d }) hdir hfits'
    simp only [Event.generation?, Event.run]
    rcases perform_prepared (initialise_eq root vendor device template)
      (fun ready l w => ⟨ready.1, _, rfl, rfl⟩) hready with
      ⟨s, w, hperform, hrun⟩ | ⟨err, w, hperform, hrun⟩
    · rw [hperform] at hspared ⊢
      exact .inl ⟨s, w.disk, rfl, hspared, hrun, fun _ => rfl⟩
    · rw [hperform] at hspared ⊢
      refine .inr (.inl ⟨rfl, fun l hl => ?_⟩)
      rw [hrun]
      exact load_of_sparesLedger hspared hl

/-- Everything that was generated lies under its name in the directory, and the ledger was written
for this directory. -/
structure Past.Sound (dir : Path) (h : Past) : Prop where
  inside : ∀ p ∈ h.made, (∃ name, isInsideName name = true ∧ p = dir.join name) ∧
    h.disk.isFile p = true
  recorded : h.made ≠ [] → ∀ l, Ledger.load dir h.disk = .ok l → l.dir = dir

variable {h : Past} {e : Event}

/-- A path stays with its file. -/
theorem Past.mem_made_step {p : Path} : p ∈ (h.step dir e).made ↔
    (p ∈ h.made ∨ p ∈ e.made dir h.disk) ∧ (e.run dir h.disk).isFile p = true ∧
      e.removes dir h.disk p = false := by
  simp [Past.step, or_and_right]

/-- A listed file is reported when it is removed, also where the list spells it differently. -/
theorem removes_of_tracked (hdir : dir.isAbsolute = true) (hsound : h.Sound dir)
    (htracked : h.Tracked dir) {summary : CleanSummary} {after : Disk}
    (hclean : Ledger.clean dir h.disk = (.ok summary, after)) {p : Path} (hp : p ∈ h.made) :
    Event.clean.removes dir h.disk p = true := by
  obtain ⟨⟨name, hname, rfl⟩, hfile⟩ := hsound.inside p hp
  obtain ⟨hrel, -⟩ := inside_of_isInsideName hname
  have hjoin : (dir.join name).isAbsolute = true := Path.isAbsolute_join hdir name
  obtain ⟨l, hload, f, hf, hsame⟩ := htracked _ hp
  have hrecorded := hsound.recorded (List.ne_nil_of_mem hp) l hload
  obtain ⟨l', e, hload', hrun, -⟩ := Ledger.clean_ok hdir hclean
  rw [hload, Except.ok.injEq] at hload'
  rw [← hload', Ledger.listed, hrecorded] at hrun
  obtain ⟨-, hsettled⟩ := removeListed_ok hrun
  obtain ⟨-, hreported⟩ := removed_of_removeListed_ok hrun
  -- the list may spell the path differently, and so may the present name of the directory
  have hmem : rebase dir dir f ∈ l.files.map (rebase dir dir) := List.mem_map_of_mem hf
  rw [Path.same_comm] at hsame
  have hfabs : f.isAbsolute = true := Path.same.isAbsolute hsame hjoin
  have hsteps : (dir.join name).steps = f.steps := (Path.same_iff_steps hjoin hfabs).mp hsame
  have hne : Path.steps ⟨name⟩ ≠ [] := steps_ne_nil_of_isFile hrel hfile
  have hfsteps : f.steps = dir.steps ++ Path.steps ⟨name⟩ := by
    rw [← hsteps, Path.steps_join hrel]
  have haccepted : (rebase dir dir f).Accepted := by
    obtain ⟨rest, -, hrebase, -⟩ := rebase_below dir hdir hfabs hne hfsteps
    refine (hsettled _ hmem).accepted ?_
    rw [hrebase]
    exact Path.isAbsolute_join hdir rest
  obtain ⟨content, hfind⟩ := Disk.find_of_isFile hfile
  have hfind' := find_rebase hdir hfabs hne hjoin hfsteps hsteps haccepted hfind
  obtain ⟨q, hq, hplace⟩ := hreported _ hmem (Disk.isFile_of_find hfind')
  have hperform := (perform_clean hdir { disk := h.disk }).2
  rw [hclean] at hperform
  unfold Event.removes
  rw [hperform]
  simp only [Action.mapError_ok, List.any_eq_true, decide_eq_true_iff]
  exact ⟨q, hq, by rw [hplace, ← Disk.place_of_find hfind']⟩

theorem made_of_clean_ok (hdir : dir.isAbsolute = true) (hsound : h.Sound dir)
    (htracked : h.Tracked dir) {summary : CleanSummary} {after : Disk}
    (hclean : Ledger.clean dir h.disk = (.ok summary, after)) : (h.step dir .clean).made = [] := by
  refine List.eq_nil_iff_forall_not_mem.mpr fun p hp => ?_
  obtain ⟨hmade, -, hremoves⟩ := Past.mem_made_step.mp hp
  rcases hmade with hmade | hnew
  · rw [removes_of_tracked hdir hsound htracked hclean hmade] at hremoves
    cases hremoves
  · cases hnew

/-- Cleaning leaves nothing of what was generated and listed, or stops while removing. -/
theorem clean_step (hdir : dir.isAbsolute = true) (hsound : h.Sound dir)
    (htracked : h.Tracked dir) :
    (h.step dir .clean).made = [] ∨ ∃ files, h.disk.Removed (h.step dir .clean).disk files := by
  have hdisk : (h.step dir .clean).disk = (Ledger.clean dir h.disk).2 :=
    (perform_clean hdir { disk := h.disk }).1
  rw [hdisk]
  cases hclean : Ledger.clean dir h.disk with
  | mk result after =>
    cases result with
    | ok summary => exact .inl (made_of_clean_ok hdir hsound htracked hclean)
    | error err =>
      refine .inr ?_
      rcases Ledger.clean_cases hdir h.disk with ⟨⟨err', hnothing⟩, -⟩ | ⟨l, -, -, hrest⟩
      · rw [hclean] at hnothing
        cases hnothing
        exact ⟨[], Disk.Removed.refl nofun⟩
      · rcases hrest with ⟨file, err', e, hrun, hstop⟩ | ⟨summary, e, l', f, -, -, hok⟩
        · rw [hclean] at hstop
          cases hstop
          exact removed_of_removeListed hrun
        · rw [hclean] at hok
          cases hok

/-- Files stay through a run, so it only adds to what was generated. -/
theorem generation_step (hdir : dir.isAbsolute = true) (hsound : h.Sound dir) {s : Spec} {d : Disk}
    (hgeneration : e.generation? dir h.disk = some (s, d)) (hspared : h.disk.SparesLedger dir d)
    (hrun : e.run dir h.disk = s.recordDisk dir d) (hremoves : ∀ p, e.removes dir h.disk p = false)
    {p : Path} :
    p ∈ (h.step dir e).made ↔ p ∈ h.made ∨ p ∈ (s.generate dir d).paths dir := by
  have hmade : e.made dir h.disk = (s.generate dir d).paths dir := by
    simp only [Event.made, hgeneration]
  obtain ⟨ws, hbefore, -⟩ := hspared
  obtain ⟨hwrote, -, -⟩ := recordDisk_spec (s := s) hdir d
  rw [Past.mem_made_step, hmade, hrun, hremoves]
  constructor
  · exact fun hp => hp.1
  · intro hp
    refine ⟨hp, ?_, rfl⟩
    rcases hp with hp | hp
    · exact hwrote.isFile_of_isFile (hbefore.isFile_of_isFile (hsound.inside p hp).2)
    · obtain ⟨hran, -⟩ := generate_ran s dir d
      obtain ⟨content, hw⟩ := hran.mem_paths.mp hp
      refine hwrote.isFile p content ?_
      unfold Spec.recordWrites
      exact List.mem_append_left _ hw

/-- What was generated keeps its shape through every event. -/
theorem sound_step (hdir : dir.isAbsolute = true) (hsound : h.Sound dir) (htracked : h.Tracked dir)
    (hfits : e.Fits dir h.disk) : (h.step dir e).Sound dir := by
  have hdisk : (h.step dir e).disk = e.run dir h.disk := rfl
  constructor
  · intro p hp
    obtain ⟨hmade, hfile, -⟩ := Past.mem_made_step.mp hp
    refine ⟨?_, hfile⟩
    rcases hmade with hmade | hnew
    · exact (hsound.inside p hmade).1
    · unfold Event.made at hnew
      cases hgeneration : e.generation? dir h.disk with
      | none => simp [hgeneration] at hnew
      | some generation =>
        obtain ⟨s, d⟩ := generation
        simp only [hgeneration] at hnew
        exact ((generate_ran s dir d).1.of_mem_paths hnew).1
  · intro hne l hload
    -- a ledger that is there was there before, unless it has just been recorded
    rcases Event.outcome hdir hfits with ⟨s, d, -, -, hrun, -⟩ | ⟨hnone, hkept⟩ | rfl
    · obtain ⟨-, hrecords, hunrecorded⟩ := recordDisk_spec (s := s) hdir d
      rw [hdisk, hrun] at hload
      by_cases hrecord : s.Records dir d
      · rw [hrecords hrecord, Except.ok.injEq] at hload
        rw [← hload, newLedger_dir]
      · have hfile := Ledger.isFile_of_load hload
        rw [hunrecorded hrecord] at hfile
        cases hfile
    · obtain ⟨p, hp⟩ := List.exists_mem_of_ne_nil _ hne
      obtain ⟨hmade, -, -⟩ := Past.mem_made_step.mp hp
      rw [Event.made, hnone] at hmade
      have hp' : p ∈ h.made := by simpa using hmade
      obtain ⟨l', hload', -⟩ := htracked p hp'
      have hload'' := hkept l' hload'
      rw [hdisk, hload'', Except.ok.injEq] at hload
      rw [← hload]
      exact hsound.recorded (List.ne_nil_of_mem hp') l' hload'
    · rcases clean_step hdir hsound htracked with hnil | ⟨files, hremoved⟩
      · exact absurd hnil hne
      · have hsame := Ledger.load_of_within hremoved.within (Ledger.isFile_of_load hload)
        rw [hload] at hsame
        obtain ⟨p, hp⟩ := List.exists_mem_of_ne_nil _ hne
        obtain ⟨hmade, -, -⟩ := Past.mem_made_step.mp hp
        have hp' : p ∈ h.made := by simpa [Event.made, Event.generation?] using hmade
        exact hsound.recorded (List.ne_nil_of_mem hp') l hsame.symm

/-- What a run and those before it generated is listed exactly when the run can store its ledger and
lists all of it. -/
theorem tracked_generation_iff (hdir : dir.isAbsolute = true) {s : Spec} {d : Disk}
    (hrun : e.run dir h.disk = s.recordDisk dir d) (hsome : (h.step dir e).made ≠ [])
    (hmade : ∀ {p}, p ∈ (h.step dir e).made ↔ p ∈ h.made ∨ p ∈ (s.generate dir d).paths dir) :
    (h.step dir e).Tracked dir ↔ s.Records dir d ∧ ∀ p ∈ h.made,
      (∃ q ∈ (s.generate dir d).paths dir, q.same p = true) ∨
        (s.generate dir d).failure ≠ none ∧
          ∃ l, Ledger.load dir (s.generate dir d).disk = .ok l ∧
            ∃ f ∈ l.files, f.same p = true := by
  have hdisk : (h.step dir e).disk = s.recordDisk dir d := hrun
  obtain ⟨-, hrecords, hunrecorded⟩ := recordDisk_spec (s := s) hdir d
  constructor
  · intro htracked'
    by_cases hrecord : s.Records dir d
    · refine ⟨hrecord, fun p hp => ?_⟩
      obtain ⟨l, hl, hlists⟩ := htracked' p (hmade.mpr (.inl hp))
      rw [hdisk, hrecords hrecord, Except.ok.injEq] at hl
      rw [← hl] at hlists
      exact newLedger_lists.mp hlists
    · obtain ⟨p, hp⟩ := List.exists_mem_of_ne_nil _ hsome
      obtain ⟨l, hl, -⟩ := htracked' p hp
      have hfile := Ledger.isFile_of_load hl
      rw [hdisk, hunrecorded hrecord] at hfile
      cases hfile
  · rintro ⟨hrecord, hlisted⟩ p hp
    refine ⟨s.newLedger dir d, by rw [hdisk, hrecords hrecord], newLedger_lists.mpr ?_⟩
    rcases hmade.mp hp with hp | hp
    · exact hlisted p hp
    · exact .inl ⟨p, hp, Path.same_refl p⟩

/-- When nothing is generated, what was listed still is exactly when the ledger is there. -/
theorem tracked_other_iff (htracked : h.Tracked dir) (hsome : (h.step dir e).made ≠ [])
    (hnone : e.generation? dir h.disk = none)
    (hload : ∀ l, Ledger.load dir h.disk = .ok l →
      (e.run dir h.disk).isFile (ledgerPath dir) = true →
        Ledger.load dir (e.run dir h.disk) = .ok l) :
    (h.step dir e).Tracked dir ↔ (e.run dir h.disk).isFile (ledgerPath dir) = true := by
  constructor
  · intro htracked'
    obtain ⟨p, hp⟩ := List.exists_mem_of_ne_nil _ hsome
    obtain ⟨l, hl, -⟩ := htracked' p hp
    exact Ledger.isFile_of_load hl
  · intro hfile p hp
    obtain ⟨hmade, -, -⟩ := Past.mem_made_step.mp hp
    rw [Event.made, hnone] at hmade
    obtain ⟨l, hl, hlists⟩ := htracked p (by simpa using hmade)
    exact ⟨l, hload l hl hfile, hlists⟩

/-- As long as everything is listed, it stays so through an event exactly when the event keeps what
there is. -/
theorem tracked_step_iff (hdir : dir.isAbsolute = true) (hsound : h.Sound dir)
    (htracked : h.Tracked dir) (hfits : e.Fits dir h.disk) :
    (h.step dir e).Tracked dir ↔ h.Keeps dir e := by
  unfold Past.Keeps
  by_cases hnil : (h.step dir e).made = []
  · simp [Past.Tracked, hnil]
  simp only [hnil, false_or]
  rcases Event.outcome hdir hfits with
    ⟨s, d, hgeneration, hspared, hrun, hremoves⟩ | ⟨hnone, hload⟩ | rfl
  · simp only [hgeneration]
    exact tracked_generation_iff hdir hrun hnil
      (generation_step hdir hsound hgeneration hspared hrun hremoves)
  · simp only [hnone]
    exact tracked_other_iff htracked hnil hnone fun l hl _ => hload l hl
  · refine tracked_other_iff htracked hnil rfl fun l hl hfile => ?_
    -- cleaning that leaves something has stopped while removing
    rcases clean_step hdir hsound htracked with hnil' | ⟨files, hremoved⟩
    · exact absurd hnil' hnil
    · exact (Ledger.load_of_within hremoved.within hfile).trans hl

/-! ## All events -/

/-- Nothing is ever forgotten: after every event the ledger lists what was generated and is still
there, and cleaning that goes well after the last one leaves nothing of it. -/
def Past.Remembers (dir : Path) (h : Past) (events : List Event) : Prop :=
  h.Always dir (fun h e => (h.step dir e).Tracked dir) events ∧
    ∀ summary, ((clean dir).perform { disk := (h.run dir events).disk }).1 = .ok summary →
      ((h.run dir events).step dir .clean).made = []

/-- Nothing is ever forgotten exactly when every event keeps what there is. -/
theorem remembers_iff (hdir : dir.isAbsolute = true) (d : Disk) (events : List Event)
    (hfits : Past.Always dir (fun h e => e.Fits dir h.disk) { disk := d } events) :
    Past.Remembers dir { disk := d } events ↔
      Past.Always dir (Past.Keeps dir) { disk := d } events := by
  have hsound : Past.Sound dir { disk := d } := ⟨nofun, fun hne => absurd rfl hne⟩
  have htracked : Past.Tracked dir { disk := d } := nofun
  generalize ({ disk := d } : Past) = h at hfits hsound htracked ⊢
  induction events generalizing h with
  | nil =>
    refine ⟨fun _ => trivial, fun _ => ⟨trivial, fun summary hclean => ?_⟩⟩
    rw [(perform_clean hdir _).2] at hclean
    cases hrun : Ledger.clean dir h.disk with
    | mk result after =>
      cases result with
      | ok summary' => exact made_of_clean_ok hdir hsound htracked hrun
      | error err =>
        have hrun' : (Ledger.clean dir (h.run dir []).disk).1 = .error err := congrArg Prod.fst hrun
        rw [hrun'] at hclean
        cases hclean
  | cons e events ih =>
    obtain ⟨hfit, hfits⟩ := hfits
    have hstep := tracked_step_iff hdir hsound htracked hfit
    constructor
    · rintro ⟨⟨htracked', hrest⟩, hclean⟩
      exact ⟨hstep.mp htracked',
        (ih _ hfits (sound_step hdir hsound htracked hfit) htracked').mp ⟨hrest, hclean⟩⟩
    · rintro ⟨hkeeps, hrest⟩
      have htracked' := hstep.mpr hkeeps
      obtain ⟨halways, hclean⟩ :=
        (ih _ hfits (sound_step hdir hsound htracked hfit) htracked').mpr hrest
      exact ⟨⟨htracked', halways⟩, hclean⟩

end

theorem fits_initialise {dir : Path} {vendor device : String}
    (hdir : ((Path.mk "/").join vendor).join device = dir) (template : Option Path) (d : Disk) :
    (Event.initialise ⟨"/"⟩ vendor device template).Fits dir d := by
  intro r hr
  have hroot : absolutePath ⟨"/"⟩ d = .ok ⟨"/"⟩ := rfl
  rw [hroot, Except.ok.injEq] at hr
  rw [← hr, hdir]

set_option maxRecDepth 100000 in
/-- A directory that is initialised once. -/
theorem remembers_initialised :
    Past.Always ⟨"/v/d"⟩ (fun h e => e.Fits ⟨"/v/d"⟩ h.disk) { disk := {} }
        [.initialise ⟨"/"⟩ "v" "d" none] ∧
      Past.Remembers ⟨"/v/d"⟩ { disk := {} } [.initialise ⟨"/"⟩ "v" "d" none] := by
  have hfits : Past.Always ⟨"/v/d"⟩ (fun h e => e.Fits ⟨"/v/d"⟩ h.disk) { disk := {} }
      [.initialise ⟨"/"⟩ "v" "d" none] := ⟨fits_initialise (by decide +kernel) none {}, trivial⟩
  refine ⟨hfits, (remembers_iff (by decide) {} _ hfits).mpr ⟨.inr ?_, trivial⟩⟩
  have hrecords : (match (Event.initialise ⟨"/"⟩ "v" "d" none).generation? ⟨"/v/d"⟩ {} with
    | some (s, d) => decide (s.Records ⟨"/v/d"⟩ d)
    | none => false) = true := by decide +kernel
  cases hgeneration : (Event.initialise ⟨"/"⟩ "v" "d" none).generation? ⟨"/v/d"⟩ {} with
  | none =>
    rw [hgeneration] at hrecords
    cases hrecords
  | some generation =>
    rw [hgeneration] at hrecords
    exact ⟨of_decide_eq_true hrecords, nofun⟩

/-- The event stores a ledger that does not list the path. -/
def Event.drops (dir : Path) (e : Event) (d : Disk) (p : Path) : Bool :=
  match e.generation? dir d with
  | some (s, d) =>
    decide (s.Records dir d) && (s.newLedger dir d).files.all (fun f => !f.same p)
  | none => false

theorem not_tracked_of_drops {dir p : Path} {h : Past} {e : Event} (hdir : dir.isAbsolute = true)
    (hfits : e.Fits dir h.disk) (hmade : p ∈ (h.step dir e).made)
    (hdrops : e.drops dir h.disk p = true) : ¬ (h.step dir e).Tracked dir := by
  intro htracked
  obtain ⟨l, hload, f, hf, hsame⟩ := htracked p hmade
  unfold Event.drops at hdrops
  rcases Event.outcome hdir hfits with ⟨s, d, hgeneration, -, hrun, -⟩ | ⟨hnone, -⟩ | rfl
  · rw [hgeneration] at hdrops
    simp only [Bool.and_eq_true, decide_eq_true_iff, List.all_eq_true] at hdrops
    obtain ⟨-, hrecords, -⟩ := recordDisk_spec (s := s) hdir d
    have hdisk : (h.step dir e).disk = s.recordDisk dir d := hrun
    rw [hdisk, hrecords hdrops.1, Except.ok.injEq] at hload
    rw [← hload] at hf
    have hother := hdrops.2 f hf
    rw [hsame] at hother
    cases hother
  · rw [hnone] at hdrops
    cases hdrops
  · cases hdrops

set_option maxRecDepth 100000 in
/-- Two products, one after the other, in one directory: the makefile of the first is forgotten. -/
theorem product_makefile_forgotten :
    Past.Always ⟨"/a/b/c"⟩ (fun h e => e.Fits ⟨"/a/b/c"⟩ h.disk) { disk := {} }
        [.initialise ⟨"/"⟩ "a" "b/c" none, .initialise ⟨"/"⟩ "a/b" "c" none] ∧
      ¬ Past.Remembers ⟨"/a/b/c"⟩ { disk := {} }
        [.initialise ⟨"/"⟩ "a" "b/c" none, .initialise ⟨"/"⟩ "a/b" "c" none] := by
  have hfirst : (Event.initialise ⟨"/"⟩ "a" "b/c" none).Fits ⟨"/a/b/c"⟩ {} :=
    fits_initialise (by decide +kernel) none {}
  have hsecond : ∀ d, (Event.initialise ⟨"/"⟩ "a/b" "c" none).Fits ⟨"/a/b/c"⟩ d :=
    fits_initialise (by decide +kernel) none
  refine ⟨⟨hfirst, hsecond _, trivial⟩, ?_⟩
  rintro ⟨⟨-, htracked, -⟩, -⟩
  refine not_tracked_of_drops (p := ⟨"/a/b/c/b/c.mk"⟩) ?_ (hsecond _) ?_ ?_ htracked
  · decide
  · decide +kernel
  · decide +kernel

end DeviceSpec
