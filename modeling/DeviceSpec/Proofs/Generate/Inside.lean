import DeviceSpec.Profile
import DeviceSpec.Proofs.Generate.Course
import DeviceSpec.Proofs.Ledger.Rebase

/-!
# Runs stay in the device directory

Names come from the description as they are, with something put before or after some of them. What
is not allowed in a name is exactly what could lead out of the device directory.

* **names** — a name is refused exactly when it is empty, starts at the root or has a segment of
  two dots (`isInsideName_eq_false_iff`), and then nothing is done for it (`refused_of_leadsOut`);
* **paths** — a path that a run lists is the device directory and at least one name more
  (`Generation.Ran.isBelow`);
* **places** — a file that a run has changed lies at such a path (`generate_stays_inside`).
-/

namespace DeviceSpec

/-- The path has the components of the directory and after them only names, at least one. -/
def Path.IsBelow (p dir : Path) : Prop :=
  ∃ names : List String, names ≠ [] ∧ p.components = dir.components ++ names.map .name

/-- A name that could lead out of the directory it is joined to. -/
def LeadsOut (name : String) : Prop :=
  name = "" ∨ Path.isAbsolute ⟨name⟩ = true ∨ ".." ∈ Path.segments ⟨name⟩

instance (name : String) : Decidable (LeadsOut name) :=
  inferInstanceAs (Decidable (_ ∨ _ ∨ _))

/-! ## Names -/

theorem up_mem_steps_iff {p : Path} : ".." ∈ p.steps ↔ ".." ∈ p.segments := by
  simp [Path.steps, Path.isIdle]

theorem component_of_ne_up {s : String} (h : s ≠ "..") : Path.component s = .name s := by
  rw [Path.component, if_neg h]

/-- A leading dot, names and double dots: two dots come from a step. -/
theorem up_mem_components {p : Path} (h : Component.up ∈ p.components) : ".." ∈ p.steps := by
  rw [Path.components_eq] at h
  rcases List.mem_append.mp h with hhead | hstep
  · unfold Path.split at hhead
    split at hhead <;> simp at hhead
  · obtain ⟨s, hs, hup⟩ := List.mem_map.mp hstep
    unfold Path.component at hup
    split at hup
    · rename_i hdots
      rwa [← hdots]
    · cases hup

/-- A name is refused exactly when it could lead out. -/
theorem isInsideName_eq_false_iff {name : String} : isInsideName name = false ↔ LeadsOut name := by
  rw [← Bool.not_eq_true]
  constructor
  · intro hrefused
    apply Classical.byContradiction
    intro hin
    unfold LeadsOut at hin
    rw [not_or, not_or] at hin
    obtain ⟨hne, hrel, hup⟩ := hin
    refine hrefused ?_
    rw [isInsideName, Bool.and_eq_true, List.all_eq_true]
    refine ⟨by simpa using hne, fun c hc => ?_⟩
    cases c with
    | root => exact absurd (Path.root_mem_components_iff.mp hc) hrel
    | here => rfl
    | up => exact absurd (up_mem_steps_iff.mp (up_mem_components hc)) hup
    | name s => rfl
  · intro hout hinside
    obtain ⟨hrel, hup⟩ := inside_of_isInsideName hinside
    rcases hout with hempty | habs | hdots
    · exact nonempty_of_isInsideName hinside hempty
    · rw [hrel] at habs
      cases habs
    · exact hup (up_mem_steps_iff.mpr hdots)

/-- Nothing is done for a name that could lead out. -/
theorem refused_of_leadsOut {s : Spec} {i : Item} (h : LeadsOut (i.fileName s)) (dir : Path)
    (d : Disk) : i.Refused s dir d (outsideName (i.fileName s)) d :=
  .name (isInsideName_eq_false_iff.mpr h)

/-! ## Paths -/

/-- A name that is allowed and has a step leads below the directory. -/
theorem isBelow_join {dir : Path} {name : String} (hdir : dir.isAbsolute = true)
    (hinside : isInsideName name = true) (hne : Path.steps ⟨name⟩ ≠ []) :
    (dir.join name).IsBelow dir := by
  obtain ⟨hrel, hup⟩ := inside_of_isInsideName hinside
  have hnames : (Path.steps ⟨name⟩).map Path.component = (Path.steps ⟨name⟩).map .name := by
    apply List.map_congr_left
    intro s hs
    apply component_of_ne_up
    rintro rfl
    exact hup hs
  refine ⟨Path.steps ⟨name⟩, hne, ?_⟩
  rw [Path.components_of_isAbsolute (Path.isAbsolute_join hdir name),
    Path.components_of_isAbsolute hdir, Path.steps_join hrel, List.map_append, hnames]
  rfl

section Run

variable {g : Generation} {s : Spec} {dir : Path} {d : Disk} {done : List Item}

/-- Every path that a run lists lies below the device directory, by its components and by its
place. -/
theorem Generation.Ran.isBelow (h : g.Ran s dir d done) (hdir : dir.isAbsolute = true) {p : Path}
    (hp : p ∈ g.paths dir) :
    p.IsBelow dir ∧ ∃ names, names ≠ [] ∧ d.place p = d.place dir ++ names := by
  obtain ⟨⟨name, hinside, rfl⟩, hfile⟩ := h.of_mem_paths hp
  obtain ⟨hrel, hup⟩ := inside_of_isInsideName hinside
  have hne := steps_ne_nil_of_isFile hrel hfile
  exact ⟨isBelow_join hdir hinside hne, _, hne, Disk.place_join hrel hup⟩

/-- A file that is not as it was has been written. -/
theorem Generation.Ran.exists_path_of_changed (h : g.Ran s dir d done) {l : Location}
    {content : ByteArray} (hafter : g.disk.node? l = some (.file content))
    (hbefore : d.node? l ≠ some (.file content)) : ∃ p ∈ g.paths dir, d.place p = l := by
  rcases h.wroteAll.node?_file.mp hafter with hlast | ⟨-, hsame⟩
  · have hsome : d.lastAt l (writes s dir done) ≠ none := by simp [hlast]
    obtain ⟨w, hw, hplace⟩ := Disk.exists_mem_of_lastAt hsome
    exact ⟨w.1, h.mem_paths.mpr ⟨w.2, hw⟩, hplace⟩
  · exact absurd hsame hbefore

end Run

/-! ## Places -/

/-- A run stops at a name that could lead out at the latest. -/
theorem generate_of_leadsOut {s : Spec} (dir : Path) (d : Disk) {front rest : List Item} {i : Item}
    (hitems : s.items = front ++ i :: rest) (hout : LeadsOut (i.fileName s)) :
    (s.generate dir d).failure ≠ none ∧ (s.generate dir d).written.length ≤ front.length := by
  obtain ⟨hran, hall⟩ := generate_ran s dir d
  have hnot : i ∉ s.doneItems dir d := by
    intro hi
    have hinside := hran.inside i hi
    rw [isInsideName_eq_false_iff.mpr hout] at hinside
    cases hinside
  constructor
  · intro hfailure
    rw [hall hfailure, hitems] at hnot
    exact hnot (List.mem_append_right _ List.mem_cons_self)
  · -- a longer run would have written the item
    apply Classical.byContradiction
    intro hlong
    refine hnot ?_
    rw [Spec.doneItems, hitems, List.take_append]
    obtain ⟨n, hn⟩ := Nat.exists_eq_succ_of_ne_zero
      (Nat.sub_ne_zero_of_lt (Nat.lt_of_not_le hlong))
    rw [hn, List.take_succ_cons]
    exact List.mem_append_right _ List.mem_cons_self

/-- Whatever comes of a run, every path that it lists and every file that it changes lies below the
device directory. A name that is empty, starts at the root or has two dots is not written: the
run stops there, or before. -/
theorem generate_stays_inside {dir : Path} (hdir : dir.isAbsolute = true) (s : Spec) (d : Disk) :
    (∀ p ∈ (s.generate dir d).paths dir, p.IsBelow dir) ∧
    (∀ l content, (s.generate dir d).disk.node? l = some (.file content) →
      d.node? l ≠ some (.file content) →
        (∃ p ∈ (s.generate dir d).paths dir, d.place p = l) ∧
          ∃ names, names ≠ [] ∧ l = d.place dir ++ names) ∧
    ∀ front i rest, s.items = front ++ i :: rest → LeadsOut (i.fileName s) →
      (s.generate dir d).failure ≠ none ∧ (s.generate dir d).written.length ≤ front.length ∧
        ∀ e, AllWritten s dir front d e → s.generate dir d =
          ⟨e, front.map (Item.fileName s), some (.render (i.fileName s)
            "file names must be relative to the device directory")⟩ := by
  obtain ⟨hran, -⟩ := generate_ran s dir d
  refine ⟨fun p hp => (hran.isBelow hdir hp).1, fun l content hafter hbefore => ?_,
    fun front i rest hitems hout => ?_⟩
  · obtain ⟨p, hp, rfl⟩ := hran.exists_path_of_changed hafter hbefore
    exact ⟨⟨p, hp, rfl⟩, (hran.isBelow hdir hp).2⟩
  · obtain ⟨hfailure, hlength⟩ := generate_of_leadsOut dir d hitems hout
    exact ⟨hfailure, hlength, fun e h => generate_of_refused hitems h (refused_of_leadsOut hout dir e)⟩

/-- A table of mounts that is to lie beside the device directory. -/
theorem generate_stays_inside_escaping : Path.isAbsolute ⟨"/d"⟩ = true ∧
    LeadsOut "../fstab" ∧
    (∀ p ∈ ((profile.withFstab "../fstab").generate ⟨"/d"⟩ oneDirectory).paths ⟨"/d"⟩,
      p.IsBelow ⟨"/d"⟩) ∧
    ((profile.withFstab "../fstab").generate ⟨"/d"⟩ oneDirectory).failure ≠ none := by
  have hdir : Path.isAbsolute ⟨"/d"⟩ = true := by decide
  have hout : LeadsOut "../fstab" := by decide
  obtain ⟨hpaths, -, hstops⟩ :=
    generate_stays_inside hdir (profile.withFstab "../fstab") oneDirectory
  have hmem : Item.artifact .fstab ∈ (profile.withFstab "../fstab").items := by decide +kernel
  obtain ⟨front, rest, hitems⟩ := List.append_of_mem hmem
  exact ⟨hdir, hout, hpaths, (hstops front _ rest hitems hout).1⟩

end DeviceSpec
