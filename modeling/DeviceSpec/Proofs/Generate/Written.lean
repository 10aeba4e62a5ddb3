import DeviceSpec.Generate
import DeviceSpec.Profile
import DeviceSpec.Proofs.Disk.Change

/-!
# What a run writes

A run writes a front part of its items, all of them if it does not fail, and nothing else.

* **names** — a name that is allowed leads below the device directory (`inside_of_isInsideName`);
* **one item** — it writes one file or, when it fails, none (`writeNamed_ok`, `writeNamed_error`);
* **a run** — it has written the items whose names it lists (`writeItems_ran`), and nothing outside
  the device directory has changed (`writeItems_outside`).
-/

namespace DeviceSpec

/-- A name that is allowed neither starts at the root nor steps up. -/
theorem inside_of_isInsideName {name : String} (h : isInsideName name = true) :
    Path.isAbsolute ⟨name⟩ = false ∧ ".." ∉ Path.steps ⟨name⟩ := by
  unfold isInsideName at h
  rw [Bool.and_eq_true, List.all_eq_true] at h
  constructor
  · cases habs : Path.isAbsolute ⟨name⟩ with
    | false => rfl
    | true => exact absurd (h.2 _ (Path.root_mem_components_iff.mpr habs)) (by decide)
  · intro hup
    have hmem : Component.up ∈ (Path.mk name).components := by
      rw [Path.components_eq]
      exact List.mem_append_right _ (List.mem_map.mpr ⟨"..", hup, rfl⟩)
    exact absurd (h.2 _ hmem) (by decide)

theorem nonempty_of_isInsideName {name : String} (h : isInsideName name = true) : name ≠ "" := by
  rintro rfl
  exact absurd h (by decide)

/-! ## One item -/

section Named

variable {dir : Path} {name text : String} {d e : Disk}

theorem writeNamed_ok (h : writeNamed dir name text d = (.ok (), e)) :
    isInsideName name = true ∧ d.WroteAll e [(dir.join name, text.toUTF8)] := by
  unfold writeNamed at h
  cases hinside : isInsideName name with
  | false => simp [hinside] at h
  | true =>
    simp only [hinside, Bool.not_true, Bool.false_eq_true, if_false] at h
    have hmore := Disk.moreDirs_makeParents d (dir.join name)
    split at h
    · cases h
    · rename_i d' hparents
      rw [hparents] at hmore
      split at h
      · cases h
      · rename_i e' hwrite
        cases h
        exact ⟨rfl, hmore.wroteAll.append (Disk.wroteAll_write hwrite)⟩

theorem writeNamed_error {err : GenerateError} (h : writeNamed dir name text d = (.error err, e)) :
    d.MoreDirs e := by
  unfold writeNamed at h
  cases hinside : isInsideName name with
  | false =>
    simp only [hinside, Bool.not_false, if_true, Prod.mk.injEq] at h
    rw [← h.2]
    exact Disk.MoreDirs.refl d
  | true =>
    simp only [hinside, Bool.not_true, Bool.false_eq_true, if_false] at h
    have hmore := Disk.moreDirs_makeParents d (dir.join name)
    split at h
    · rename_i d' hparents
      cases h
      rwa [hparents] at hmore
    · rename_i d' hparents
      rw [hparents] at hmore
      split at h
      · cases h
        exact hmore
      · cases h

/-- A name that is allowed is written with the directories above it. -/
theorem writeNamed_disk (hinside : isInsideName name = true) :
    (writeNamed dir name text d).2 = (d.writeWithParents (dir.join name) text.toUTF8).2 := by
  unfold writeNamed Disk.writeWithParents
  simp only [hinside, Bool.not_true, Bool.false_eq_true, if_false]
  cases d.makeParents (dir.join name) with
  | mk result d' =>
    cases result with
    | error err => simp only
    | ok u => cases hwrite : d'.write (dir.join name) text.toUTF8 <;> simp only [hwrite]

/-- Writing a file in a directory that is there changes nothing outside. -/
theorem writeNamed_outside (hdir : dir.isAbsolute = true) (hthere : d.isDir dir = true)
    {l : Location} (hl : ¬ d.place dir <+: l) :
    (writeNamed dir name text d).2.node? l = d.node? l := by
  cases hinside : isInsideName name with
  | false => simp [writeNamed, hinside]
  | true =>
    obtain ⟨hrel, hup⟩ := inside_of_isInsideName hinside
    rw [writeNamed_disk hinside]
    exact Disk.writeWithParents_outside hdir hthere hrel hup hl

end Named

/-! ## A run -/

/-- Where the file of an item lies. -/
def Item.place (s : Spec) (dir : Path) (d : Disk) (i : Item) : Location :=
  d.place (dir.join (i.fileName s))

/-- What is written for an item. -/
def Item.write? (s : Spec) (dir : Path) (i : Item) : Option (Path × ByteArray) :=
  (i.render? s).map fun text => (dir.join (i.fileName s), text.toUTF8)

/-- What is written for a list of items. -/
def writes (s : Spec) (dir : Path) (is : List Item) : List (Path × ByteArray) :=
  is.filterMap (Item.write? s dir)

/-- The run has written the items `done` and no other. -/
structure Generation.Ran (g : Generation) (s : Spec) (dir : Path) (d : Disk) (done : List Item) :
    Prop where
  written : g.written = done.map (Item.fileName s)
  inside : ∀ i ∈ done, isInsideName (i.fileName s) = true
  rendered : ∀ i ∈ done, ∃ text, i.render? s = some text
  wroteAll : d.WroteAll g.disk (writes s dir done)

/-- Items that have a text are all written, each with its own. -/
theorem writes_eq_map {s : Spec} {is : List Item} (dir : Path)
    (h : ∀ i ∈ is, ∃ text, i.render? s = some text) :
    writes s dir is =
      is.map (fun i => (dir.join (i.fileName s), ((i.render? s).getD "").toUTF8)) := by
  unfold writes
  induction is with
  | nil => rfl
  | cons i is ih =>
    obtain ⟨text, htext⟩ := h i List.mem_cons_self
    have hwrite : i.write? s dir = some (dir.join (i.fileName s), text.toUTF8) := by
      rw [Item.write?, htext]
      rfl
    rw [List.filterMap_cons_some hwrite, ih (fun j hj => h j (List.mem_cons_of_mem _ hj)),
      List.map_cons, htext, Option.getD_some]

theorem content_eq_ok {s : Spec} {i : Item} {text : String} (h : i.content s = .ok text) :
    i.render? s = some text := by
  unfold Item.content at h
  split at h
  · rename_i hrender
    rw [hrender, Except.ok.inj h]
  · cases h

/-- One item of a run: it ends the run and at most leaves directories, or it is written and the run
goes on. -/
theorem writeItems_cons (s : Spec) (dir : Path) (i : Item) (is : List Item) (d : Disk) :
    (∃ e err, d.MoreDirs e ∧ writeItems s dir (i :: is) d = ⟨e, [], some err⟩) ∨
    ∃ text e, i.render? s = some text ∧ isInsideName (i.fileName s) = true ∧
      d.WroteAll e [(dir.join (i.fileName s), text.toUTF8)] ∧
      writeItems s dir (i :: is) d = { writeItems s dir is e with
        written := i.fileName s :: (writeItems s dir is e).written } := by
  cases hcontent : i.content s with
  | error err =>
    refine .inl ⟨d, err, Disk.MoreDirs.refl d, ?_⟩
    simp only [writeItems, hcontent]
  | ok text =>
    cases hnamed : writeNamed dir (i.fileName s) text d with
    | mk result e =>
      cases result with
      | error err =>
        refine .inl ⟨e, err, writeNamed_error hnamed, ?_⟩
        simp only [writeItems, hcontent, hnamed]
      | ok u =>
        obtain ⟨hinside, hwrote⟩ := writeNamed_ok hnamed
        refine .inr ⟨text, e, content_eq_ok hcontent, hinside, hwrote, ?_⟩
        simp only [writeItems, hcontent, hnamed]

theorem ran_nil {s : Spec} {dir : Path} {d e : Disk} (h : d.MoreDirs e)
    (failure : Option GenerateError) : Generation.Ran ⟨e, [], failure⟩ s dir d [] :=
  ⟨rfl, nofun, nofun, h.wroteAll⟩

/-- An item that is written before the others has been written with them. -/
theorem Generation.Ran.cons {g : Generation} {s : Spec} {dir : Path} {d e : Disk}
    {done : List Item} (h : g.Ran s dir e done) {i : Item} {text : String}
    (hrender : i.render? s = some text) (hinside : isInsideName (i.fileName s) = true)
    (hwrote : d.WroteAll e [(dir.join (i.fileName s), text.toUTF8)]) :
    Generation.Ran { g with written := i.fileName s :: g.written } s dir d (i :: done) := by
  refine ⟨?_, fun j hj => ?_, fun j hj => ?_, ?_⟩
  · rw [List.map_cons, ← h.written]
  · rcases List.mem_cons.mp hj with rfl | hj
    · exact hinside
    · exact h.inside j hj
  · rcases List.mem_cons.mp hj with rfl | hj
    · exact ⟨text, hrender⟩
    · exact h.rendered j hj
  · have hwrites : writes s dir (i :: done) =
        [(dir.join (i.fileName s), text.toUTF8)] ++ writes s dir done := by
      simp [writes, Item.write?, hrender]
    rw [hwrites]
    exact hwrote.append h.wroteAll

/-- A run writes a front part of its items, and all of them unless it fails. -/
theorem writeItems_ran (s : Spec) (dir : Path) (is : List Item) (d : Disk) :
    ∃ done rest, is = done ++ rest ∧ (writeItems s dir is d).Ran s dir d done ∧
      ((writeItems s dir is d).failure = none ↔ rest = []) := by
  induction is generalizing d with
  | nil => exact ⟨[], [], rfl, ran_nil (Disk.MoreDirs.refl d) none, by simp [writeItems]⟩
  | cons i is ih =>
    rcases writeItems_cons s dir i is d with
      ⟨e, err, hmore, hstop⟩ | ⟨text, e, hrender, hinside, hwrote, hitems⟩
    · rw [hstop]
      exact ⟨[], i :: is, rfl, ran_nil hmore _, by simp⟩
    · obtain ⟨done, rest, his, hran, hfailure⟩ := ih e
      rw [hitems]
      exact ⟨i :: done, rest, by rw [his]; rfl, hran.cons hrender hinside hwrote, hfailure⟩

/-- The items that generating everything has written. -/
def Spec.doneItems (s : Spec) (dir : Path) (d : Disk) : List Item :=
  s.items.take (s.generate dir d).written.length

theorem generate_ran (s : Spec) (dir : Path) (d : Disk) :
    (s.generate dir d).Ran s dir d (s.doneItems dir d) ∧
      ((s.generate dir d).failure = none → s.doneItems dir d = s.items) := by
  obtain ⟨done, rest, hitems, hran, hfailure⟩ := writeItems_ran s dir s.items d
  have hlength : (s.generate dir d).written.length = done.length := by
    rw [Spec.generate, hran.written, List.length_map]
  have hdone : s.doneItems dir d = done := by
    rw [Spec.doneItems, hlength, hitems, List.take_left']
    rfl
  rw [hdone]
  refine ⟨hran, fun h => ?_⟩
  rw [hitems, hfailure.mp h, List.append_nil]

/-- A run in a directory that is there changes nothing outside it. -/
theorem writeItems_outside {s : Spec} {dir : Path} (hdir : dir.isAbsolute = true) {is : List Item}
    {d : Disk} (hthere : d.isDir dir = true) {l : Location} (hl : ¬ d.place dir <+: l) :
    (writeItems s dir is d).disk.node? l = d.node? l := by
  induction is generalizing d with
  | nil => rfl
  | cons i is ih =>
    unfold writeItems
    split
    · rfl
    · rename_i text hcontent
      have houtside : (writeNamed dir (i.fileName s) text d).2.node? l = d.node? l :=
        writeNamed_outside hdir hthere hl
      split
      · rename_i e hnamed
        rwa [hnamed] at houtside
      · rename_i e hnamed
        rw [hnamed] at houtside
        obtain ⟨-, hwrote⟩ := writeNamed_ok hnamed
        refine (ih (Disk.isDir_mono hwrote.keepsDirs hthere) ?_).trans houtside
        rwa [hwrote.keepsDirs.place_eq]

/-! ## Paths of a run -/

section Ran

variable {g : Generation} {s : Spec} {dir : Path} {d : Disk} {done : List Item}

theorem mem_writes {w : Path × ByteArray} : w ∈ writes s dir done ↔
    ∃ i ∈ done, ∃ text, i.render? s = some text ∧ w = (dir.join (i.fileName s), text.toUTF8) := by
  unfold writes
  rw [List.mem_filterMap]
  constructor
  · rintro ⟨i, hi, hw⟩
    obtain ⟨text, htext, rfl⟩ := Option.map_eq_some_iff.mp hw
    exact ⟨i, hi, text, htext, rfl⟩
  · rintro ⟨i, hi, text, htext, rfl⟩
    exact ⟨i, hi, by rw [Item.write?, htext]; rfl⟩

/-- The paths of a run are those it has written to. -/
theorem Generation.Ran.mem_paths (h : g.Ran s dir d done) {p : Path} :
    p ∈ g.paths dir ↔ ∃ content, (p, content) ∈ writes s dir done := by
  unfold Generation.paths
  rw [h.written, List.map_map, List.mem_map]
  constructor
  · rintro ⟨i, hi, rfl⟩
    obtain ⟨text, htext⟩ := h.rendered i hi
    exact ⟨text.toUTF8, mem_writes.mpr ⟨i, hi, text, htext, rfl⟩⟩
  · rintro ⟨content, hp⟩
    obtain ⟨i, hi, text, -, hw⟩ := mem_writes.mp hp
    exact ⟨i, hi, (congrArg Prod.fst hw).symm⟩

/-- Every path of a run is a name below the device directory, and leads to a file. -/
theorem Generation.Ran.of_mem_paths (h : g.Ran s dir d done) {p : Path} (hp : p ∈ g.paths dir) :
    (∃ name, isInsideName name = true ∧ p = dir.join name) ∧ g.disk.isFile p = true := by
  obtain ⟨content, hw⟩ := h.mem_paths.mp hp
  obtain ⟨i, hi, text, -, heq⟩ := mem_writes.mp hw
  exact ⟨⟨i.fileName s, h.inside i hi, congrArg Prod.fst heq⟩, h.wroteAll.isFile p content hw⟩

/-- The paths of a run are those it has written to, in order. -/
theorem Generation.Ran.map_fst_writes (h : g.Ran s dir d done) :
    (writes s dir done).map Prod.fst = g.paths dir := by
  rw [writes_eq_map dir h.rendered, Generation.paths, h.written, List.map_map, List.map_map]
  rfl

theorem Generation.Ran.mem_paths_iff_item (h : g.Ran s dir d done) {p : Path} :
    p ∈ g.paths dir ↔ ∃ i ∈ done, dir.join (i.fileName s) = p := by
  rw [Generation.paths, h.written, List.map_map, List.mem_map]
  rfl

end Ran

/-! ## Something to run on -/

/-- A disk with one directory, which is empty. -/
def oneDirectory : Disk := { entries := [(["d"], .directory)] }

set_option maxRecDepth 100000 in
/-- The bundled profile is generated there without failure. -/
theorem profile_generates : (profile.generate ⟨"/d"⟩ oneDirectory).failure = none := by
  decide +kernel

/-- The description with another name for its table of mounts. -/
def Spec.withFstab (s : Spec) (name : String) : Spec :=
  let ramdisk := s.bootImage.ramdisk
  { s with bootImage := { s.bootImage with
    ramdisk := { ramdisk with fstab := { ramdisk.fstab with name := name } } } }

end DeviceSpec
