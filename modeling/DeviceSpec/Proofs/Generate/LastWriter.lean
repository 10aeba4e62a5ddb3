import DeviceSpec.Check.Rule
import DeviceSpec.Proofs.Generate.Written

/-!
# Items that share a file

Names of items come from the product, the ramdisk and the scripts, and nothing compares them, so
two items may lead to one file. Then the later one wins.

* **winning** — after a run that does not fail every file holds the text of the last item that
  leads to it, so all items keep their texts exactly when items that share a file have the same
  text (`generate_holds_last`);
* **own names** — the names that do not come from the description never lead to one file
  (`place_ownNamed_inj`).
-/

namespace DeviceSpec

/-- The last item that leads to a location. -/
def Spec.lastItem? (s : Spec) (dir : Path) (d : Disk) (l : Location) : Option Item :=
  (s.items.filter (fun i => i.place s dir d = l)).getLast?

/-- The file of an item holds its text. -/
def Item.Holds (s : Spec) (dir : Path) (d : Disk) (i : Item) : Prop :=
  ∃ text, i.render? s = some text ∧ d.read (dir.join (i.fileName s)) = .ok text.toUTF8

/-- The files whose names do not come from the description. -/
def Artifact.ownNamed : List Artifact :=
  [.lunchScript, .productIndex, .boardMakefile, .deviceMakefile, .manifest]
    ++ PolicyFile.all.map .policy

/-! ## The last writer -/

/-- What is written last to a location is the text of the last item that leads there. -/
theorem lastAt_writes {s : Spec} {is : List Item} (dir : Path) (d : Disk) (l : Location)
    (h : ∀ i ∈ is, ∃ text, i.render? s = some text) :
    d.lastAt l (writes s dir is) =
      (is.filter (fun i => i.place s dir d = l)).getLast?.map
        (fun i => ((i.render? s).getD "").toUTF8) := by
  rw [Disk.lastAt, writes_eq_map dir h, List.filter_map, List.getLast?_map, Option.map_map]
  rfl

theorem toUTF8_injective {a b : String} (h : a.toUTF8 = b.toUTF8) : a = b :=
  String.toByteArray_inj.mp h

/-- After a run that does not fail, a file holds the text of the last item that leads to it. -/
theorem generate_read_last {s : Spec} {dir : Path} {d : Disk}
    (h : (s.generate dir d).failure = none) {i : Item} (hi : i ∈ s.items) :
    ∃ j ∈ s.items, ∃ text, s.lastItem? dir d (i.place s dir d) = some j ∧
      j.place s dir d = i.place s dir d ∧ j.render? s = some text ∧
      (s.generate dir d).disk.read (dir.join (i.fileName s)) = .ok text.toUTF8 := by
  obtain ⟨hran, hall⟩ := generate_ran s dir d
  rw [hall h] at hran
  obtain ⟨own, hown⟩ := hran.rendered i hi
  have hmem : (dir.join (i.fileName s), own.toUTF8) ∈ writes s dir s.items :=
    mem_writes.mpr ⟨i, hi, own, hown, rfl⟩
  -- the item itself leads to its place, so there is a last one that does
  have hfilter : i ∈ s.items.filter (fun j => j.place s dir d = i.place s dir d) := by
    simp [hi]
  obtain ⟨j, hj⟩ := Option.isSome_iff_exists.mp
    (List.getLast?_isSome.mpr (List.ne_nil_of_mem hfilter))
  have hjmem := List.mem_filter.mp (List.mem_of_getLast? hj)
  obtain ⟨text, htext⟩ := hran.rendered j hjmem.1
  have hlast := lastAt_writes dir d (i.place s dir d) hran.rendered
  rw [hj, Option.map_some, htext, Option.getD_some] at hlast
  exact ⟨j, hjmem.1, text, hj, of_decide_eq_true hjmem.2, htext, hran.wroteAll.read hmem hlast⟩

/-! ## Names of one's own -/

/-- Their names are the same for every description. -/
theorem Artifact.fileName_ownNamed {a : Artifact} (ha : a ∈ Artifact.ownNamed) (s t : Spec) :
    a.fileName s = a.fileName t := by
  cases a with
  | productMakefile | ueventScript | fstab | usbScript => exact absurd ha (by decide)
  | _ => rfl

/-- Two files whose names do not come from the description never lie in one place. -/
theorem place_ownNamed_inj {s : Spec} {dir : Path} {d : Disk} {a b : Artifact}
    (ha : a ∈ Artifact.ownNamed) (hb : b ∈ Artifact.ownNamed)
    (h : (Item.artifact a).place s dir d = (Item.artifact b).place s dir d) : a = b := by
  have hinside : ∀ c ∈ Artifact.ownNamed, isInsideName (c.fileName default) = true := by
    decide +kernel
  have hdistinct : ∀ a ∈ Artifact.ownNamed, ∀ b ∈ Artifact.ownNamed,
      Path.steps ⟨a.fileName default⟩ = Path.steps ⟨b.fileName default⟩ → a = b := by
    decide +kernel
  obtain ⟨hrela, hupa⟩ := inside_of_isInsideName (hinside a ha)
  obtain ⟨hrelb, hupb⟩ := inside_of_isInsideName (hinside b hb)
  simp only [Item.place, Item.fileName] at h
  rw [Artifact.fileName_ownNamed ha s default, Artifact.fileName_ownNamed hb s default,
    Disk.place_join hrela hupa, Disk.place_join hrelb hupb] at h
  exact hdistinct a ha b hb (List.append_cancel_left h)

/-! ## All items together -/

/-- After a run that does not fail the file of every item holds the text of the last item that
leads to it. So all items keep their texts exactly when those that share a file have one text, and
files with names of their own share none. -/
theorem generate_holds_last (s : Spec) (dir : Path) (d : Disk)
    (h : (s.generate dir d).failure = none) :
    (∀ i ∈ s.items, ∃ j text, s.lastItem? dir d (i.place s dir d) = some j ∧
      j.render? s = some text ∧
      (s.generate dir d).disk.read (dir.join (i.fileName s)) = .ok text.toUTF8) ∧
    ((∀ i ∈ s.items, i.Holds s dir (s.generate dir d).disk) ↔
      ∀ i ∈ s.items, ∀ j ∈ s.items,
        i.place s dir d = j.place s dir d → i.render? s = j.render? s) ∧
    ∀ a ∈ Artifact.ownNamed, ∀ b ∈ Artifact.ownNamed,
      (Item.artifact a).place s dir d = (Item.artifact b).place s dir d → a = b := by
  refine ⟨?_, ⟨?_, ?_⟩, fun a ha b hb => place_ownNamed_inj ha hb⟩
  · intro i hi
    obtain ⟨j, -, text, hlast, -, htext, hread⟩ := generate_read_last h hi
    exact ⟨j, text, hlast, htext, hread⟩
  · -- items with one place have one last item, whose text both files hold
    intro hholds i hi j hj hplace
    obtain ⟨k, -, text, hlast, -, htext, hread⟩ := generate_read_last h hi
    obtain ⟨k', -, text', hlast', -, htext', hread'⟩ := generate_read_last h hj
    rw [← hplace, hlast, Option.some.injEq] at hlast'
    rw [← hlast', htext, Option.some.injEq] at htext'
    obtain ⟨own, hown, hreadOwn⟩ := hholds i hi
    obtain ⟨own', hown', hreadOwn'⟩ := hholds j hj
    rw [hreadOwn, Except.ok.injEq] at hread
    rw [hreadOwn', Except.ok.injEq] at hread'
    rw [hown, hown', toUTF8_injective hread, toUTF8_injective hread', htext']
  · intro hsame i hi
    obtain ⟨j, hj, text, -, hplace, htext, hread⟩ := generate_read_last h hi
    exact ⟨text, (hsame i hi j hj hplace.symm).trans htext, hread⟩

/-- The bundled profile generates without failure. -/
theorem generate_holds_last_profile :
    (profile.generate ⟨"/d"⟩ oneDirectory).failure = none ∧
      ∀ i ∈ profile.items, ∃ j text,
        profile.lastItem? ⟨"/d"⟩ oneDirectory (i.place profile ⟨"/d"⟩ oneDirectory) = some j ∧
        j.render? profile = some text ∧
        (profile.generate ⟨"/d"⟩ oneDirectory).disk.read ((Path.mk "/d").join (i.fileName profile))
          = .ok text.toUTF8 :=
  ⟨profile_generates, (generate_holds_last profile ⟨"/d"⟩ oneDirectory profile_generates).1⟩

set_option maxRecDepth 100000 in
/-- In the bundled profile, which passes all checks, the makefile of the product replaces the device
makefile: the product is called `device`. -/
theorem device_makefile_replaced :
    (validate profile ⟨⟨"/d"⟩, none, false⟩ oneDirectory).passed = true ∧
      (profile.generate ⟨"/d"⟩ oneDirectory).failure = none ∧
      Item.artifact .deviceMakefile ∈ profile.items ∧
      Item.artifact .productMakefile ∈ profile.items ∧
      (Path.mk "/d").join (Artifact.deviceMakefile.fileName profile) =
        (Path.mk "/d").join (Artifact.productMakefile.fileName profile) ∧
      ¬ (Item.artifact .deviceMakefile).Holds profile ⟨"/d"⟩
        (profile.generate ⟨"/d"⟩ oneDirectory).disk := by
  have hmem : Item.artifact .deviceMakefile ∈ profile.items := by decide +kernel
  have hlast : profile.lastItem? ⟨"/d"⟩ oneDirectory
      ((Item.artifact .deviceMakefile).place profile ⟨"/d"⟩ oneDirectory) =
        some (.artifact .productMakefile) := by decide +kernel
  have hne : profile.deviceMakefile.render ≠ profile.productMakefile.render := by decide +kernel
  refine ⟨by decide +kernel, profile_generates, hmem, by decide +kernel, by decide +kernel, ?_⟩
  rintro ⟨own, hown, hreadOwn⟩
  obtain ⟨j, -, text, hj, -, htext, hread⟩ := generate_read_last profile_generates hmem
  rw [hlast, Option.some.injEq] at hj
  rw [← hj] at htext
  rw [hreadOwn, Except.ok.injEq] at hread
  have hown' : profile.deviceMakefile.render = own := Option.some.inj hown
  have htext' : profile.productMakefile.render = text := Option.some.inj htext
  exact hne (by rw [hown', htext', toUTF8_injective hread])

end DeviceSpec
