import DeviceSpec.Proofs.Generate.Written
import DeviceSpec.Proofs.Render.Policy

/-!
# The course of a run

An item is written when its name is allowed, the directories above its file can be made, and the
file can be written then. Which of this fails depends on the disk that the items before it leave.

* **one item** — it is written or refused for one reason (`Item.written_or_refused`), and the run
  goes on or stops there (`writeItems_of_written`, `writeItems_of_refused`);
* **all items** — the planned files come first and then the scripts that are written from their
  description (`Spec.items_eq`); either all of them are written one after the other, or those before
  the first that is refused (`allWritten_or_refused`); every planned item has a text
  (`exists_render_of_mem_items`);
* **the whole** — what a run answers is exactly this (`generate_exact`).
-/

namespace DeviceSpec

/-- The files that a description asks for before its init scripts: six that every device has, the
device node rules unless they are copied from a file, the table of mounts, the script of the USB
gadget if there is one, and the policy files that have something in them. -/
def Spec.dueArtifacts (s : Spec) : List Artifact :=
  [.lunchScript, .productIndex, .boardMakefile, .deviceMakefile, .manifest, .productMakefile]
    ++ (if s.bootImage.ramdisk.ueventScript.file ≠ "" then [] else [.ueventScript])
    ++ [.fstab] ++ (if s.board.usbGadget.isSome then [.usbScript] else [])
    ++ ([.fileTypes, .serviceTypes, .fileContexts, .serviceContexts].filter fun f : PolicyFile =>
        f.render s ≠ "").map .policy

/-- The init scripts that have a name and no file of their own, those of the ramdisk before those of
the HALs. -/
def Spec.dueScripts (s : Spec) : List InitScript :=
  (s.bootImage.ramdisk.initScripts ++ s.hals.flatMap Hal.initScripts).filter fun i =>
    i.file = "" ∧ i.name ≠ ""

/-- The item is written: its name is allowed, the directories above its file are made, and then the
file is. -/
structure Item.Written (s : Spec) (dir : Path) (i : Item) (d e : Disk) : Prop where
  inside : isInsideName (i.fileName s) = true
  made : ∃ text between, i.render? s = some text ∧
    d.makeParents (dir.join (i.fileName s)) = (.ok (), between) ∧
    between.write (dir.join (i.fileName s)) text.toUTF8 = .ok e

/-- The item cannot be written, for a reason. Directories that were made for it stay. -/
inductive Item.Refused (s : Spec) (dir : Path) (i : Item) (d : Disk) : GenerateError → Disk → Prop
  | name (h : isInsideName (i.fileName s) = false) : Refused s dir i d (outsideName (i.fileName s)) d
  | directories {cause : FileError} {e : Disk} (h : isInsideName (i.fileName s) = true)
      (hmake : d.makeParents (dir.join (i.fileName s)) = (.error cause, e)) :
      Refused s dir i d (.createDir (dir.join (i.fileName s)) cause) e
  | file {text : String} {cause : FileError} {e : Disk} (h : isInsideName (i.fileName s) = true)
      (hrender : i.render? s = some text)
      (hmake : d.makeParents (dir.join (i.fileName s)) = (.ok (), e))
      (hwrite : e.write (dir.join (i.fileName s)) text.toUTF8 = .error cause) :
      Refused s dir i d (.write (dir.join (i.fileName s)) cause) e

/-- The items are written one after the other. -/
inductive AllWritten (s : Spec) (dir : Path) : List Item → Disk → Disk → Prop
  | nil (d : Disk) : AllWritten s dir [] d d
  | cons {i : Item} {is : List Item} {d e f : Disk} (head : i.Written s dir d e)
      (tail : AllWritten s dir is e f) : AllWritten s dir (i :: is) d f

/-! ## One item -/

section Course

variable {s : Spec} {dir : Path} {i : Item} {is : List Item} {d e f : Disk}

/-- An item with a text is written or refused. -/
theorem Item.written_or_refused {text : String} (hrender : i.render? s = some text) (dir : Path)
    (d : Disk) : (∃ e, i.Written s dir d e) ∨ ∃ err e, i.Refused s dir d err e := by
  cases hinside : isInsideName (i.fileName s) with
  | false => exact .inr ⟨_, _, .name hinside⟩
  | true =>
    cases hmake : d.makeParents (dir.join (i.fileName s)) with
    | mk result between =>
      cases result with
      | error cause => exact .inr ⟨_, _, .directories hinside hmake⟩
      | ok u =>
        cases hwrite : between.write (dir.join (i.fileName s)) text.toUTF8 with
        | error cause => exact .inr ⟨_, _, .file hinside hrender hmake hwrite⟩
        | ok e => exact .inl ⟨e, hinside, text, between, hrender, hmake, hwrite⟩

theorem content_of_render {text : String} (h : i.render? s = some text) : i.content s = .ok text := by
  rw [Item.content, h]

/-- A run goes on after an item that is written. -/
theorem writeItems_of_written (h : i.Written s dir d e) (is : List Item) :
    writeItems s dir (i :: is) d = { writeItems s dir is e with
      written := i.fileName s :: (writeItems s dir is e).written } := by
  obtain ⟨hinside, text, between, hrender, hmake, hwrite⟩ := h
  have hnamed : writeNamed dir (i.fileName s) text d = (.ok (), e) := by
    simp only [writeNamed, hinside, hmake, hwrite, Bool.not_true, Bool.false_eq_true, if_false]
  simp only [writeItems, content_of_render hrender, hnamed]

/-- A run stops at an item that is refused. -/
theorem writeItems_of_refused {text : String} (hrender : i.render? s = some text)
    {err : GenerateError} (h : i.Refused s dir d err e) (is : List Item) :
    writeItems s dir (i :: is) d = ⟨e, [], some err⟩ := by
  have hnamed : writeNamed dir (i.fileName s) text d = (.error err, e) := by
    cases h with
    | name hinside => simp only [writeNamed, hinside, Bool.not_false, if_true]
    | directories hinside hmake =>
      simp only [writeNamed, hinside, hmake, Bool.not_true, Bool.false_eq_true, if_false]
    | file hinside hrender' hmake hwrite =>
      rw [hrender, Option.some.injEq] at hrender'
      subst hrender'
      simp only [writeNamed, hinside, hmake, hwrite, Bool.not_true, Bool.false_eq_true, if_false]
  simp only [writeItems, content_of_render hrender, hnamed]

/-! ## All items -/

/-- The planned files are those that the description asks for, and the scripts that it describes come
after them. -/
theorem Spec.items_eq (s : Spec) :
    s.items = s.dueArtifacts.map .artifact ++ s.dueScripts.map .script := by
  have hused : ∀ f : PolicyFile, f.isUsed s = decide (f.render s ≠ "") := by
    intro f
    rw [Bool.eq_iff_iff, decide_eq_true_iff, PolicyFile.isUsed_iff, PolicyFile.render, ne_eq, ne_eq,
      Text.unlines_eq_empty_iff]
  have hembedded : ∀ i : InitScript, i.isEmbedded = decide (i.file = "" ∧ i.name ≠ "") := by
    intro i
    rw [Bool.eq_iff_iff, decide_eq_true_iff]
    simp [InitScript.isEmbedded]
  have hexternal : s.bootImage.ramdisk.ueventScript.isExternal = true ↔
      s.bootImage.ramdisk.ueventScript.file ≠ "" := by
    simp [UeventScript.isExternal]
  have hplan : s.plan = s.dueArtifacts := by
    simp only [Spec.plan, Spec.dueArtifacts, PolicyFile.all, hused, hexternal]
  have hscripts : s.embeddedScripts = s.dueScripts := by
    simp only [Spec.embeddedScripts, Spec.initScripts, Spec.dueScripts]
    exact List.filter_congr fun i _ => hembedded i
  rw [Spec.items, hplan, hscripts]

/-- A run goes on after items that are written. -/
theorem writeItems_of_allWritten (h : AllWritten s dir is d e) (rest : List Item) :
    writeItems s dir (is ++ rest) d = { writeItems s dir rest e with
      written := is.map (Item.fileName s) ++ (writeItems s dir rest e).written } := by
  induction h with
  | nil d => rfl
  | cons head tail ih =>
    rw [List.cons_append, writeItems_of_written head, ih]
    rfl

/-- Items that have a text are all written, or those before the first that is refused. -/
theorem allWritten_or_refused (h : ∀ i ∈ is, ∃ text, i.render? s = some text) (dir : Path)
    (d : Disk) :
    (∃ e, AllWritten s dir is d e) ∨
      ∃ front i rest e err f, is = front ++ i :: rest ∧ AllWritten s dir front d e ∧
        i.Refused s dir e err f := by
  induction is generalizing d with
  | nil => exact .inl ⟨d, .nil d⟩
  | cons j is ih =>
    obtain ⟨text, hrender⟩ := h j List.mem_cons_self
    rcases Item.written_or_refused hrender dir d with ⟨e, hwritten⟩ | ⟨err, e, hrefused⟩
    · rcases ih (fun i hi => h i (List.mem_cons_of_mem j hi)) e with
        ⟨f, hall⟩ | ⟨front, i, rest, e', err, f, rfl, hfront, hrefused⟩
      · exact .inl ⟨f, .cons hwritten hall⟩
      · exact .inr ⟨j :: front, i, rest, e', err, f, rfl, .cons hwritten hfront, hrefused⟩
    · exact .inr ⟨[], j, is, d, err, e, rfl, .nil d, hrefused⟩

/-- The script of the USB gadget is only planned where there is a gadget, so every item has a
text. -/
theorem exists_render_of_mem_items (hi : i ∈ s.items) : ∃ text, i.render? s = some text := by
  unfold Spec.items at hi
  rcases List.mem_append.mp hi with hi | hi
  · obtain ⟨a, ha, rfl⟩ := List.mem_map.mp hi
    cases a with
    | usbScript =>
      cases hgadget : s.board.usbGadget with
      | none => simp [Spec.plan, hgadget] at ha
      | some gadget => exact ⟨gadget.script, by simp [Item.render?, Artifact.render?, hgadget]⟩
    | _ => exact ⟨_, rfl⟩
  · obtain ⟨script, -, rfl⟩ := List.mem_map.mp hi
    exact ⟨script.render, rfl⟩

end Course

/-! ## The whole -/

/-- A refusal is never for want of a gadget. -/
theorem Item.Refused.ne_noGadget {s : Spec} {dir : Path} {i : Item} {d e : Disk}
    {err : GenerateError} (h : i.Refused s dir d err e) (name : String) : err ≠ noGadget name := by
  intro heq
  cases h with
  | name hinside => simp [outsideName, noGadget] at heq
  | directories hinside hmake => cases heq
  | file hinside hrender hmake hwrite => cases heq

/-- A run in which all items are written lists all of them. -/
theorem generate_of_allWritten {s : Spec} {dir : Path} {d e : Disk}
    (h : AllWritten s dir s.items d e) :
    s.generate dir d = ⟨e, s.items.map (Item.fileName s), none⟩ := by
  have hrun := writeItems_of_allWritten h []
  rw [List.append_nil] at hrun
  rw [Spec.generate, hrun, writeItems, List.append_nil]

/-- A run in which an item is refused lists those before it. -/
theorem generate_of_refused {s : Spec} {dir : Path} {front rest : List Item} {i : Item}
    {d e f : Disk} {err : GenerateError} (hitems : s.items = front ++ i :: rest)
    (hfront : AllWritten s dir front d e) (h : i.Refused s dir e err f) :
    s.generate dir d = ⟨f, front.map (Item.fileName s), some err⟩ := by
  have hmem : i ∈ s.items := by
    rw [hitems]
    exact List.mem_append_right _ List.mem_cons_self
  obtain ⟨text, hrender⟩ := exists_render_of_mem_items hmem
  rw [Spec.generate, hitems, writeItems_of_allWritten hfront, writeItems_of_refused hrender h,
    List.append_nil]

/-- All items of a run are written, or those before the first that is refused. -/
theorem items_course (s : Spec) (dir : Path) (d : Disk) :
    (∃ e, AllWritten s dir s.items d e) ∨
      ∃ front i rest e err f, s.items = front ++ i :: rest ∧ AllWritten s dir front d e ∧
        i.Refused s dir e err f :=
  allWritten_or_refused (fun _ hi => exists_render_of_mem_items hi) dir d

/-- The script of the USB gadget is not planned without one. -/
theorem failure_ne_noGadget (s : Spec) (dir : Path) (d : Disk) (name : String) :
    (s.generate dir d).failure ≠ some (noGadget name) := by
  intro hfailure
  rcases items_course s dir d with ⟨e, hall⟩ | ⟨front, i, rest, e, err, f, hitems, hfront, hrefused⟩
  · rw [generate_of_allWritten hall] at hfailure
    cases hfailure
  · rw [generate_of_refused hitems hfront hrefused, Option.some.injEq] at hfailure
    exact hrefused.ne_noGadget name hfailure

/-- The items are the planned files and then the scripts that are written from their description. A
run that all items can be written in lists all of them. Any other stops at the first item that is
refused, with the reason for that, and lists those before it. The files afterwards are those from
before with the contents of the listed items written in order. -/
theorem generate_exact (s : Spec) (dir : Path) (d : Disk) :
    s.items = s.dueArtifacts.map .artifact ++ s.dueScripts.map .script ∧
    (∀ e, AllWritten s dir s.items d e →
      s.generate dir d = ⟨e, s.items.map (Item.fileName s), none⟩) ∧
    (∀ front i rest e err f, s.items = front ++ i :: rest → AllWritten s dir front d e →
      i.Refused s dir e err f →
        s.generate dir d = ⟨f, front.map (Item.fileName s), some err⟩) ∧
    ((∃ e, AllWritten s dir s.items d e) ∨
      ∃ front i rest e err f, s.items = front ++ i :: rest ∧ AllWritten s dir front d e ∧
        i.Refused s dir e err f) ∧
    (writes s dir (s.doneItems dir d)).map Prod.fst = (s.generate dir d).paths dir ∧
    (∀ l content, (s.generate dir d).disk.node? l = some (.file content) ↔
      d.lastAt l (writes s dir (s.doneItems dir d)) = some content ∨
        d.lastAt l (writes s dir (s.doneItems dir d)) = none ∧ d.node? l = some (.file content)) ∧
    ∀ name, (s.generate dir d).failure ≠ some (noGadget name) := by
  obtain ⟨hran, -⟩ := generate_ran s dir d
  refine ⟨s.items_eq, fun e h => generate_of_allWritten h, ?_, items_course s dir d,
    hran.map_fst_writes, fun l content => hran.wroteAll.node?_file, failure_ne_noGadget s dir d⟩
  intro front i rest e err f hitems hfront hrefused
  exact generate_of_refused hitems hfront hrefused

end DeviceSpec
