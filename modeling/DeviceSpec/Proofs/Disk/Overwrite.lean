import DeviceSpec.Proofs.Disk.Change

/-!
# Writing over what is there

Where the directories of a file are there, writing it makes none and changes one location. So
writing the same contents once more gives the same disk, whatever has become of the files between.

* **writing over** — after a list of such writes every location holds what was written there last,
  and otherwise what it held (`Overwrote`);
* **once more** — disks that differ at most in the places of the writes become the same by them
  (`SameApart.node?_eq`).
-/

namespace DeviceSpec

namespace Disk

/-- The second disk comes from the first by writing contents in order, without making
directories. -/
structure Overwrote (d e : Disk) (ws : List (Path × ByteArray)) : Prop where
  keepsDirs : d.KeepsDirs e
  node? : ∀ l, e.node? l = ((d.lastAt l ws).map Node.file).or (d.node? l)

/-- The disks have the same directories, and the same files but for the places of the writes. -/
structure SameApart (d e : Disk) (ws : List (Path × ByteArray)) : Prop where
  keepsDirs : d.KeepsDirs e
  keepsDirs' : e.KeepsDirs d
  node? : ∀ l, d.lastAt l ws = none → e.node? l = d.node? l

section
variable {d e f : Disk} {p : Path} {content : ByteArray} {as bs ws : List (Path × ByteArray)}

/-! ## Writing over -/

theorem Overwrote.refl (d : Disk) : d.Overwrote d [] := ⟨KeepsDirs.refl d, fun _ => rfl⟩

theorem overwrote_write (h : d.write p content = .ok e) : d.Overwrote e [(p, content)] := by
  refine ⟨(wroteAll_write h).keepsDirs, fun l => ?_⟩
  rw [node?_of_write h, lastAt_singleton]
  by_cases hl : d.place p = l
  · rw [if_pos hl.symm, if_pos hl]
    rfl
  · rw [if_neg (Ne.symm hl), if_neg hl]
    rfl

theorem Overwrote.append (h : d.Overwrote e as) (h' : e.Overwrote f bs) :
    d.Overwrote f (as ++ bs) := by
  refine ⟨h.keepsDirs.trans h'.keepsDirs, fun l => ?_⟩
  rw [h'.node?, h.node?, lastAt_congr h.keepsDirs, lastAt_append, Option.map_or, Option.or_assoc]

/-- Writing puts no directory anywhere. -/
theorem Overwrote.writable (h : d.Overwrote e ws) (hp : d.Writable p) : e.Writable p := by
  obtain ⟨⟨t, last, ht, hname⟩, hfree⟩ := hp
  refine ⟨⟨t, last, target_mono h.keepsDirs ht, hname⟩, ?_⟩
  rw [h.keepsDirs.place_eq, h.node?]
  cases d.lastAt (d.place p) ws with
  | none => exact hfree
  | some content => simp

/-! ## Once more -/

theorem SameApart.refl (d : Disk) (ws : List (Path × ByteArray)) : d.SameApart d ws :=
  ⟨KeepsDirs.refl d, KeepsDirs.refl d, fun _ _ => rfl⟩

/-- Where contents have been written they can be written again. -/
theorem SameApart.writable (h : e.SameApart f ws) (hwrote : d.WroteAll e ws) {w : Path × ByteArray}
    (hw : w ∈ ws) : f.Writable w.1 := by
  have hfile := hwrote.isFile w.1 w.2 hw
  obtain ⟨content, hnode⟩ := node?_of_isFile hfile
  refine writable_of_isFile hfile h.keepsDirs fun hdirectory => ?_
  rw [h.keepsDirs'.directory _ hdirectory] at hnode
  cases hnode

/-- Writing the same contents once more restores what they had given. -/
theorem SameApart.node?_eq {g : Disk} (h : e.SameApart f ws) (hwrote : d.WroteAll e ws)
    (hagain : f.Overwrote g ws) (l : Location) : g.node? l = e.node? l := by
  have hlast : f.lastAt l ws = d.lastAt l ws := by
    rw [lastAt_congr h.keepsDirs, lastAt_congr hwrote.keepsDirs]
  rw [hagain.node?, hlast]
  cases hcase : d.lastAt l ws with
  | some content => rw [hwrote.written l content hcase, Option.map_some, Option.some_or]
  | none =>
    rw [Option.map_none, Option.none_or, h.node?]
    rwa [lastAt_congr hwrote.keepsDirs]

end

end Disk

end DeviceSpec
