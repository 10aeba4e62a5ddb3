import DeviceSpec.Proofs.Disk.Follow

/-!
# Another working directory

The same disk may be looked at from another working directory. Only paths that start there tell the
difference.

* **finding** — a path from the root leads to the same place (`find_workingAt`);
* **changing** — a file that has such a path is removed all the same (`remove_workingAt`).
-/

namespace DeviceSpec

namespace Disk

/-- The same disk, with another working directory. -/
def workingAt (d : Disk) (working : Location) : Disk := { d with workingDir := working }

section Working

variable (d : Disk) (working : Location)

@[simp] theorem node?_workingAt (l : Location) : (d.workingAt working).node? l = d.node? l := rfl

theorem workingAt_put (l : Location) (n : Node) :
    (d.workingAt working).put l n = (d.put l n).workingAt working := rfl

theorem workingAt_erase (l : Location) :
    (d.workingAt working).erase l = (d.erase l).workingAt working := rfl

theorem enterAll_workingAt (here : Location) (steps : List String) :
    (d.workingAt working).enterAll here steps = d.enterAll here steps := by
  induction steps generalizing here with
  | nil => rfl
  | cons s rest ih =>
    have henter : (d.workingAt working).enter here s = d.enter here s := rfl
    simp only [enterAll, henter, ih]

theorem at?_workingAt (t : Target) : (d.workingAt working).at? t = d.at? t := rfl

variable {p : Path} (hp : p.isAbsolute = true)

include hp

theorem target_workingAt : (d.workingAt working).target p = d.target p := by
  simp only [target, hp, if_true, node?_workingAt, enterAll_workingAt]

theorem find_workingAt : (d.workingAt working).find p = d.find p := by
  simp only [find, target_workingAt d working hp, at?_workingAt]

theorem read_workingAt : (d.workingAt working).read p = d.read p := by
  simp only [read, find_workingAt d working hp]

theorem isDir_workingAt : (d.workingAt working).isDir p = d.isDir p := by
  simp only [isDir, find_workingAt d working hp]

theorem remove_workingAt :
    (d.workingAt working).remove p = (d.remove p).map (·.workingAt working) := by
  unfold remove
  rw [target_workingAt d working hp]
  cases d.target p with
  | error e => rfl
  | ok t =>
    simp only [at?_workingAt]
    rcases d.at? t with e | _ | _ | content
    · rfl
    · rfl
    · rfl
    · simp only [workingAt_erase]
      split <;> rfl

theorem removeIfThere_workingAt : (d.workingAt working).removeIfThere p =
    (d.removeIfThere p).map fun r => (r.1, r.2.workingAt working) := by
  unfold removeIfThere
  rw [remove_workingAt d working hp]
  rcases d.remove p with e | f
  · cases e <;> rfl
  · rfl

end Working

end Disk

end DeviceSpec
