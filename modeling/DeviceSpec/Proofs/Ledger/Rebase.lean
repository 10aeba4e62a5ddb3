import DeviceSpec.Ledger
import DeviceSpec.Proofs.Disk.Descend

/-!
# Listed files under another name of their directory

* **steps** — a file below the recorded directory keeps its own steps and takes over those of the
  present one (`rebase_below`); a path from the working directory on stays (`rebase_of_relative`);
* **spelling** — the path of a file that was listed by joining a name to its directory does not grow
  (`accepted_rebase_join`);
* **places** — a file that was found under its directory is found where it was
  (`find_rebase`, `find_rebase_join`).
-/

namespace DeviceSpec

/-- A file below the recorded directory lies below the present one, by the same steps. -/
theorem rebase_below {recorded f : Path} (dir : Path) (hrecorded : recorded.isAbsolute = true)
    (hf : f.isAbsolute = true) {names : List String} (hne : names ≠ [])
    (hsteps : f.steps = recorded.steps ++ names) :
    ∃ rest, f.below? recorded = some rest ∧ rebase recorded dir f = dir.join rest ∧
      Path.isAbsolute ⟨rest⟩ = false ∧ Path.steps ⟨rest⟩ = names ∧
      ∀ s, (dir.join rest).segments.getLast? = some s → Path.isIdle s = false := by
  obtain ⟨rest, hrest⟩ := Path.below?_isSome hf hrecorded ⟨names, hsteps.symm⟩
  have hother : f.steps ≠ recorded.steps := by
    intro heq
    rw [hsteps] at heq
    exact hne (List.append_right_eq_self.mp heq)
  obtain ⟨hhead, hlast, hbelow⟩ := Path.segments_of_below? hf hrecorded hrest hother
  have hrel : Path.isAbsolute ⟨rest⟩ = false := by
    cases habs : Path.isAbsolute ⟨rest⟩ with
    | false => rfl
    | true =>
      obtain ⟨more, -, hmore⟩ := Path.segments_of_isAbsolute habs
      exact absurd (hhead "" (by rw [hmore]; rfl)) (by decide)
  refine ⟨rest, hrest, by rw [rebase, hrest], hrel, ?_, ?_⟩
  · rw [hsteps] at hbelow
    exact (List.append_cancel_left hbelow).symm
  · intro s hs
    obtain ⟨front, hfront, -, -⟩ := Path.segments_join (p := dir) hrel
    have hrestLast := List.getLast?_eq_some_getLast (Path.segments_ne_nil ⟨rest⟩)
    rw [hfront, List.getLast?_append, hrestLast, Option.some_or] at hs
    exact hlast s (hrestLast.trans hs)

/-- A path from the working directory on is not below one from the root, and stays as it is. -/
theorem rebase_of_relative {recorded f : Path} (dir : Path) (hrecorded : recorded.isAbsolute = true)
    (hf : f.isAbsolute = false) : rebase recorded dir f = f := by
  have hnone : f.below? recorded = none := by
    unfold Path.below?
    rw [if_neg]
    intro hprefix
    have hroot := (List.isPrefixOf_iff_prefix.mp hprefix).subset
      (Path.root_mem_components_iff.mpr hrecorded)
    rw [Path.root_mem_components_iff.mp hroot] at hf
    cases hf
  rw [rebase, hnone]

/-- A name that leads to a file has a step. -/
theorem steps_ne_nil_of_isFile {d : Disk} {dir : Path} {name : String}
    (hrel : Path.isAbsolute ⟨name⟩ = false) (h : d.isFile (dir.join name) = true) :
    Path.steps ⟨name⟩ ≠ [] := by
  obtain ⟨content, hfind⟩ := Disk.find_of_isFile h
  obtain ⟨-, hnamed, -⟩ := Disk.find_file_iff.mp hfind
  rw [Path.getLast?_segments_join hrel] at hnamed
  obtain ⟨front, last, hsteps⟩ := Path.steps_of_named hnamed
  simp [hsteps]

/-- A file found under a name is found under the present spelling of any path to it, as long as the
system accepts that. -/
theorem find_rebase {d : Disk} {dir p f : Path} (hdir : dir.isAbsolute = true)
    (hf : f.isAbsolute = true) {names : List String} (hne : names ≠ [])
    (hp : p.isAbsolute = true) (hsteps : f.steps = dir.steps ++ names) (hsame : p.steps = f.steps)
    (haccepted : (rebase dir dir f).Accepted) {l : Location} {content : ByteArray}
    (hfind : d.find p = .ok (l, .file content)) :
    d.find (rebase dir dir f) = .ok (l, .file content) := by
  obtain ⟨rest, -, hrebase, hrel, hrest, hend⟩ := rebase_below dir hdir hf hne hsteps
  rw [hrebase] at haccepted ⊢
  refine Disk.find_file_respell hfind hp (Path.isAbsolute_join hdir rest) ?_ haccepted hend
  rw [Path.steps_join hrel, hrest, hsame, hsteps]

/-- The path of a file that was listed by joining a name to its directory does not grow. -/
theorem accepted_rebase_join {dir : Path} {name : String} (hdir : dir.isAbsolute = true)
    (hrel : Path.isAbsolute ⟨name⟩ = false) (hne : Path.steps ⟨name⟩ ≠ [])
    (h : (dir.join name).Accepted) : (rebase dir dir (dir.join name)).Accepted := by
  obtain ⟨rest, hbelow, hrebase, hrestRel, -, -⟩ :=
    rebase_below dir hdir (Path.isAbsolute_join hdir name) hne (Path.steps_join hrel)
  have hsub := Path.sublist_of_below?_join hdir hrel hbelow
  have hjoin : (dir.join rest).text.toList.Sublist (dir.join name).text.toList := by
    rw [Path.text_join hrel, Path.text_join hrestRel]
    simp only [String.toList_append]
    exact (List.Sublist.refl _).append hsub
  rw [hrebase]
  exact ⟨fun hnul => h.noNul (hjoin.subset hnul),
    Path.text_ne_empty_of_isAbsolute (Path.isAbsolute_join hdir rest),
    Nat.le_trans (Path.byteSize_le_of_sublist hjoin) h.short⟩

/-- A file that was listed by joining a name to its directory is found where it was. -/
theorem find_rebase_join {d : Disk} {dir : Path} {name : String} (hdir : dir.isAbsolute = true)
    (hrel : Path.isAbsolute ⟨name⟩ = false) {l : Location} {content : ByteArray}
    (hfind : d.find (dir.join name) = .ok (l, .file content)) :
    d.find (rebase dir dir (dir.join name)) = .ok (l, .file content) := by
  have habs := Path.isAbsolute_join hdir name
  have hne := steps_ne_nil_of_isFile hrel (Disk.isFile_of_find hfind)
  obtain ⟨t, -, ht, -⟩ := Disk.find_file hfind
  exact find_rebase hdir habs hne habs (Path.steps_join hrel) rfl
    (accepted_rebase_join hdir hrel hne (Disk.target_ok ht).1) hfind

end DeviceSpec
