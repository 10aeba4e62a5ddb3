import DeviceSpec.Proofs.Disk.Follow

/-!
# A disk with more

A disk that has all that another has, and may have more (`Disk.Within`).

* **more** — a path that led somewhere on the smaller disk leads somewhere on the larger one
  (`Within.pathExists`);
* **less** — a path that led somewhere on the larger disk leads to the same on the smaller one, or
  nowhere; and one that led nowhere still does (`Within.find_eq_or`).
-/

namespace DeviceSpec

namespace Disk

/-- The second disk has all that the first has, and the same working directory. -/
structure Within (d e : Disk) : Prop where
  workingDir : e.workingDir = d.workingDir
  node? : ∀ l n, d.node? l = some n → e.node? l = some n

namespace Within

variable {d e f : Disk}

theorem refl (d : Disk) : d.Within d := ⟨rfl, fun _ _ h => h⟩

theorem trans (h : d.Within e) (h' : e.Within f) : d.Within f :=
  ⟨h'.workingDir.trans h.workingDir, fun l n hn => h'.node? l n (h.node? l n hn)⟩

theorem keepsDirs (h : d.Within e) : d.KeepsDirs e := ⟨h.workingDir, fun l => h.node? l .directory⟩

/-- Something put where nothing was is more. -/
theorem put {l : Location} (hl : l ≠ []) (hnone : d.node? l = none) (n : Node) :
    d.Within (d.put l n) := by
  refine ⟨rfl, fun m k hk => ?_⟩
  rw [node?_put hl, if_neg]
  · exact hk
  · rintro rfl
    rw [hnone] at hk
    cases hk

theorem node?_eq_none (h : d.Within e) {l : Location} (hl : e.node? l = none) :
    d.node? l = none := by
  cases hn : d.node? l with
  | none => rfl
  | some n =>
    rw [h.node? l n hn] at hl
    cases hl

theorem find_file (h : d.Within e) {p : Path} {l : Location} {content : ByteArray}
    (hfind : d.find p = .ok (l, .file content)) : e.find p = .ok (l, .file content) :=
  find_file_mono h.keepsDirs hfind (h.node? _ _ (node?_of_find hfind))

theorem isFile (h : d.Within e) {p : Path} (hp : d.isFile p = true) : e.isFile p = true := by
  obtain ⟨content, hfind⟩ := find_of_isFile hp
  exact isFile_of_find (h.find_file hfind)

/-- A path that leads somewhere still does. -/
theorem pathExists (h : d.Within e) {p : Path} (hp : d.pathExists p = true) :
    e.pathExists p = true := by
  rw [pathExists_iff] at hp ⊢
  exact hp.imp (isDir_mono h.keepsDirs) h.isFile

/-! ## On the smaller disk -/

/-- A step leads where it led or nowhere. -/
theorem enter_eq_or (h : d.Within e) {here : Location} {s : String}
    (hnot : ∀ err, e.enter here s = .error err → err = .notFound) :
    d.enter here s = e.enter here s ∨ d.enter here s = .error .notFound := by
  unfold enter at hnot ⊢
  by_cases hdots : s = "." ∨ s = ".."
  · rcases hdots with rfl | rfl <;> simp
  · rw [not_or] at hdots
    simp only [hdots, if_false] at hnot ⊢
    by_cases hlong : longestName < s.utf8ByteSize
    · simp [hlong] at hnot
    · simp only [hlong, if_false] at hnot ⊢
      cases hnode : d.node? (here ++ [s]) with
      | none => exact .inr rfl
      | some n => exact .inl (by rw [h.node? _ n hnode])

/-- Steps lead where they led or nowhere, unless something was in the way. -/
theorem enterAll_eq_or (h : d.Within e) {here : Location} {ss : List String}
    (hnot : ∀ err, e.enterAll here ss = .error err → err = .notFound) :
    d.enterAll here ss = e.enterAll here ss ∨ d.enterAll here ss = .error .notFound := by
  induction ss generalizing here with
  | nil => exact .inl rfl
  | cons s rest ih =>
    unfold enterAll at hnot ⊢
    have hstep : d.enter here s = e.enter here s ∨ d.enter here s = .error .notFound :=
      h.enter_eq_or fun err herr => hnot err (by rw [herr])
    rcases hstep with hsame | hnone
    · rw [hsame]
      cases hnext : e.enter here s with
      | error err => exact .inl rfl
      | ok next =>
        rw [hnext] at hnot
        exact ih hnot
    · exact .inr (by rw [hnone])

theorem target_eq_or (h : d.Within e) {p : Path}
    (hnot : ∀ err, e.target p = .error err → err = .notFound) :
    d.target p = e.target p ∨ d.target p = .error .notFound := by
  have horigin := h.keepsDirs.origin_eq p
  rcases target_cases d p with ⟨err, herr, -⟩ | ⟨-, -, hnone⟩ | ⟨haccepted, hstart, hfollow⟩
  · exact .inl (by rw [herr, herr])
  · exact .inr hnone
  · -- the larger disk follows the path as well, from the same directory
    have hfollow' := target_eq_follow haccepted (horigin ▸ h.keepsDirs.directory _ hstart)
    rw [hfollow'] at hnot
    rw [hfollow, hfollow']
    unfold follow at hnot ⊢
    rw [horigin] at hnot ⊢
    cases hlast : p.seen.getLast? with
    | none => exact .inl rfl
    | some last =>
      simp only [hlast] at hnot ⊢
      by_cases hdots : last = "." ∨ last = ".."
      · simp only [hdots, if_true] at hnot ⊢
        rcases h.enterAll_eq_or fun err herr => hnot err (by rw [herr]) with hsame | hnone
        · exact .inl (by rw [hsame])
        · exact .inr (by rw [hnone])
      · simp only [hdots, if_false] at hnot ⊢
        rcases h.enterAll_eq_or fun err herr => hnot err (by rw [herr]) with hsame | hnone
        · exact .inl (by rw [hsame])
        · exact .inr (by rw [hnone])

/-- A path leads to what it led to or nowhere, unless something was in the way. -/
theorem find_eq_or (h : d.Within e) {p : Path}
    (hnot : ∀ err, e.find p = .error err → err = .notFound) :
    d.find p = e.find p ∨ d.find p = .error .notFound := by
  unfold find at hnot ⊢
  rcases h.target_eq_or fun err herr => hnot err (by rw [herr]) with hsame | hnone
  · rw [hsame]
    cases ht : e.target p with
    | error err => exact .inl rfl
    | ok t =>
      rw [ht] at hnot
      unfold at? at hnot ⊢
      cases hname : t.name? with
      | none => exact .inl (by simp [hname])
      | some last =>
        simp only [hname] at hnot ⊢
        by_cases hlong : longestName < last.utf8ByteSize
        · exact .inl (by simp [hlong])
        · simp only [hlong, if_false] at hnot ⊢
          cases hnode : d.node? t.location with
          | none => exact .inr rfl
          | some n => exact .inl (by rw [h.node? _ n hnode])
  · exact .inr (by rw [hnone])

/-- A path that led nowhere still does. -/
theorem find_notFound (h : d.Within e) {p : Path} (hp : e.find p = .error .notFound) :
    d.find p = .error .notFound := by
  rcases h.find_eq_or fun err herr => by
    rw [hp] at herr
    exact (Except.error.inj herr).symm with hsame | hnone
  · rw [hsame, hp]
  · exact hnone

end Within

end Disk

end DeviceSpec
