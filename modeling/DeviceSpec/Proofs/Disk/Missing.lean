import DeviceSpec.Proofs.Disk.Descend

/-!
# Why nothing is found

A path that leads nowhere is refused by the system for its text, or has a first step that cannot be
taken. What that step comes to decides how it fails.

* **the step** — following fails as its first impossible step does (`enterAll_error_iff`), and
  looking up as following does (`enterAll_of_find_error`);
* **in the way** — nothing is there to be found exactly when no file stands where a step leads, and
  neither the text nor a name is too long (`find_notFound_iff_not_blocked`);
* **once a file** — the text and the names of a path that led to a file once are not too long
  (`Path.Spelled`), so only a file can be in its way (`Path.Spelled.blocked_iff`).
-/

namespace DeviceSpec

namespace Disk

variable {d : Disk} {here : Location} {p : Path} {err : FileError}

/-! ## The first step that cannot be taken -/

/-- Going along the steps of a path one comes to a name in a directory. -/
def Comes (d : Disk) (p : Path) (here : Location) (s : String) : Prop :=
  d.node? (d.origin p) = some .directory ∧ s ≠ ".." ∧
    ∃ front rest, p.steps = front ++ s :: rest ∧ d.enterAll (d.origin p) front = .ok here

/-- Following fails as the first step fails that cannot be taken. -/
theorem enterAll_error_iff {ss : List String} :
    d.enterAll here ss = .error err ↔ ∃ front s rest there, ss = front ++ s :: rest ∧
      d.enterAll here front = .ok there ∧ d.enter there s = .error err := by
  constructor
  · intro h
    induction ss generalizing here with
    | nil => cases h
    | cons s rest ih =>
      unfold enterAll at h
      cases hnext : d.enter here s with
      | error err' =>
        rw [hnext] at h
        obtain rfl : err' = err := Except.error.inj h
        exact ⟨[], s, rest, here, rfl, rfl, hnext⟩
      | ok next =>
        rw [hnext] at h
        obtain ⟨front, s', rest', there, rfl, hfront, hs⟩ := ih h
        exact ⟨s :: front, s', rest', there, rfl, by simp only [enterAll, hnext, hfront], hs⟩
  · rintro ⟨front, s, rest, there, rfl, hfront, hs⟩
    rw [enterAll_append, hfront]
    simp only [enterAll, hs]

/-- A step that is not a dot fails at a name: one that is too long, that of a file, or one that is
not there. -/
theorem enter_error_iff {s : String} (hdot : s ≠ ".") :
    d.enter here s = .error err ↔ s ≠ ".." ∧
      (longestName < s.utf8ByteSize ∧ err = .nameTooLong ∨
        s.utf8ByteSize ≤ longestName ∧
          ((∃ content, d.node? (here ++ [s]) = some (.file content)) ∧ err = .notDirectory ∨
            d.node? (here ++ [s]) = none ∧ err = .notFound)) := by
  unfold enter
  rw [if_neg hdot]
  by_cases hup : s = ".."
  · simp [hup]
  · rw [if_neg hup]
    by_cases hlong : longestName < s.utf8ByteSize
    · simp [hup, hlong, Nat.not_le.mpr hlong, eq_comm]
    · rw [if_neg hlong]
      cases hnode : d.node? (here ++ [s]) with
      | none => simp [hup, hlong, Nat.le_of_not_lt hlong, eq_comm]
      | some n => cases n <;> simp [hup, hlong, Nat.le_of_not_lt hlong, eq_comm]

theorem follow_error (h : d.follow p = .error err) :
    d.enterAll (d.origin p) p.seen = .error err := by
  unfold follow at h
  cases hlast : p.seen.getLast? with
  | none => simp [hlast] at h
  | some last =>
    obtain ⟨front, hseen⟩ := List.getLast?_eq_some_iff.mp hlast
    simp only [hlast] at h
    split at h
    · split at h
      · rename_i henter
        rw [henter, Except.error.inj h]
      · cases h
    · rw [hseen, List.dropLast_concat] at h
      split at h
      · rename_i henter
        rw [hseen, enterAll_append, henter, Except.error.inj h]
      · cases h

/-- A path leads nowhere when it cannot be followed, or for the name at its end: that is too long, or
names a file where a slash follows, or names nothing. -/
theorem find_error (h : d.find p = .error err) :
    d.target p = .error err ∨ ∃ t last, d.target p = .ok t ∧ t.name? = some last ∧
      (longestName < last.utf8ByteSize ∧ err = .nameTooLong ∨
        last.utf8ByteSize ≤ longestName ∧
          ((∃ content, d.node? t.location = some (.file content)) ∧ err = .notDirectory ∨
            d.node? t.location = none ∧ err = .notFound)) := by
  unfold find at h
  cases ht : d.target p with
  | error err' =>
    rw [ht] at h
    exact .inl (congrArg Except.error (Except.error.inj h))
  | ok t =>
    simp only [ht] at h
    unfold at? at h
    cases hname : t.name? with
    | none => simp [hname] at h
    | some last =>
      refine .inr ⟨t, last, rfl, hname, ?_⟩
      simp only [hname] at h
      by_cases hlong : longestName < last.utf8ByteSize
      · simp only [hlong, if_true, Except.error.injEq] at h
        exact .inl ⟨hlong, h.symm⟩
      · simp only [hlong, if_false] at h
        refine .inr ⟨Nat.le_of_not_lt hlong, ?_⟩
        cases hnode : d.node? t.location with
        | none =>
          simp only [hnode, Except.error.injEq] at h
          exact .inr ⟨rfl, h.symm⟩
        | some n =>
          cases n with
          | directory => simp [hnode] at h
          | file content =>
            simp only [hnode] at h
            split at h
            · exact .inl ⟨⟨content, rfl⟩, (Except.error.inj h).symm⟩
            · cases h

/-- Looking up a path that leads nowhere fails as following all its steps does. -/
theorem enterAll_of_find_error (haccepted : p.Accepted)
    (hstart : d.node? (d.origin p) = some .directory) (h : d.find p = .error err) :
    d.enterAll (d.origin p) p.steps = .error err := by
  rw [← filter_seen, ← enterAll_filter (empty_not_mem_seen p)]
  rcases find_error h with htarget | ⟨t, last, ht, hname, hfails⟩
  · rw [target_eq_follow haccepted hstart] at htarget
    exact follow_error htarget
  · rw [target_eq_follow haccepted hstart] at ht
    obtain ⟨-, ⟨hnone, -⟩ | ⟨front, last', hname', hdot, hup, hseen, henter⟩⟩ :=
      follow_ok_iff.mp ht
    · rw [hname] at hnone
      cases hnone
    · obtain rfl : last = last' := Option.some.inj (hname.symm.trans hname')
      -- the name at the end cannot be entered for the same reason
      rw [Target.location_of_name hname] at hfails
      rw [hseen, enterAll_append, henter]
      simp only [enterAll, (enter_error_iff hdot).mpr ⟨hup, hfails⟩]

/-! ## In the way -/

/-- A file stands where a step leads. -/
def Interrupted (d : Disk) (p : Path) : Prop :=
  ∃ here s, d.Comes p here s ∧ ∃ content, d.node? (here ++ [s]) = some (.file content)

/-- A path is blocked when its text is refused, a step comes to a name that is too long, or a file
stands where a step leads. -/
def Blocked (d : Disk) (p : Path) : Prop :=
  '\x00' ∈ p.text.toList ∨ longestPath < p.text.utf8ByteSize ∨
    (∃ here s, d.Comes p here s ∧ longestName < s.utf8ByteSize) ∨ d.Interrupted p

theorem Comes.enterAll_eq {s : String} (h : d.Comes p here s) (hs : d.enter here s = .error err) :
    d.enterAll (d.origin p) p.steps = .error err := by
  obtain ⟨-, -, front, rest, hsteps, hfront⟩ := h
  exact enterAll_error_iff.mpr ⟨front, s, rest, here, hsteps, hfront, hs⟩

theorem Comes.ne_dot {s : String} (h : d.Comes p here s) : s ≠ "." := by
  rintro rfl
  obtain ⟨-, -, front, rest, hsteps, -⟩ := h
  exact dot_not_mem_steps p (by simp [hsteps])

/-- Steps that fail for want of a directory do so exactly when nothing is in the way. -/
theorem enterAll_notFound_iff (hstart : d.node? (d.origin p) = some .directory)
    (h : d.enterAll (d.origin p) p.steps = .error err) :
    err = .notFound ↔ (∀ here s, d.Comes p here s → s.utf8ByteSize ≤ longestName) ∧
      ¬ d.Interrupted p := by
  constructor
  · rintro rfl
    have hshort : ∀ here s, d.Comes p here s → s.utf8ByteSize ≤ longestName := by
      intro here s hcomes
      apply Nat.le_of_not_lt
      intro hlong
      have hstep : d.enter here s = .error .nameTooLong :=
        (enter_error_iff hcomes.ne_dot).mpr ⟨hcomes.2.1, .inl ⟨hlong, rfl⟩⟩
      rw [hcomes.enterAll_eq hstep] at h
      cases h
    refine ⟨hshort, ?_⟩
    rintro ⟨here, s, hcomes, hfile⟩
    have hstep : d.enter here s = .error .notDirectory := (enter_error_iff hcomes.ne_dot).mpr
      ⟨hcomes.2.1, .inr ⟨hshort here s hcomes, .inl ⟨hfile, rfl⟩⟩⟩
    rw [hcomes.enterAll_eq hstep] at h
    cases h
  · rintro ⟨hshort, hinterrupted⟩
    obtain ⟨front, s, rest, there, hsteps, hfront, hstep⟩ := enterAll_error_iff.mp h
    have hdot : s ≠ "." := by
      rintro rfl
      exact dot_not_mem_steps p (by simp [hsteps])
    obtain ⟨hup, hcause⟩ := (enter_error_iff hdot).mp hstep
    have hcomes : d.Comes p there s := ⟨hstart, hup, front, rest, hsteps, hfront⟩
    rcases hcause with ⟨hlong, -⟩ | ⟨-, ⟨hfile, -⟩ | ⟨-, hnone⟩⟩
    · exact absurd (hshort there s hcomes) (Nat.not_le.mpr hlong)
    · exact absurd ⟨there, s, hcomes, hfile⟩ hinterrupted
    · exact hnone

/-- Where nothing is there, a path is found to lead nowhere exactly when it is not blocked. -/
theorem find_notFound_iff_not_blocked (hgone : d.pathExists p = false) :
    d.find p = .error .notFound ↔ ¬ d.Blocked p := by
  obtain ⟨err, hfind⟩ : ∃ err, d.find p = .error err := by
    unfold pathExists at hgone
    cases hfind : d.find p with
    | error err => exact ⟨err, rfl⟩
    | ok found => simp [hfind] at hgone
  by_cases hnul : '\x00' ∈ p.text.toList
  · have hfails : d.find p = .error .nulInPath := by simp [find, target, hnul]
    exact iff_of_false (by simp [hfails]) fun hfree => hfree (.inl hnul)
  by_cases hempty : p.text = ""
  · have hfails : d.find p = .error .notFound := by simp [find, target, hempty]
    have hsteps : p.steps = [] := by
      rw [show p = ⟨""⟩ from congrArg Path.mk hempty]
      decide +kernel
    refine iff_of_true hfails ?_
    rintro (hnul' | hlong | ⟨here, s, ⟨-, -, front, rest, hcomes, -⟩, -⟩ |
      ⟨here, s, ⟨-, -, front, rest, hcomes, -⟩, -⟩)
    · exact hnul hnul'
    · rw [hempty] at hlong
      exact absurd hlong (by decide)
    · simp [hsteps] at hcomes
    · simp [hsteps] at hcomes
  by_cases hlong : longestPath < p.text.utf8ByteSize
  · have hfails : d.find p = .error .nameTooLong := by simp [find, target, hnul, hempty, hlong]
    exact iff_of_false (by simp [hfails]) fun hfree => hfree (.inr (.inl hlong))
  have haccepted : p.Accepted := ⟨hnul, hempty, Nat.le_of_not_lt hlong⟩
  have hblocked : d.Blocked p ↔
      (∃ here s, d.Comes p here s ∧ longestName < s.utf8ByteSize) ∨ d.Interrupted p := by
    simp [Blocked, hnul, hlong]
  rw [hblocked]
  by_cases hstart : d.node? (d.origin p) = some .directory
  · have henter := enterAll_of_find_error haccepted hstart hfind
    rw [hfind, Except.error.injEq, enterAll_notFound_iff hstart henter]
    simp only [not_or, not_exists, not_and, Nat.not_lt]
  · have hfails : d.find p = .error .notFound := by
      rw [origin] at hstart
      simp [find, target, hnul, hempty, hlong, hstart]
    refine iff_of_true hfails ?_
    rintro (⟨here, s, hcomes, -⟩ | ⟨here, s, hcomes, -⟩)
    · exact hstart hcomes.1
    · exact hstart hcomes.1

/-! ## Once a file -/

/-- Names that were entered are not too long. -/
theorem short_of_enterAll {l : Location} {ss : List String} (hdot : "." ∉ ss)
    (h : d.enterAll here ss = .ok l) : ∀ s ∈ ss, s ≠ ".." → s.utf8ByteSize ≤ longestName := by
  induction ss generalizing here with
  | nil => nofun
  | cons s rest ih =>
    rw [List.mem_cons, not_or] at hdot
    obtain ⟨next, hnext, hrest⟩ := enterAll_cons_ok_iff.mp h
    refine List.forall_mem_cons.mpr ⟨fun hup => ?_, ih hdot.2 hrest⟩
    exact ((enter_name_iff (Ne.symm hdot.1) hup).mp hnext).1

end Disk

/-- A path without a NUL character or a name that is too long. -/
structure Path.Spelled (p : Path) : Prop where
  noNul : '\x00' ∉ p.text.toList
  short : ∀ s ∈ p.steps, s ≠ ".." → s.utf8ByteSize ≤ Disk.longestName

theorem Path.spelled_of_isFile {d : Disk} {p : Path} (h : d.isFile p = true) : p.Spelled := by
  obtain ⟨content, hfind⟩ := Disk.find_of_isFile h
  obtain ⟨haccepted, -, -, front, last, here, hsteps, -, henter, hshort, -⟩ :=
    Disk.find_file_iff.mp hfind
  have hdot := Disk.dot_not_mem_steps p
  rw [hsteps, List.mem_append, not_or] at hdot
  refine ⟨haccepted.noNul, fun s hs hup => ?_⟩
  rw [hsteps] at hs
  rcases List.mem_append.mp hs with hs | hs
  · exact Disk.short_of_enterAll hdot.1 henter s hs hup
  · rwa [List.mem_singleton.mp hs]

/-- What can block a path that is spelled well is its length or a file. -/
theorem Path.Spelled.blocked_iff {d : Disk} {p : Path} (h : p.Spelled) :
    d.Blocked p ↔ Disk.longestPath < p.text.utf8ByteSize ∨ d.Interrupted p := by
  have hshort : ¬ ∃ here s, d.Comes p here s ∧ Disk.longestName < s.utf8ByteSize := by
    rintro ⟨here, s, ⟨-, hup, front, rest, hsteps, -⟩, hlong⟩
    have hs : s ∈ p.steps := by simp [hsteps]
    exact absurd (h.short s hs hup) (Nat.not_le.mpr hlong)
  simp only [Disk.Blocked, h.noNul, hshort, false_or]

end DeviceSpec
