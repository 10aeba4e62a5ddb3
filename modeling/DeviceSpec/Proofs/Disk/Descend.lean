import DeviceSpec.Proofs.Disk.Follow

/-!
# Names below a directory

What a name leads to in a directory that is there depends on the text of the path, and on what
stands at the locations below the directory.

* **directories** — names are entered exactly when a directory stands at each of them
  (`enterAll_names_iff`);
* **files** — a name leads to a file exactly when its text allows it and the file is held below the
  directory (`find_join_iff`);
* **entries** — where every entry lies in a directory, what is held needs no directories of its own
  (`Rooted.holdsFile`).
-/

namespace DeviceSpec

/-- The text of the path to a name in a directory can lead to a file: it is accepted, ends in a
name, and none of the names below the directory is too long. -/
structure Path.Holdable (dir : Path) (name : String) : Prop where
  accepted : (dir.join name).Accepted
  named : ∀ s, (Path.segments ⟨name⟩).getLast? = some s → Path.isIdle s = false
  short : ∀ s ∈ Path.steps ⟨name⟩, s.utf8ByteSize ≤ Disk.longestName

theorem Path.accepted_of_join {dir : Path} {name : String} (hdir : dir.isAbsolute = true)
    (hrel : isAbsolute ⟨name⟩ = false) (h : (dir.join name).Accepted) :
    dir.Accepted ∧ '\x00' ∉ name.toList := by
  obtain ⟨hnul, -, hshort⟩ := h
  rw [text_join hrel] at hnul hshort
  simp only [String.toList_append, List.mem_append, not_or] at hnul
  simp only [String.utf8ByteSize_append] at hshort
  exact ⟨⟨hnul.1.1, text_ne_empty_of_isAbsolute hdir, by omega⟩, hnul.2⟩

theorem Path.accepted_join {dir : Path} {name : String} (hdir : dir.Accepted)
    (hrel : isAbsolute ⟨name⟩ = false) (hname : '\x00' ∉ name.toList)
    (hshort : (dir.join name).text.utf8ByteSize ≤ Disk.longestPath) : (dir.join name).Accepted := by
  refine ⟨?_, ?_, hshort⟩
  · rw [text_join hrel]
    simp only [String.toList_append, List.mem_append, not_or]
    exact ⟨⟨hdir.noNul, nul_not_mem_gap dir⟩, hname⟩
  · rw [text_join hrel]
    simp [hdir.nonempty]

theorem Path.getLast?_segments_join {p : Path} {name : String}
    (hrel : isAbsolute ⟨name⟩ = false) :
    (p.join name).segments.getLast? = (segments ⟨name⟩).getLast? := by
  obtain ⟨front, hfront, -, -⟩ := segments_join (p := p) hrel
  rw [hfront, List.getLast?_append, List.getLast?_eq_some_getLast (segments_ne_nil ⟨name⟩),
    Option.some_or]

/-- A path that ends in a name has steps, a last one among them. -/
theorem Path.steps_of_named {p : Path}
    (h : ∀ s, p.segments.getLast? = some s → isIdle s = false) :
    ∃ front last, p.steps = front ++ [last] := by
  have hlast := h _ (List.getLast?_eq_some_getLast p.segments_ne_nil)
  have hstep : p.segments.getLast p.segments_ne_nil ∈ p.steps :=
    List.mem_filter.mpr ⟨List.getLast_mem _, by simp [hlast]⟩
  have hne := List.ne_nil_of_mem hstep
  exact ⟨_, _, (List.dropLast_concat_getLast hne).symm⟩

namespace Disk

/-! ## Directories -/

/-- What holds at each name on the way down holds at the first one and at those after it. -/
theorem forall_prefix_cons_iff {P : Location → Prop} {here : Location} {s : String}
    {rest : List String} :
    (∀ front, front ≠ [] → front <+: s :: rest → P (here ++ front)) ↔
      P (here ++ [s]) ∧ ∀ front, front ≠ [] → front <+: rest → P (here ++ [s] ++ front) := by
  have happend : ∀ more, here ++ [s] ++ more = here ++ s :: more := by simp
  simp only [happend]
  constructor
  · intro h
    exact ⟨h [s] (List.cons_ne_nil s []) (List.prefix_append [s] rest), fun front _ hfront =>
      h _ (List.cons_ne_nil s front) ((List.prefix_cons_inj s).mpr hfront)⟩
  · rintro ⟨hfirst, hrest⟩ front hne hfront
    rcases List.prefix_cons_iff.mp hfront with rfl | ⟨more, rfl, hmore⟩
    · exact absurd rfl hne
    · cases more with
      | nil => exact hfirst
      | cons t more => exact hrest _ (List.cons_ne_nil t more) hmore

/-- Names are entered exactly when none is too long and a directory stands at each of them. -/
theorem enterAll_names_iff {d : Disk} {here l : Location} {names : List String}
    (hdot : "." ∉ names) (hup : ".." ∉ names) :
    d.enterAll here names = .ok l ↔ l = here ++ names ∧
      (∀ s ∈ names, s.utf8ByteSize ≤ longestName) ∧
      ∀ front, front ≠ [] → front <+: names → d.node? (here ++ front) = some .directory := by
  induction names generalizing here with
  | nil =>
    have hnone : ∀ front : List String, front ≠ [] → ¬ front <+: [] :=
      fun front hne hfront => hne (List.prefix_nil.mp hfront)
    simp only [enterAll, List.append_nil]
    constructor
    · rintro ⟨⟩
      exact ⟨rfl, List.forall_mem_nil _, fun front hne hfront => absurd hfront (hnone front hne)⟩
    · rintro ⟨rfl, -⟩
      rfl
  | cons s rest ih =>
    rw [List.mem_cons, not_or] at hdot hup
    have hhead : ∀ next, d.enter here s = .ok next ↔ s.utf8ByteSize ≤ longestName ∧
        d.node? (here ++ [s]) = some .directory ∧ next = here ++ [s] :=
      fun next => enter_name_iff (Ne.symm hdot.1) (Ne.symm hup.1)
    have happend : here ++ [s] ++ rest = here ++ s :: rest := by simp
    -- the first name, and then the others
    rw [enterAll_cons_ok_iff, List.forall_mem_cons,
      forall_prefix_cons_iff (P := fun l => d.node? l = some .directory), ← happend]
    constructor
    · rintro ⟨next, hnext, henter⟩
      obtain ⟨hshort, hnode, rfl⟩ := (hhead next).mp hnext
      obtain ⟨rfl, hshorts, hnodes⟩ := (ih hdot.2 hup.2).mp henter
      exact ⟨rfl, ⟨hshort, hshorts⟩, hnode, hnodes⟩
    · rintro ⟨rfl, ⟨hshort, hshorts⟩, hnode, hnodes⟩
      exact ⟨_, (hhead _).mpr ⟨hshort, hnode, rfl⟩, (ih hdot.2 hup.2).mpr ⟨rfl, hshorts, hnodes⟩⟩

/-- What comes after the steps of a path is entered from its place. -/
theorem enterAll_steps_append_iff {d : Disk} {p : Path} {names : List String} {here : Location} :
    d.enterAll (d.origin p) (p.steps ++ names) = .ok here ↔
      d.enterAll (d.origin p) p.steps = .ok (d.place p) ∧
        d.enterAll (d.place p) names = .ok here := by
  rw [enterAll_append_ok_iff]
  constructor
  · rintro ⟨mid, hmid, hnames⟩
    obtain rfl : mid = d.place p := enterAll_ok (dot_not_mem_steps p) hmid
    exact ⟨hmid, hnames⟩
  · rintro ⟨hmid, hnames⟩
    exact ⟨_, hmid, hnames⟩

/-! ## Files -/

/-- Names lead down from a location through directories to a file. -/
structure HoldsFile (d : Disk) (here : Location) (names : List String) (content : ByteArray) :
    Prop where
  above : ∀ front, front ≠ [] → front <+: names → front ≠ names →
    d.node? (here ++ front) = some .directory
  file : d.node? (here ++ names) = some (.file content)

/-- What is held at one location is held at another one that has the same below it. -/
theorem HoldsFile.congr {d e : Disk} {here there : Location} {names : List String}
    {content : ByteArray} (h : d.HoldsFile here names content)
    (hsame : ∀ more, e.node? (there ++ more) = d.node? (here ++ more)) :
    e.HoldsFile there names content := by
  refine ⟨fun front hne hfront hother => ?_, ?_⟩
  · rw [hsame]
    exact h.above front hne hfront hother
  · rw [hsame]
    exact h.file

theorem holdsFile_concat_iff {d : Disk} {here : Location} {names : List String} {last : String}
    {content : ByteArray} : d.HoldsFile here (names ++ [last]) content ↔
      (∀ front, front ≠ [] → front <+: names → d.node? (here ++ front) = some .directory) ∧
        d.node? (here ++ names ++ [last]) = some (.file content) := by
  rw [List.append_assoc]
  constructor
  · rintro ⟨habove, hnode⟩
    refine ⟨fun front hne hfront => ?_, hnode⟩
    refine habove front hne (hfront.trans (List.prefix_append names [last])) ?_
    rintro rfl
    have hlength := hfront.length_le
    rw [List.length_append, List.length_singleton] at hlength
    omega
  · rintro ⟨habove, hnode⟩
    refine ⟨fun front hne hfront hother => habove front hne ?_, hnode⟩
    exact (List.prefix_concat_iff.mp hfront).resolve_left hother

/-- A name in a directory leads to a file exactly when the directory is there, the text of the path
allows it, and the file is held below the place of the directory. -/
theorem find_join_iff {d : Disk} {dir : Path} {name : String} (hdir : dir.isAbsolute = true)
    (hrel : Path.isAbsolute ⟨name⟩ = false) (hup : ".." ∉ Path.steps ⟨name⟩) {l : Location}
    {content : ByteArray} :
    d.find (dir.join name) = .ok (l, .file content) ↔
      d.isDir dir = true ∧ dir.Holdable name ∧ l = d.place dir ++ Path.steps ⟨name⟩ ∧
        d.HoldsFile (d.place dir) (Path.steps ⟨name⟩) content := by
  have horigin : d.origin (dir.join name) = d.origin dir := by
    simp [origin, hdir, Path.isAbsolute_join hdir]
  have hsteps := Path.steps_join (p := dir) hrel
  have hdot := dot_not_mem_steps ⟨name⟩
  constructor
  · intro h
    obtain ⟨haccepted, hnamed, hstart, front, last, here, hfront, -, henter, hshort, rfl, hnode⟩ :=
      find_file_iff.mp h
    rw [Path.getLast?_segments_join hrel] at hnamed
    obtain ⟨names, last', hnames⟩ := Path.steps_of_named hnamed
    rw [hsteps, hnames, ← List.append_assoc] at hfront
    obtain ⟨rfl, hlast⟩ := List.append_inj' hfront rfl
    obtain rfl : last' = last := (List.cons.inj hlast).1
    rw [hnames, List.mem_append, not_or] at hdot hup
    rw [horigin] at hstart henter
    -- the steps of the directory come first, and lead to its place
    obtain ⟨hmid, henter⟩ := enterAll_steps_append_iff.mp henter
    obtain ⟨rfl, hshorts, hnodes⟩ := (enterAll_names_iff hdot.1 hup.1).mp henter
    have hthere := isDir_iff.mpr ⟨(Path.accepted_of_join hdir hrel haccepted).1, hstart, hmid⟩
    refine ⟨hthere, ⟨haccepted, hnamed, fun s hs => ?_⟩, by rw [hnames, List.append_assoc], ?_⟩
    · rw [hnames] at hs
      rcases List.mem_append.mp hs with hs | hs
      · exact hshorts s hs
      · rwa [List.mem_singleton.mp hs]
    · rw [hnames]
      exact holdsFile_concat_iff.mpr ⟨hnodes, hnode⟩
  · rintro ⟨hthere, ⟨haccepted, hnamed, hshorts⟩, rfl, hholds⟩
    obtain ⟨names, last, hnames⟩ := Path.steps_of_named hnamed
    rw [← Path.getLast?_segments_join (p := dir) hrel] at hnamed
    obtain ⟨-, hstart, hmid⟩ := isDir_iff.mp hthere
    rw [hnames, List.mem_append, not_or] at hdot hup
    rw [hnames] at hshorts hholds
    obtain ⟨habove, hnode⟩ := holdsFile_concat_iff.mp hholds
    have hlastUp : last ≠ ".." := fun hlast => hup.2 (hlast ▸ List.mem_singleton_self last)
    have henter : d.enterAll (d.place dir) names = .ok (d.place dir ++ names) :=
      (enterAll_names_iff hdot.1 hup.1).mpr
        ⟨rfl, fun s hs => hshorts s (List.mem_append_left _ hs), habove⟩
    rw [hnames, ← List.append_assoc]
    refine find_file_iff.mpr ⟨haccepted, hnamed, horigin ▸ hstart, dir.steps ++ names, last,
      d.place dir ++ names, ?_, hlastUp, ?_, ?_, rfl, hnode⟩
    · rw [hsteps, hnames, List.append_assoc]
    · rw [horigin]
      exact enterAll_steps_append_iff.mpr ⟨hmid, henter⟩
    · exact hshorts last (List.mem_append_right _ (List.mem_singleton_self last))

/-! ## Entries -/

/-- Every entry lies in a directory. -/
def Rooted (d : Disk) : Prop := ∀ e ∈ d.entries, d.node? e.1.dropLast = some .directory

instance (d : Disk) : Decidable d.Rooted :=
  inferInstanceAs (Decidable (∀ e ∈ d.entries, d.node? e.1.dropLast = some .directory))

namespace Rooted

variable {d : Disk} (h : d.Rooted)

include h

theorem parent {l : Location} {name : String} {n : Node} (hn : d.node? (l ++ [name]) = some n) :
    d.node? l = some .directory := by
  rw [node?, if_neg (by simp)] at hn
  obtain ⟨front, rest, hentries, -⟩ := List.lookup_eq_some_iff.mp hn
  have hmem : (l ++ [name], n) ∈ d.entries := by
    rw [hentries]
    exact List.mem_append_right _ List.mem_cons_self
  have hparent := h _ hmem
  rwa [List.dropLast_concat] at hparent

/-- What something lies below is a directory. -/
theorem above {l : Location} {more : List String} (hne : more ≠ []) {n : Node}
    (hn : d.node? (l ++ more) = some n) : d.node? l = some .directory := by
  induction more generalizing l with
  | nil => exact absurd rfl hne
  | cons s rest ih =>
    cases rest with
    | nil => exact h.parent hn
    | cons t rest =>
      have happend : l ++ s :: t :: rest = (l ++ [s]) ++ t :: rest := by simp
      rw [happend] at hn
      exact h.parent (ih (List.cons_ne_nil t rest) hn)

/-- A file is held below every location that its own begins with. -/
theorem holdsFile {here : Location} {names : List String} {content : ByteArray}
    (hn : d.node? (here ++ names) = some (.file content)) : d.HoldsFile here names content := by
  refine ⟨fun front _ hfront hother => ?_, hn⟩
  obtain ⟨more, rfl⟩ := hfront
  have hmore : more ≠ [] := by
    rintro rfl
    exact hother (List.append_nil front).symm
  rw [← List.append_assoc] at hn
  exact h.above hmore hn

end Rooted

end Disk

end DeviceSpec
