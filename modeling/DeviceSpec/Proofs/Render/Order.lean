import DeviceSpec.Artifact
import DeviceSpec.Proofs.Overlay.Merge
import DeviceSpec.Proofs.Render.Device

/-!
# The order of the HALs

What is generated does not depend on the order in which the HALs are declared, as they are sorted
by their names before they are written, and the sort is stable.

* **by name** — two lists that hold the same HALs of each name, in the same order, are sorted to the
  same list (`Spec.halsByName_congr`);
* **rearrangements** — a rearranged list is such a list if the names are different
  (`sameByName_of_perm`), and so is a list that rearranged HALs were put into
  (`sameByName_placeHals`);
* **the output** — the sorted list is all that the generated files see of the order
  (`sameOutput_of_sameByName`), so neither the order of the HALs nor that of the overlays matters
  (`output_order_irrelevant`).
-/

namespace DeviceSpec

/-- All HALs of a name, in order. -/
def allNamed (name : String) (hals : List Hal) : List Hal :=
  hals.filter (fun h => h.name == name)

/-- The lists hold the same HALs of each name, in the same order. -/
def SameByName (a b : List Hal) : Prop := ∀ name, allNamed name a = allNamed name b

/-- The HALs of the overlays of a directory, in the order of the file names. -/
def overlayHals (dir : Path) (d : Disk) : List Hal := (fragments dir d).map Prod.snd

/-- The same files are generated from both descriptions, under the same names and with the same
texts. -/
structure SameOutput (s t : Spec) : Prop where
  plan : t.plan = s.plan
  fileName : ∀ a : Artifact, a.fileName t = a.fileName s
  render? : ∀ a : Artifact, a.render? t = a.render? s

/-! ## Sorting -/

section
variable {a b hals : List Hal} {g h : Hal} {name : String}

@[simp] theorem mem_allNamed : h ∈ allNamed name hals ↔ h ∈ hals ∧ h.name = name := by
  simp [allNamed]

theorem allNamed_cons_self : allNamed h.name (h :: hals) = h :: allNamed h.name hals := by
  simp [allNamed]

theorem allNamed_cons_of_ne (hname : h.name ≠ name) :
    allNamed name (h :: hals) = allNamed name hals := by
  simp [allNamed, hname]

theorem SameByName.mem_iff (hsame : SameByName a b) : h ∈ a ↔ h ∈ b := by
  have hname : h ∈ allNamed h.name a ↔ h ∈ allNamed h.name b := by rw [hsame]
  simpa using hname

/-- Without the first HAL, when both lists begin with it. -/
theorem SameByName.of_cons (hsame : SameByName (h :: a) (h :: b)) : SameByName a b := by
  intro name
  have hcons := hsame name
  by_cases hname : h.name = name
  · subst hname
    rw [allNamed_cons_self, allNamed_cons_self] at hcons
    exact (List.cons_inj_right h).mp hcons
  · rwa [allNamed_cons_of_ne hname, allNamed_cons_of_ne hname] at hcons

/-- Sorting keeps the order of the HALs of one name. -/
theorem allNamed_halsByName (s : Spec) (name : String) :
    allNamed name s.halsByName = allNamed name s.hals := by
  have hsorted : (allNamed name s.hals).Pairwise fun a b => decide (a.name ≤ b.name) = true := by
    refine List.pairwise_of_forall_mem_list fun a ha b hb => ?_
    rw [(mem_allNamed.mp ha).2, (mem_allNamed.mp hb).2, decide_eq_true (String.le_refl _)]
  -- they are in order already, so they stand in the sorted list as they do in the other
  have hsub : (allNamed name s.hals).Sublist s.halsByName :=
    List.sublist_mergeSort (by simpa using fun a b c : Hal => String.le_trans)
      (by simpa using fun a b : Hal => String.le_total a.name b.name) hsorted List.filter_sublist
  have hnamed : (allNamed name s.hals).Sublist (allNamed name s.halsByName) := by
    have hfilter := hsub.filter (fun h => h.name == name)
    simpa only [allNamed, List.filter_filter, Bool.and_self] using hfilter
  exact (hnamed.eq_of_length (s.halsByName_sorted.1.filter _).length_eq.symm).symm

/-- Two lists in the order of the names are the same if they hold the same HALs of each name. -/
theorem SameByName.eq_of_sorted (hsame : SameByName a b)
    (ha : a.Pairwise fun g h => g.name ≤ h.name) (hb : b.Pairwise fun g h => g.name ≤ h.name) :
    a = b := by
  induction a generalizing b with
  | nil =>
    have hnone : ∀ h, h ∉ b := fun h hh => List.not_mem_nil (hsame.mem_iff.mpr hh)
    exact (List.eq_nil_iff_forall_not_mem.mpr hnone).symm
  | cons g rest ih =>
    cases b with
    | nil => exact absurd (hsame.mem_iff.mp List.mem_cons_self) List.not_mem_nil
    | cons h more =>
      -- each of the two first names comes before the other
      have hgh : g.name ≤ h.name := by
        rcases List.mem_cons.mp (hsame.mem_iff.mpr List.mem_cons_self) with heq | hmem
        · exact heq ▸ String.le_refl _
        · exact List.rel_of_pairwise_cons ha hmem
      have hhg : h.name ≤ g.name := by
        rcases List.mem_cons.mp (hsame.mem_iff.mp List.mem_cons_self) with heq | hmem
        · exact heq ▸ String.le_refl _
        · exact List.rel_of_pairwise_cons hb hmem
      have hname : g.name = h.name := String.le_antisymm hgh hhg
      have hfirst := hsame h.name
      rw [allNamed_cons_self, ← hname, allNamed_cons_self] at hfirst
      obtain rfl : g = h := (List.cons.inj hfirst).1
      rw [ih hsame.of_cons ha.of_cons hb.of_cons]

theorem Spec.halsByName_congr {s t : Spec} (hsame : SameByName t.hals s.hals) :
    t.halsByName = s.halsByName := by
  refine SameByName.eq_of_sorted (fun name => ?_) t.halsByName_sorted.2 s.halsByName_sorted.2
  rw [allNamed_halsByName, allNamed_halsByName, hsame]

end

/-! ## Rearrangements -/

section
variable {a b hals : List Hal} {h : Hal} {name : String}

/-- HALs of different names may be rearranged. -/
theorem sameByName_of_perm (hperm : a.Perm b) (hnames : (b.map Hal.name).Nodup) :
    SameByName a b := by
  intro name
  have hdiffer : b.Pairwise fun g h => g.name ≠ h.name := List.pairwise_map.mp hnames
  have hdiffer' : a.Pairwise fun g h => g.name ≠ h.name :=
    (hperm.pairwise_iff Ne.symm).mpr hdiffer
  -- of each name there is at most one
  refine List.Perm.eq_of_pairwise ?_ (hdiffer'.filter _) (hdiffer.filter _) (hperm.filter _)
  intro g h hg hh hne _
  exact absurd ((mem_allNamed.mp hg).2.trans (mem_allNamed.mp hh).2.symm) hne

/-- A HAL that is put in place takes the place of the first of its name. -/
theorem allNamed_placeHal : allNamed name (placeHal hals h).1 =
    if h.name = name then h :: (allNamed name hals).tail else allNamed name hals := by
  induction hals with
  | nil =>
    by_cases hname : h.name = name
    · subst hname
      rw [placeHal_nil, if_pos rfl, allNamed_cons_self]
      rfl
    · rw [placeHal_nil, if_neg hname, allNamed_cons_of_ne hname]
  | cons g rest ih =>
    by_cases hgh : g.name = h.name
    · -- the place is found
      rw [placeHal_cons_self hgh]
      by_cases hname : h.name = name
      · subst hname
        rw [if_pos rfl, allNamed_cons_self, ← hgh, allNamed_cons_self, List.tail_cons]
      · rw [if_neg hname, allNamed_cons_of_ne hname, allNamed_cons_of_ne (hgh ▸ hname)]
    · rw [placeHal_cons_of_ne hgh]
      by_cases hg : g.name = name
      · subst hg
        rw [allNamed_cons_self, allNamed_cons_self, ih, if_neg (Ne.symm hgh),
          if_neg (Ne.symm hgh)]
      · rw [allNamed_cons_of_ne hg, allNamed_cons_of_ne hg, ih]

/-- What becomes of the HALs of a name depends on the HALs of that name that are put in place. -/
theorem allNamed_placeHals (fragments : List Hal) :
    allNamed name (placeHals hals fragments) =
      (allNamed name fragments).foldl (fun named h => h :: named.tail) (allNamed name hals) := by
  induction fragments generalizing hals with
  | nil => rfl
  | cons f rest ih =>
    have hstep : placeHals hals (f :: rest) = placeHals (placeHal hals f).1 rest := rfl
    rw [hstep, ih, allNamed_placeHal]
    by_cases hname : f.name = name
    · subst hname
      rw [if_pos rfl, allNamed_cons_self, List.foldl_cons]
    · rw [if_neg hname, allNamed_cons_of_ne hname]

theorem sameByName_placeHals (hsame : SameByName a b) :
    SameByName (placeHals hals a) (placeHals hals b) := by
  intro name
  rw [allNamed_placeHals, allNamed_placeHals, hsame]

end

/-! ## The output -/

section
variable {s t : Spec}

/-- A file of the policy is asked for by some HAL, wherever it stands. -/
theorem PolicyFile.isUsed_congr (hmem : ∀ h, h ∈ t.hals ↔ h ∈ s.hals) (f : PolicyFile) :
    f.isUsed t = f.isUsed s := by
  rw [Bool.eq_iff_iff]
  simp only [PolicyFile.isUsed, List.any_eq_true, hmem]

theorem sameOutput_of_sameByName (hrest : { t with hals := s.hals } = s)
    (hsame : SameByName t.hals s.hals) : SameOutput s t := by
  have hsorted := Spec.halsByName_congr hsame
  obtain ⟨version, product, board, bootImage, framework, hals, rawLines⟩ := s
  cases hrest
  refine ⟨?_, fun a => ?_, fun a => ?_⟩
  · simp only [Spec.plan, PolicyFile.isUsed_congr fun h => hsame.mem_iff]
  · cases a <;> rfl
  · -- five kinds of files hold text of the HALs
    cases a with
    | boardMakefile => simp only [Artifact.render?, Spec.boardMakefile, hsorted]; rfl
    | deviceMakefile => simp only [Artifact.render?, Spec.deviceMakefile, hsorted]; rfl
    | manifest => simp only [Artifact.render?, Spec.manifest, Spec.manifestEntries, hsorted]
    | ueventScript => simp only [Artifact.render?, Spec.ueventScript, hsorted]
    | policy f => simp only [Artifact.render?, PolicyFile.render, PolicyFile.lines, hsorted]
    | lunchScript => rfl
    | productIndex => rfl
    | productMakefile => rfl
    | fstab => rfl
    | usbScript => rfl

end

/-- Descriptions that differ in the order of HALs with different names give the same files. So do
overlays whose HALs have different names, whatever order their file names put them in. -/
theorem output_order_irrelevant (s : Spec) :
    (∀ t : Spec, { t with hals := s.hals } = s → t.hals.Perm s.hals →
      (s.hals.map Hal.name).Nodup → SameOutput s t) ∧
    (∀ (d e : Disk) (dir dir' : Path), d.WellFormed → e.WellFormed →
      (overlayHals dir' e).Perm (overlayHals dir d) →
      ((overlayHals dir d).map Hal.name).Nodup →
      SameOutput (s.withMerge (mergeOverlays s.hals dir d))
        (s.withMerge (mergeOverlays s.hals dir' e))) := by
  constructor
  · intro t hrest hperm hnames
    exact sameOutput_of_sameByName hrest (sameByName_of_perm hperm hnames)
  · intro d e dir dir' hd he hperm hnames
    refine sameOutput_of_sameByName rfl ?_
    simp only [Spec.withMerge, (mergeOverlays_fragments hd s.hals dir).1,
      (mergeOverlays_fragments he s.hals dir').1]
    exact sameByName_placeHals (sameByName_of_perm hperm hnames)

/-- The order of the overlays can be left out when only their HALs matter. -/
theorem overlayHals_perm {d : Disk} {dir : Path} {names : List String}
    (hlist : d.list dir = .ok names) :
    (overlayHals dir d).Perm
      ((names.filter fun n => isOverlayName n && d.isFile (dir.join n)).filterMap
        fun n => (loadHal (dir.join n) d).toOption) := by
  have hsnd : overlayHals dir d =
      (overlayNames dir d).filterMap fun n => (loadHal (dir.join n) d).toOption := by
    simp [overlayHals, fragments, List.map_filterMap, Function.comp_def]
  rw [hsnd, overlayNames, hlist]
  exact (List.mergeSort_perm _ _).filterMap _

/-- The overlays of `overlaidDirectory` under names that put them in the other order. -/
def renamedOverlays : Disk :=
  let wifi := "\x7b\"name\": \"wifi\", \"firmwares\": [\"fw\"]\x7d"
  let audio := "\x7b\"name\": \"audio\"\x7d"
  { entries := [(["d"], .directory), (["d", "ol.hal.1.json"], .file wifi.toUTF8),
      (["d", "ol.hal.2.json"], .file audio.toUTF8)] }

/-- The bundled profile with its HALs in the other order, and with the overlays of both
directories. -/
theorem output_order_irrelevant_profile :
    let t : Spec := { profile with hals := profile.hals.reverse }
    t.hals.Perm profile.hals ∧ (profile.hals.map Hal.name).Nodup ∧ SameOutput profile t ∧
      overlaidDirectory.WellFormed ∧ renamedOverlays.WellFormed ∧
      (overlayHals ⟨"/d"⟩ renamedOverlays).Perm (overlayHals ⟨"/d"⟩ overlaidDirectory) ∧
      ((overlayHals ⟨"/d"⟩ overlaidDirectory).map Hal.name).Nodup ∧
      SameOutput (profile.withMerge (mergeOverlays profile.hals ⟨"/d"⟩ overlaidDirectory))
        (profile.withMerge (mergeOverlays profile.hals ⟨"/d"⟩ renamedOverlays)) := by
  intro t
  have hperm : t.hals.Perm profile.hals := List.reverse_perm _
  have hnames : (profile.hals.map Hal.name).Nodup := by decide
  have hd : overlaidDirectory.WellFormed := ⟨by decide +kernel, by decide +kernel, nofun⟩
  have he : renamedOverlays.WellFormed := ⟨by decide +kernel, by decide +kernel, nofun⟩
  have hoverlaid : (overlayHals ⟨"/d"⟩ overlaidDirectory).Perm
      [{ name := "wifi", firmwares := ["fw"] }, { name := "audio" }] := by
    refine (overlayHals_perm (Disk.list_of_isDir (by decide +kernel))).trans (.of_eq ?_)
    decide +kernel
  have hrenamed : (overlayHals ⟨"/d"⟩ renamedOverlays).Perm
      [{ name := "wifi", firmwares := ["fw"] }, { name := "audio" }] := by
    refine (overlayHals_perm (Disk.list_of_isDir (by decide +kernel))).trans (.of_eq ?_)
    decide +kernel
  have hsame := hrenamed.trans hoverlaid.symm
  have hdistinct : ((overlayHals ⟨"/d"⟩ overlaidDirectory).map Hal.name).Nodup :=
    (hoverlaid.map Hal.name).nodup_iff.mpr (by decide)
  obtain ⟨hspecs, hdisks⟩ := output_order_irrelevant profile
  exact ⟨hperm, hnames, hspecs t rfl hperm hnames, hd, he, hsame, hdistinct,
    hdisks _ _ _ _ hd he hsame hdistinct⟩

end DeviceSpec
