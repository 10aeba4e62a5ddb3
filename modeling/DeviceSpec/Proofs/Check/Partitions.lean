import DeviceSpec.Check.Rule

/-!
# Partitions and mounts

The rule about partitions compares sets of names. Two sets of names are equal when they have the
same members, so the rule does not see a partition that is declared twice or mounted twice.

* **sets of names** — a set holds the names of its list (`mem_nameSet`), and two lists with the same
  names have the same set (`nameSet_eq_iff`);
* **the rule** — it finds nothing exactly when the partitions that every device has are declared
  and the mounts refer to the declared partitions, all of them (`checkPartitions_eq_nil_iff`);
* **one to one** — each partition is declared once and mounted once exactly when the rule finds
  nothing and no name is repeated on either side (`one_to_one_iff`).
-/

namespace DeviceSpec

/-! ## Sets of names -/

theorem mem_insertName {x y : String} {names : List String} :
    y ∈ insertName x names ↔ y = x ∨ y ∈ names := by
  induction names with
  | nil => simp [insertName]
  | cons z zs ih =>
    unfold insertName
    split
    · simp
    · split
      · rename_i heq
        subst heq
        simp
      · simp only [List.mem_cons, ih, or_left_comm]

theorem mem_nameSet {x : String} {names : List String} : x ∈ nameSet names ↔ x ∈ names := by
  induction names with
  | nil => rfl
  | cons y ys ih =>
    show x ∈ insertName y (nameSet ys) ↔ _
    rw [mem_insertName, ih, List.mem_cons]

theorem sorted_insertName {x : String} {names : List String} (h : names.Pairwise (· < ·)) :
    (insertName x names).Pairwise (· < ·) := by
  induction names with
  | nil => simp [insertName]
  | cons y ys ih =>
    obtain ⟨hy, hys⟩ := List.pairwise_cons.mp h
    unfold insertName
    split
    · rename_i hxy
      refine List.pairwise_cons.mpr ⟨fun z hz => ?_, h⟩
      rcases List.mem_cons.mp hz with rfl | hz
      · exact hxy
      · exact String.lt_trans hxy (hy z hz)
    · split
      · exact h
      · rename_i hxy hne
        refine List.pairwise_cons.mpr ⟨fun z hz => ?_, ih hys⟩
        rcases mem_insertName.mp hz with rfl | hz
        · exact Std.lt_of_le_of_ne (String.not_lt.mp hxy) (Ne.symm hne)
        · exact hy z hz

theorem sorted_nameSet (names : List String) : (nameSet names).Pairwise (· < ·) := by
  induction names with
  | nil => exact .nil
  | cons x xs ih => exact sorted_insertName ih

theorem nodup_nameSet (names : List String) : (nameSet names).Nodup := by
  refine (sorted_nameSet names).imp fun {a b} hlt => ?_
  rintro rfl
  exact String.lt_irrefl a hlt

/-- Lists of the same names have the same set. -/
theorem nameSet_eq_iff {a b : List String} : nameSet a = nameSet b ↔ ∀ x, x ∈ a ↔ x ∈ b := by
  constructor
  · intro h x
    rw [← mem_nameSet, h, mem_nameSet]
  · intro h
    have hperm : (nameSet a).Perm (nameSet b) := by
      rw [List.perm_ext_iff_of_nodup (nodup_nameSet a) (nodup_nameSet b)]
      intro x
      rw [mem_nameSet, h, mem_nameSet]
    refine hperm.eq_of_pairwise (fun x y _ _ hxy hyx => ?_) (sorted_nameSet a) (sorted_nameSet b)
    exact absurd (String.lt_trans hxy hyx) (String.lt_irrefl x)

/-! ## The rule -/

/-- A name is mounted when a mount other than `auto` refers to it. -/
theorem Fstab.mem_partitions {f : Fstab} {p : String} :
    p ∈ f.partitions ↔ ∃ m ∈ f.mounts, mountPartition? m.destination = some p :=
  List.mem_filterMap

theorem nil_of_unless_iff {α : Type} {c : Prop} [Decidable c] {x : α} :
    (if c then [] else [x]) = [] ↔ c := by
  split <;> simp_all

/-- The rule finds nothing exactly when the partitions that every device has are declared, and the
declared partitions are those that are mounted. -/
theorem checkPartitions_eq_nil_iff {t : PartitionTable} {f : Fstab} :
    checkPartitions t f = [] ↔
      (∀ p ∈ requiredPartitions, p ∈ t.names) ∧ ∀ p, p ∈ t.names ↔ p ∈ f.partitions := by
  have hneeded : ∀ names, (nameSet requiredPartitions).all (nameSet names).contains = true ↔
      ∀ p ∈ requiredPartitions, p ∈ names := by
    intro names
    simp [List.all_eq_true, mem_nameSet]
  simp only [checkPartitions, List.append_eq_nil_iff, nil_of_unless_iff, hneeded, nameSet_eq_iff]
  constructor
  · rintro ⟨⟨hdeclared, -⟩, hsame⟩
    exact ⟨hdeclared, hsame⟩
  · rintro ⟨hdeclared, hsame⟩
    exact ⟨⟨hdeclared, fun p hp => (hsame p).mp (hdeclared p hp)⟩, hsame⟩

/-! ## One to one -/

/-- The partitions have names of their own, each is the one that exactly one mount refers to, and
no mount refers to another. -/
structure OneToOne (t : PartitionTable) (f : Fstab) : Prop where
  distinct : t.names.Nodup
  mounted : ∀ p ∈ t.names, f.mounts.countP (fun m => mountPartition? m.destination = some p) = 1
  declared : ∀ m ∈ f.mounts, ∀ p, mountPartition? m.destination = some p → p ∈ t.names

theorem Fstab.count_partitions (f : Fstab) (p : String) :
    f.partitions.count p = f.mounts.countP (fun m => mountPartition? m.destination = some p) := by
  rw [Fstab.partitions, List.count, List.countP_filterMap]
  refine List.countP_congr fun m _ => ?_
  cases mountPartition? m.destination <;> simp

/-- Partitions and mounts are one to one, with those that every device has among them, exactly when
the rule finds nothing and no partition is declared or mounted twice. -/
theorem one_to_one_iff (t : PartitionTable) (f : Fstab) :
    (∀ p ∈ requiredPartitions, p ∈ t.names) ∧ OneToOne t f ↔
      checkPartitions t f = [] ∧ t.names.Nodup ∧ f.partitions.Nodup := by
  rw [checkPartitions_eq_nil_iff]
  constructor
  · rintro ⟨hneeded, h⟩
    have hcount : ∀ p ∈ t.names, f.partitions.count p = 1 := fun p hp =>
      (f.count_partitions p).trans (h.mounted p hp)
    have hdeclared : ∀ p ∈ f.partitions, p ∈ t.names := by
      intro p hp
      obtain ⟨m, hm, hmount⟩ := Fstab.mem_partitions.mp hp
      exact h.declared m hm p hmount
    refine ⟨⟨hneeded, fun p => ⟨fun hp => ?_, hdeclared p⟩⟩, h.distinct, ?_⟩
    · have hone := hcount p hp
      exact List.count_pos_iff.mp (by omega)
    · rw [List.nodup_iff_count]
      intro p
      by_cases hp : p ∈ f.partitions
      · exact Nat.le_of_eq (hcount p (hdeclared p hp))
      · simp [List.count_eq_zero.mpr hp]
  · rintro ⟨⟨hneeded, hsame⟩, hnames, hmounts⟩
    refine ⟨hneeded, hnames, fun p hp => ?_, fun m hm p hmount => ?_⟩
    · rw [← f.count_partitions, hmounts.count, if_pos ((hsame p).mp hp)]
    · exact (hsame p).mpr (Fstab.mem_partitions.mpr ⟨m, hm, hmount⟩)

/-- The partitions that every device has, each declared once. -/
def plainTable : PartitionTable :=
  { partitions := requiredPartitions.map fun name => { name := name } }

/-- Mounts for them. Two of these refer to the data of the users. -/
def aliasedMounts : Fstab :=
  { mounts := ["/system", "/data", "/cache", "/userdata"].map fun d => { destination := d } }

/-- The rule finds nothing although a partition is mounted twice. -/
theorem userdata_mounted_twice :
    checkPartitions plainTable aliasedMounts = [] ∧ ¬ OneToOne plainTable aliasedMounts := by
  refine ⟨by decide +kernel, fun h => ?_⟩
  have hone := h.mounted userdataPartition (by decide)
  exact absurd hone (by decide +kernel)

end DeviceSpec
