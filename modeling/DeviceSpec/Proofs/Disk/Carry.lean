import DeviceSpec.Proofs.Disk.Descend

/-!
# Copies and renamings

What a directory holds is carried to another location, and either stays where it was or does not.

* **files** — a file below a directory that is carried is found below the new one, under every name
  with the same steps that can lead to it (`Carried.find_join`);
* **copying** — nothing outside the new location changes (`copied_copy`);
* **renaming** — the old location is empty afterwards (`renamed_relocate`), and this is what moving a
  directory does (`renamed_of_move`).
-/

namespace DeviceSpec

namespace Disk

/-- What stands at a location and below it stands at another one afterwards. -/
structure Carried (d e : Disk) (source target : Location) : Prop where
  workingDir : e.workingDir = d.workingDir
  inside : ∀ names, e.node? (target ++ names) = d.node? (source ++ names)

structure Copied (d e : Disk) (source target : Location) : Prop
    extends Carried d e source target where
  outside : ∀ l, ¬ target <+: l → e.node? l = d.node? l

structure Renamed (d e : Disk) (source target : Location) : Prop
    extends Carried d e source target where
  gone : ∀ names, e.node? (source ++ names) = none
  outside : ∀ l, ¬ target <+: l → ¬ source <+: l → e.node? l = d.node? l

/-- What a name leads to in the old directory is what names with the same steps lead to in the new
one. -/
theorem Carried.find_join {d e : Disk} {old new : Path} {name rest : String}
    (h : d.Carried e (e.place old) (e.place new)) (hold : old.isAbsolute = true)
    (hnew : new.isAbsolute = true) (hthere : e.isDir new = true)
    (hname : Path.isAbsolute ⟨name⟩ = false) (hup : ".." ∉ Path.steps ⟨name⟩)
    (hrest : Path.isAbsolute ⟨rest⟩ = false) (hsteps : Path.steps ⟨rest⟩ = Path.steps ⟨name⟩)
    (hholdable : new.Holdable rest) {l : Location} {content : ByteArray}
    (hfind : d.find (old.join name) = .ok (l, .file content)) :
    e.find (new.join rest) = .ok (e.place new ++ Path.steps ⟨name⟩, .file content) := by
  obtain ⟨-, -, -, hholds⟩ := (find_join_iff hold hname hup).mp hfind
  have hplace : d.place old = e.place old := by
    rw [place_of_isAbsolute hold, place_of_isAbsolute hold]
  rw [hplace, ← hsteps] at hholds
  rw [← hsteps] at hup ⊢
  exact (find_join_iff hnew hrest hup).mpr ⟨hthere, hholdable, rfl, hholds.congr h.inside⟩

/-- An entry at or below the first location, carried to the second. -/
def carry (source target : Location) (e : Location × Node) : Option (Location × Node) :=
  if source.isPrefixOf e.1 then some (target ++ e.1.drop source.length, e.2) else none

/-- Copy what stands at a location, with all below it, to another location. -/
def copy (d : Disk) (source target : Location) : Disk :=
  let rest := d.entries.filter fun e => !target.isPrefixOf e.1
  { d with entries := d.entries.filterMap (carry source target) ++ rest }

/-! ## Entries -/

section Entries

variable {source target l : Location}

theorem carry_append (more : List String) (n : Node) :
    carry source target (source ++ more, n) = some (target ++ more, n) := by
  simp [carry]

theorem carry_of_outside (h : ¬ source <+: l) (n : Node) : carry source target (l, n) = none := by
  simp [carry, h]

/-- The entries that are carried, under their new names. -/
theorem lookup_carried (es : List (Location × Node)) (names : List String) :
    (es.filterMap (carry source target)).lookup (target ++ names) =
      es.lookup (source ++ names) := by
  induction es with
  | nil => rfl
  | cons e es ih =>
    obtain ⟨k, n⟩ := e
    by_cases hk : source <+: k
    · obtain ⟨more, rfl⟩ := hk
      have hbeq : (target ++ names == target ++ more) = (source ++ names == source ++ more) := by
        rw [Bool.eq_iff_iff]
        simp
      rw [List.filterMap_cons_some (carry_append more n), List.lookup_cons, List.lookup_cons, hbeq,
        ih]
    · have hne : (source ++ names == k) = false := by
        rw [beq_eq_false_iff_ne]
        rintro rfl
        exact hk (List.prefix_append _ _)
      rw [List.filterMap_cons_none (carry_of_outside hk n), List.lookup_cons, hne, ih]

theorem lookup_carried_outside (es : List (Location × Node)) (h : ¬ target <+: l) :
    (es.filterMap (carry source target)).lookup l = none := by
  induction es with
  | nil => rfl
  | cons e es ih =>
    obtain ⟨k, n⟩ := e
    by_cases hk : source <+: k
    · obtain ⟨more, rfl⟩ := hk
      have hne : (l == target ++ more) = false := by
        rw [beq_eq_false_iff_ne]
        rintro rfl
        exact h (List.prefix_append _ _)
      rw [List.filterMap_cons_some (carry_append more n), List.lookup_cons, hne, ih]
    · rw [List.filterMap_cons_none (carry_of_outside hk n), ih]

theorem lookup_filter_key (es : List (Location × Node)) (keep : Location → Bool) :
    (es.filter fun e => keep e.1).lookup l = if keep l then es.lookup l else none := by
  induction es with
  | nil => simp
  | cons e es ih =>
    obtain ⟨k, n⟩ := e
    by_cases hl : l = k
    · subst hl
      cases hk : keep l <;> simp [hk, ih]
    · have hne : (l == k) = false := by simpa using hl
      cases hk : keep k <;> simp [hk, List.lookup_cons, hne, ih]

theorem isPrefixOf_append (names : List String) : target.isPrefixOf (target ++ names) = true :=
  List.isPrefixOf_iff_prefix.mpr (List.prefix_append _ _)

theorem isPrefixOf_eq_false (h : ¬ target <+: l) : target.isPrefixOf l = false := by
  rw [Bool.eq_false_iff, ne_eq, List.isPrefixOf_iff_prefix]
  exact h

theorem ne_nil_of_apart (h : ¬ source <+: target) : source ≠ [] := by
  rintro rfl
  exact h List.nil_prefix

/-- Locations that do not lie in one another have nothing below them in common. -/
theorem not_prefix_append (h : ¬ source <+: target) (h' : ¬ target <+: source)
    (names : List String) : ¬ target <+: source ++ names := by
  intro hprefix
  rcases List.prefix_or_prefix_of_prefix hprefix (List.prefix_append source names) with hle | hle
  · exact h' hle
  · exact h hle

end Entries

/-! ## Copies -/

section Apart

variable {source target : Location} (h : ¬ source <+: target) (h' : ¬ target <+: source)

include h h'

theorem copied_copy (d : Disk) : d.Copied (d.copy source target) source target := by
  have htarget := ne_nil_of_apart h'
  have hsource := ne_nil_of_apart h
  have hrest := fun l => lookup_filter_key (l := l) d.entries fun l => !target.isPrefixOf l
  refine ⟨⟨rfl, fun names => ?_⟩, fun l hl => ?_⟩
  · simp only [node?, copy, List.append_eq_nil_iff, htarget, hsource, false_and, if_false]
    rw [List.lookup_append, lookup_carried, hrest, isPrefixOf_append]
    simp
  · simp only [node?, copy]
    rw [List.lookup_append, lookup_carried_outside _ hl, hrest, isPrefixOf_eq_false hl]
    simp

theorem renamed_relocate (d : Disk) : d.Renamed (d.relocate source target) source target := by
  have htarget := ne_nil_of_apart h'
  have hsource := ne_nil_of_apart h
  have hentries : (d.relocate source target).entries = d.entries.filterMap (carry source target) ++
      d.entries.filter (fun e => !source.isPrefixOf e.1 && !target.isPrefixOf e.1) := rfl
  have hrest := fun l => lookup_filter_key (l := l) d.entries
    fun l => !source.isPrefixOf l && !target.isPrefixOf l
  refine ⟨⟨rfl, fun names => ?_⟩, fun names => ?_, fun l hl hl' => ?_⟩
  · simp only [node?, hentries, List.append_eq_nil_iff, htarget, hsource, false_and, if_false]
    rw [List.lookup_append, lookup_carried, hrest, isPrefixOf_append]
    simp
  · have houtside := not_prefix_append h h' names
    simp only [node?, hentries, List.append_eq_nil_iff, hsource, false_and, if_false]
    rw [List.lookup_append, lookup_carried_outside _ houtside, hrest, isPrefixOf_append]
    simp
  · simp only [node?, hentries]
    rw [List.lookup_append, lookup_carried_outside _ hl, hrest, isPrefixOf_eq_false hl,
      isPrefixOf_eq_false hl']
    simp

end Apart

/-! ## Moving -/

/-- Moving changes nothing, as both paths lead to the same place, or carries what stands at the one
to the other. -/
theorem move_ok {d e : Disk} {source target : Path} (h : d.move source target = .ok e) :
    (d.place source = d.place target ∧ e = d) ∨
      e = d.relocate (d.place source) (d.place target) := by
  unfold move at h
  split at h
  · cases h
  · cases h
  · rename_i s t hs ht
    rw [place_of_target hs, place_of_target ht] at h
    grind

/-- A directory that is moved to a place apart from it is renamed. -/
theorem renamed_of_move {d e : Disk} {source target : Path} (h : d.move source target = .ok e)
    (hsource : ¬ d.place source <+: d.place target)
    (htarget : ¬ d.place target <+: d.place source) :
    d.Renamed e (d.place source) (d.place target) := by
  rcases move_ok h with ⟨hsame, -⟩ | rfl
  · exact absurd (hsame ▸ List.prefix_rfl) hsource
  · exact renamed_relocate hsource htarget d

end Disk

end DeviceSpec
