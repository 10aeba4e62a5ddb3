import DeviceSpec.Overlay

/-!
# Putting HALs in place

A HAL takes the place of the first of its name or comes last. Doing that with one HAL after the
other keeps the order, and the last HAL of a name wins.

* **one HAL** — what it does to the names, to the first HAL of a name and to the other places
  (`names_placeHal`, `firstNamed_placeHal`, `getElem?_placeHal`);
* **many HALs** — the same for a list of them (`upserts_placeHals`); names that are different stay
  different (`nodup_placeHals`);
* **once more** — the names, the first HAL of each name and the HALs that come after another of
  their name are all there is to a list (`eq_of_firstNamed`), so HALs that are in place already
  change nothing (`Upserts.again`).
-/

namespace DeviceSpec

/-- The first HAL of a name. -/
def firstNamed (name : String) (hals : List Hal) : Option Hal :=
  hals.find? (fun h => h.name == name)

/-- Put HALs in place one after the other. -/
def placeHals (hals fragments : List Hal) : List Hal :=
  fragments.foldl (fun hals h => (placeHal hals h).1) hals

/-- The result holds the HALs, in their order, with the fragments put in place. -/
structure Upserts (hals fragments result : List Hal) : Prop where
  /-- Every place keeps its name, and each new name is added once, in the order they first come. -/
  names : result.map Hal.name = hals.map Hal.name ++
    ((fragments.map Hal.name).filter (fun n => n ∉ hals.map Hal.name)).eraseDups
  /-- The first HAL of a name is the last fragment of that name, or the one that was there. -/
  first : ∀ name, firstNamed name result =
    (firstNamed name fragments.reverse).or (firstNamed name hals)
  /-- A HAL that no fragment is named like, or that has the name of one before it, stays. -/
  kept : ∀ i h, hals[i]? = some h →
    h.name ∉ fragments.map Hal.name ∨ h.name ∈ (hals.take i).map Hal.name → result[i]? = some h

/-! ## One HAL -/

section
variable {g h : Hal} {hals : List Hal}

theorem placeHal_nil : (placeHal [] h).1 = [h] := rfl

theorem placeHal_cons_self (hname : g.name = h.name) : (placeHal (g :: hals) h).1 = h :: hals := by
  simp [placeHal, List.findIdx?_cons, hname]

theorem placeHal_cons_of_ne (hname : g.name ≠ h.name) :
    (placeHal (g :: hals) h).1 = g :: (placeHal hals h).1 := by
  simp only [placeHal, List.findIdx?_cons, beq_iff_eq, hname, if_false]
  cases hals.findIdx? (fun g => g.name == h.name) <;> rfl

theorem names_placeHal :
    (placeHal hals h).1.map Hal.name = hals.map Hal.name ++
      if h.name ∈ hals.map Hal.name then [] else [h.name] := by
  induction hals with
  | nil => simp [placeHal_nil]
  | cons g rest ih =>
    by_cases hname : g.name = h.name
    · simp [placeHal_cons_self hname, hname]
    · simp [placeHal_cons_of_ne hname, ih, Ne.symm hname]

theorem firstNamed_placeHal (name : String) :
    firstNamed name (placeHal hals h).1 =
      (firstNamed name [h]).or (firstNamed name hals) := by
  unfold firstNamed
  induction hals with
  | nil => simp [placeHal_nil]
  | cons g rest ih =>
    by_cases hname : g.name = h.name
    · rw [placeHal_cons_self hname]
      by_cases hn : h.name = name <;> simp [hname, hn]
    · rw [placeHal_cons_of_ne hname, List.find?_cons, ih]
      by_cases hg : g.name = name
      · have hn : h.name ≠ name := fun hn => hname (hg.trans hn.symm)
        simp [hg, hn]
      · have hother : (g.name == name) = false := by simpa using hg
        simp [hother]

theorem getElem?_placeHal {i : Nat} (hi : hals[i]? = some g)
    (hother : g.name ≠ h.name ∨ g.name ∈ (hals.take i).map Hal.name) :
    (placeHal hals h).1[i]? = some g := by
  induction hals generalizing i with
  | nil => cases hi
  | cons f rest ih =>
    by_cases hname : f.name = h.name
    · rw [placeHal_cons_self hname]
      cases i with
      | zero =>
        -- this place is taken: its HAL has the name, and none before it has
        cases hi
        simp [hname] at hother
      | succ i => exact hi
    · rw [placeHal_cons_of_ne hname]
      cases i with
      | zero => exact hi
      | succ i =>
        refine ih hi ?_
        rcases hother with hother | hother
        · exact .inl hother
        · rw [List.take_succ_cons, List.map_cons, List.mem_cons] at hother
          rcases hother with hother | hother
          · exact .inl (hother ▸ hname)
          · exact .inr hother

end

/-! ## Many HALs -/

/-- Nothing changes when there is nothing to put in place. -/
theorem Upserts.nil (hals : List Hal) : Upserts hals [] hals := by
  refine ⟨by simp, fun name => by simp [firstNamed], fun i h hi _ => hi⟩

/-- Putting one HAL in place comes before putting the others in place. -/
theorem Upserts.cons {hals rest result : List Hal} {h : Hal}
    (hrest : Upserts (placeHal hals h).1 rest result) : Upserts hals (h :: rest) result := by
  refine ⟨?_, fun name => ?_, fun i g hi hother => ?_⟩
  · rw [hrest.names, names_placeHal, List.append_assoc, List.map_cons]
    by_cases hold : h.name ∈ hals.map Hal.name
    · rw [if_pos hold, List.nil_append, List.append_nil, List.filter_cons_of_neg (by simp [hold])]
    · -- the name is new, and is not added again by the rest
      rw [if_neg hold, List.filter_cons_of_pos (by simp [hold]), List.eraseDups_cons,
        List.filter_filter, List.singleton_append]
      have hseen : ∀ n, decide (n ∉ hals.map Hal.name ++ [h.name]) =
          (!n == h.name && decide (n ∉ hals.map Hal.name)) := by
        intro n
        rw [Bool.eq_iff_iff]
        simp [and_comm]
      simp only [hseen]
  · rw [hrest.first, firstNamed_placeHal, ← Option.or_assoc, List.reverse_cons]
    simp [firstNamed, List.find?_append]
  · -- no HAL moves, so the names before a place are those that were there
    have hlength : i < hals.length := (List.getElem?_eq_some_iff.mp hi).1
    have htake : ((placeHal hals h).1.take i).map Hal.name = (hals.take i).map Hal.name := by
      rw [List.map_take, names_placeHal, List.take_append_of_le_length (by simp; omega),
        List.map_take]
    refine hrest.kept i g (getElem?_placeHal hi ?_) ?_
    · rcases hother with hother | hother
      · exact .inl fun hname => hother (by simp [hname])
      · exact .inr hother
    · rw [htake]
      exact hother.imp_left fun hother hmem => hother (List.mem_cons_of_mem _ hmem)

theorem upserts_placeHals (hals fragments : List Hal) :
    Upserts hals fragments (placeHals hals fragments) := by
  induction fragments generalizing hals with
  | nil => exact Upserts.nil hals
  | cons h rest ih => exact (ih (placeHal hals h).1).cons

/-- Different names stay different. -/
theorem nodup_placeHals {hals : List Hal} (fragments : List Hal)
    (h : (hals.map Hal.name).Nodup) : ((placeHals hals fragments).map Hal.name).Nodup := by
  induction fragments generalizing hals with
  | nil => exact h
  | cons f rest ih =>
    refine ih ?_
    rw [names_placeHal]
    by_cases hold : f.name ∈ hals.map Hal.name
    · rwa [if_pos hold, List.append_nil]
    · rw [if_neg hold, List.nodup_append]
      refine ⟨h, by simp, fun n hn m hm hsame => hold ?_⟩
      rwa [← List.mem_singleton.mp hm, ← hsame]

/-! ## Once more -/

section
variable {hals fragments result twice : List Hal}

theorem firstNamed_of_fresh {i : Nat} {h : Hal} (hi : hals[i]? = some h)
    (hfresh : h.name ∉ (hals.take i).map Hal.name) : firstNamed h.name hals = some h := by
  obtain ⟨hlt, rfl⟩ := List.getElem?_eq_some_iff.mp hi
  refine List.find?_eq_some_iff_getElem.mpr ⟨by simp, i, hlt, rfl, fun j hj => ?_⟩
  have hmem : hals[j] ∈ hals.take i := List.mem_take_iff_getElem.mpr ⟨j, by omega, rfl⟩
  simpa using fun hname => hfresh (List.mem_map.mpr ⟨_, hmem, hname⟩)

/-- Lists with the same names are the same if they agree on the first HAL of each name and on those
that come after another of their name. -/
theorem eq_of_firstNamed (hnames : twice.map Hal.name = result.map Hal.name)
    (hfirst : ∀ name, firstNamed name twice = firstNamed name result)
    (hlater : ∀ i h, result[i]? = some h → h.name ∈ (result.take i).map Hal.name →
      twice[i]? = some h) : twice = result := by
  refine List.ext_getElem? fun i => ?_
  have hname : twice[i]?.map Hal.name = result[i]?.map Hal.name := by
    rw [← List.getElem?_map, ← List.getElem?_map, hnames]
  cases hi : result[i]? with
  | none => simpa [hi] using hname
  | some h =>
    by_cases hlate : h.name ∈ (result.take i).map Hal.name
    · exact hlater i h hi hlate
    · -- the first of its name, here and there
      obtain ⟨g, hg, hsame⟩ : ∃ g, twice[i]? = some g ∧ g.name = h.name := by
        simpa [hi] using hname
      have hfresh : g.name ∉ (twice.take i).map Hal.name := by
        rwa [List.map_take, hnames, ← List.map_take, hsame]
      have hgh : some g = some h := by
        rw [← firstNamed_of_fresh hg hfresh, hfirst, hsame, firstNamed_of_fresh hi hlate]
      rw [hg, hgh]

/-- Every fragment has a place. -/
theorem Upserts.name_mem (h : Upserts hals fragments result) {name : String}
    (hname : name ∈ fragments.map Hal.name) : name ∈ result.map Hal.name := by
  rw [h.names, List.mem_append, List.mem_eraseDups, List.mem_filter]
  by_cases hold : name ∈ hals.map Hal.name
  · exact .inl hold
  · exact .inr ⟨hname, by simpa using hold⟩

/-- Fragments that are in place change nothing when they are put in place once more. -/
theorem Upserts.again (h : Upserts hals fragments result)
    (hagain : Upserts result fragments twice) : twice = result := by
  refine eq_of_firstNamed ?_ (fun name => ?_) fun i f hi hlate => hagain.kept i f hi (.inr hlate)
  · -- no name is new the second time
    have hnone : (fragments.map Hal.name).filter (fun n => n ∉ result.map Hal.name) = [] :=
      List.filter_eq_nil_iff.mpr fun n hn => by simpa using h.name_mem hn
    rw [hagain.names, hnone, List.eraseDups_nil, List.append_nil]
  · rw [hagain.first, h.first, ← Option.or_assoc, Option.or_self]

end

end DeviceSpec
