import DeviceSpec.Text.Blank

/-!
# Blanks around a text

Trimming takes blanks away at either end and nothing else.

* **what is lost** — a text is what trimming leaves of it, with blanks around that
  (`exists_trimBlanks`);
* **what is left** — between blanks, whatever neither begins nor ends with one
  (`trimBlanks_append`);
* **either end** — dropping characters at one end and at the other may be done in either order
  (`dropEndWhile_dropWhile`).
-/

namespace DeviceSpec.Text

/-- Nothing but blanks, or nothing at all. -/
def AllBlank (cs : List Char) : Prop := ∀ c ∈ cs, isBlank c = true

section
variable {c : Char} {cs rest w w' : List Char} {p : Char → Bool}

@[simp] theorem allBlank_nil : AllBlank [] := nofun

theorem allBlank_cons : AllBlank (c :: cs) ↔ isBlank c = true ∧ AllBlank cs := List.forall_mem_cons

theorem allBlank_append : AllBlank (cs ++ rest) ↔ AllBlank cs ∧ AllBlank rest :=
  List.forall_mem_append

theorem exists_dropEndWhile (p : Char → Bool) (cs : List Char) :
    ∃ w, (∀ c ∈ w, p c = true) ∧ cs = dropEndWhile p cs ++ w := by
  induction cs with
  | nil => exact ⟨[], nofun, rfl⟩
  | cons c rest ih =>
    obtain ⟨w, hw, hrest⟩ := ih
    rw [dropEndWhile]
    split
    · rename_i hnil
      rw [hnil, List.nil_append] at hrest
      subst hrest
      by_cases hc : p c = true
      · exact ⟨c :: rest, List.forall_mem_cons.mpr ⟨hc, hw⟩, by simp [hc]⟩
      · exact ⟨rest, hw, by simp [hc]⟩
    · exact ⟨w, hw, by rw [List.cons_append, ← hrest]⟩

/-- What does not end in a character to drop is kept, whatever there is to drop after it. -/
theorem dropEndWhile_append (hcs : cs.getLast?.all p = false) (hw : ∀ c ∈ w, p c = true) :
    dropEndWhile p (cs ++ w) = cs := by
  induction cs with
  | nil => simp at hcs
  | cons c rest ih =>
    rw [List.cons_append, dropEndWhile]
    cases rest with
    | nil =>
      have hc : p c = false := by simpa using hcs
      rw [List.nil_append, dropEndWhile_eq_nil_iff.mpr hw]
      simp [hc]
    | cons c' rest =>
      rw [ih (by simpa using hcs)]

/-- Dropping at the end reaches the first of two texts only if nothing is left of the second. -/
theorem dropEndWhile_append_eq (p : Char → Bool) (cs w : List Char) :
    dropEndWhile p (cs ++ w) =
      if dropEndWhile p w = [] then dropEndWhile p cs else cs ++ dropEndWhile p w := by
  induction cs with
  | nil => split <;> simp_all [dropEndWhile]
  | cons c rest ih =>
    rw [List.cons_append, dropEndWhile, ih]
    by_cases hw : dropEndWhile p w = []
    · simp only [hw, if_true, dropEndWhile]
    · simp only [hw, if_false, List.cons_append]
      cases hkept : rest ++ dropEndWhile p w with
      | nil => exact absurd (List.append_eq_nil_iff.mp hkept).2 hw
      | cons => rfl

/-- Dropping at both ends may begin at either. -/
theorem dropEndWhile_dropWhile (p : Char → Bool) (cs : List Char) :
    dropEndWhile p (cs.dropWhile p) = (dropEndWhile p cs).dropWhile p := by
  induction cs with
  | nil => rfl
  | cons c rest ih =>
    by_cases hc : p c = true
    · rw [List.dropWhile_cons_of_pos hc, ih, dropEndWhile]
      cases dropEndWhile p rest <;> simp [hc]
    · rw [List.dropWhile_cons_of_neg hc, dropEndWhile]
      cases dropEndWhile p rest <;> simp [hc]

theorem dropEndWhile_dropEndWhile (p : Char → Bool) (cs : List Char) :
    dropEndWhile p (dropEndWhile p cs) = dropEndWhile p cs := by
  induction cs with
  | nil => rfl
  | cons c rest ih =>
    rw [dropEndWhile]
    cases hkept : dropEndWhile p rest with
    | nil => by_cases hc : p c = true <;> simp [dropEndWhile, hc]
    | cons d kept =>
      rw [hkept] at ih
      rw [dropEndWhile, ih]

/-- A text is what trimming leaves of it, with blanks around that. -/
theorem exists_trimBlanks (cs : List Char) :
    ∃ w w', AllBlank w ∧ AllBlank w' ∧ cs = w ++ trimBlanks cs ++ w' := by
  obtain ⟨w', hw', hrest⟩ := exists_dropEndWhile isBlank (cs.dropWhile isBlank)
  refine ⟨cs.takeWhile isBlank, w', List.all_eq_true.mp List.all_takeWhile, hw', ?_⟩
  rw [List.append_assoc, trimBlanks, ← hrest, List.takeWhile_append_dropWhile]

/-- Trimming adds no character. -/
theorem subset_trim (s : String) : (trim s).toList ⊆ s.toList := by
  obtain ⟨w, w', -, -, heq⟩ := exists_trimBlanks s.toList
  intro c hc
  rw [trim, String.toList_ofList] at hc
  rw [heq]
  exact List.mem_append_left _ (List.mem_append_right _ hc)

/-- What neither begins nor ends with a blank is left when the blanks around it are taken away. -/
theorem trimBlanks_append (hhead : cs.head?.all isBlank = false)
    (hlast : cs.getLast?.all isBlank = false) (hw : AllBlank w) (hw' : AllBlank w') :
    trimBlanks (w ++ cs ++ w') = cs := by
  cases cs with
  | nil => simp at hhead
  | cons c rest =>
    have hc : isBlank c = false := by simpa using hhead
    rw [trimBlanks, List.append_assoc, List.dropWhile_append_of_pos hw, List.cons_append,
      List.dropWhile_cons_of_neg (by simp [hc]), ← List.cons_append, dropEndWhile_append hlast hw']

end

end DeviceSpec.Text
