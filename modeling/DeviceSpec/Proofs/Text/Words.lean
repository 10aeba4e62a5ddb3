import DeviceSpec.Text.Blank

/-!
# Words read back

The words of a line are what stands between its blanks, whatever blanks they are and however many.

* **splitting** — a blank separates the words before it from those after it (`words_append`);
* **columns** — texts without blanks that are put together with blanks between them are the words
  of the line (`words_intercalate`).
-/

namespace DeviceSpec.Text

/-- The words of a line. -/
def words (line : String) : List String :=
  ((line.toList.splitOnP isBlank).filter fun w => !w.isEmpty).map String.ofList

/-- A text that stands in a column: there is something in it, and no blank. -/
def IsColumn (s : String) : Prop := s ≠ "" ∧ ∀ c ∈ s.toList, isBlank c = false

-- the characters of the text are gone through, not all there are
instance (s : String) : Decidable (IsColumn s) :=
  @instDecidableAnd _ _ _ (List.decidableBAll _ s.toList)

/-- Nothing but blanks, and at least one. -/
def IsSeparator (s : String) : Prop := s ≠ "" ∧ ∀ c ∈ s.toList, isBlank c = true

instance (s : String) : Decidable (IsSeparator s) :=
  @instDecidableAnd _ _ _ (List.decidableBAll _ s.toList)

theorem words_of_isColumn {s : String} (h : IsColumn s) : words s = [s] := by
  have hne : s.toList ≠ [] := fun heq => h.1 (String.toList_eq_nil_iff.mp heq)
  simp [words, List.splitOnP_eq_singleton h.2, hne]

/-- The words around blanks are those before them and those after them. -/
theorem words_append {separator : String} (h : IsSeparator separator) (a b : String) :
    words (a ++ separator ++ b) = words a ++ words b := by
  obtain ⟨hne, hblank⟩ := h
  have hchars : (a ++ separator ++ b).toList = a.toList ++ (separator.toList ++ b.toList) := by
    simp
  -- every blank after the first only separates nothing from what follows
  have hmore : ∀ gap : List Char, (∀ c ∈ gap, isBlank c = true) →
      ((gap ++ b.toList).splitOnP isBlank).filter (fun w => !w.isEmpty) =
        (b.toList.splitOnP isBlank).filter fun w => !w.isEmpty := by
    intro gap hgap
    induction gap with
    | nil => rfl
    | cons c gap ih =>
      have hsplit := List.splitOnP_append_cons [] (gap ++ b.toList) (hgap c List.mem_cons_self)
      rw [List.nil_append] at hsplit
      rw [List.cons_append, hsplit, List.filter_append,
        ih fun d hd => hgap d (List.mem_cons_of_mem c hd)]
      rfl
  cases hsep : separator.toList with
  | nil => exact absurd (String.toList_eq_nil_iff.mp hsep) hne
  | cons c gap =>
    rw [hsep] at hblank
    have hc := hblank c List.mem_cons_self
    have hgap := hmore gap fun d hd => hblank d (List.mem_cons_of_mem c hd)
    rw [words, hchars, hsep, List.cons_append, List.splitOnP_append_cons _ _ hc,
      List.filter_append, hgap, List.map_append]
    rfl

/-- Columns with blanks between them are the words of their line. -/
theorem words_intercalate {separator : String} (h : IsSeparator separator) {columns : List String}
    (hcolumns : ∀ s ∈ columns, IsColumn s) : words (separator.intercalate columns) = columns := by
  induction columns with
  | nil => rfl
  | cons s rest ih =>
    have hs := words_of_isColumn (hcolumns s List.mem_cons_self)
    have hrest := ih fun t ht => hcolumns t (List.mem_cons_of_mem s ht)
    cases rest with
    | nil => rw [String.intercalate_singleton, hs]
    | cons t more => rw [String.intercalate_cons_cons, words_append h, hs, hrest]; rfl

end DeviceSpec.Text
