import DeviceSpec.Text.Lines

/-!
# Lines read back

The lines that a text was put together from are found in it again, as long as none of them holds a
line feed.

* **splitting** — `linesOf` cuts a text after each line feed, and undoes `unlines`
  (`linesOf_unlines`);
* **places** — the lines between line feeds are the stretches that begin where a line starts and
  stop where it ends, without a line feed in them (`mem_splitOn_iff`).
-/

namespace DeviceSpec.Text

/-- The stretches of characters that end in a line feed, without it, and what is left at the end. -/
def lineChars : List Char → List (List Char)
  | [] => []
  | c :: rest =>
    if c = '\n' then [] :: lineChars rest
    else
      match lineChars rest with
      | [] => [[c]]
      | line :: more => (c :: line) :: more

/-- The lines of a text. -/
def linesOf (text : String) : List String := (lineChars text.toList).map String.ofList

/-- The first line ends at the first line feed. -/
theorem lineChars_append {line : List Char} (h : '\n' ∉ line) (rest : List Char) :
    lineChars (line ++ '\n' :: rest) = line :: lineChars rest := by
  induction line with
  | nil => simp [lineChars]
  | cons c line ih =>
    have hc : c ≠ '\n' := fun heq => h (heq ▸ List.mem_cons_self)
    have hline : '\n' ∉ line := fun hmem => h (List.mem_cons_of_mem c hmem)
    simp [lineChars, hc, ih hline]

theorem linesOf_cons {line : String} (h : '\n' ∉ line.toList) (rest : String) :
    linesOf (line ++ "\n" ++ rest) = line :: linesOf rest := by
  have hchars : (line ++ "\n" ++ rest).toList = line.toList ++ '\n' :: rest.toList := by simp
  simp [linesOf, hchars, lineChars_append h]

/-- The lines that a text begins with are found in it, and then those of the rest. -/
theorem linesOf_unlines_append {lines : List String} (h : ∀ line ∈ lines, '\n' ∉ line.toList)
    (rest : String) : linesOf (unlines lines ++ rest) = lines ++ linesOf rest := by
  induction lines with
  | nil => rw [unlines_nil, String.empty_append, List.nil_append]
  | cons line more ih =>
    rw [unlines_cons, String.append_assoc, linesOf_cons (h line List.mem_cons_self),
      ih fun l hl => h l (List.mem_cons_of_mem line hl), List.cons_append]

/-- The lines of a text that was put together from lines are those lines. -/
theorem linesOf_unlines {lines : List String} (h : ∀ line ∈ lines, '\n' ∉ line.toList) :
    linesOf (unlines lines) = lines := by
  have happend := linesOf_unlines_append h ""
  rwa [String.append_empty, show linesOf "" = [] from rfl, List.append_nil] at happend

/-- Only a text without lines is empty. -/
theorem unlines_eq_empty_iff {lines : List String} : unlines lines = "" ↔ lines = [] := by
  cases lines <;> simp

/-- A character of joined texts is one of the texts or of what is put between them. -/
theorem not_mem_intercalate {c : Char} {separator : String} (h : c ∉ separator.toList)
    {texts : List String} (htexts : ∀ s ∈ texts, c ∉ s.toList) :
    c ∉ (separator.intercalate texts).toList := by
  induction texts with
  | nil => exact List.not_mem_nil
  | cons s rest ih =>
    have hs := htexts s List.mem_cons_self
    have hrest := ih fun t ht => htexts t (List.mem_cons_of_mem s ht)
    cases rest with
    | nil => rwa [String.intercalate_singleton]
    | cons t more =>
      rw [String.intercalate_cons_cons, String.toList_append, String.toList_append]
      simp only [List.mem_append, hs, h, hrest, or_self, not_false_eq_true]

theorem hasTail_iff {tail text : String} : hasTail tail text = true ↔
    ∃ front, front ++ tail = text := by
  rw [hasTail, List.isSuffixOf_iff_suffix]
  constructor
  · rintro ⟨front, h⟩
    exact ⟨String.ofList front, String.toList_inj.mp (by simp [h])⟩
  · rintro ⟨front, rfl⟩
    exact ⟨front.toList, String.toList_append.symm⟩

/-! ## Where lines start and end -/

/-- A line may start after the characters: there are none, or the last one is a line feed. -/
def StartsLine (before : List Char) : Prop := before = [] ∨ ∃ front, before = front ++ ['\n']

/-- A line may end before the characters: there are none, or the first one is a line feed. -/
def EndsLine (after : List Char) : Prop := after = [] ∨ ∃ rest, after = '\n' :: rest

section
variable {before front after rest line cs : List Char}

@[simp] theorem startsLine_nil : StartsLine [] := .inl rfl

@[simp] theorem endsLine_nil : EndsLine [] := .inl rfl

@[simp] theorem endsLine_cons : EndsLine ('\n' :: rest) := .inr ⟨rest, rfl⟩

theorem StartsLine.append (hbefore : StartsLine before) (hfront : StartsLine front) :
    StartsLine (before ++ front) := by
  rcases hfront with rfl | ⟨more, rfl⟩
  · rwa [List.append_nil]
  · exact .inr ⟨before ++ more, (List.append_assoc ..).symm⟩

theorem EndsLine.append (hafter : EndsLine after) (hrest : EndsLine rest) :
    EndsLine (after ++ rest) := by
  rcases hafter with rfl | ⟨more, rfl⟩
  · exact hrest
  · exact endsLine_cons

/-- What starts a line still does so without its first lines, and with lines before it. -/
theorem startsLine_cons_iff : StartsLine (before ++ '\n' :: front) ↔ StartsLine front := by
  constructor
  · rintro (hnil | ⟨more, heq⟩)
    · simp at hnil
    · rcases List.eq_nil_or_concat front with rfl | ⟨kept, c, rfl⟩
      · exact startsLine_nil
      · rw [List.concat_eq_append, ← List.cons_append, ← List.append_assoc] at heq
        obtain ⟨-, hlast⟩ := List.append_inj' heq rfl
        exact .inr ⟨kept, by rw [List.concat_eq_append, hlast]⟩
  · intro hfront
    rw [List.append_cons]
    exact StartsLine.append (.inr ⟨before, rfl⟩) hfront

/-- The last line of a text. -/
theorem exists_lastLine (cs : List Char) :
    ∃ front line, cs = front ++ line ∧ StartsLine front ∧ '\n' ∉ line := by
  induction cs with
  | nil => exact ⟨[], [], rfl, startsLine_nil, List.not_mem_nil⟩
  | cons c cs ih =>
    obtain ⟨front, line, rfl, hfront, hline⟩ := ih
    by_cases hc : c = '\n'
    · subst hc
      have hcons : StartsLine ([] ++ '\n' :: front) := startsLine_cons_iff.mpr hfront
      exact ⟨'\n' :: front, line, rfl, hcons, hline⟩
    · rcases hfront with rfl | ⟨more, rfl⟩
      · exact ⟨[], c :: line, rfl, startsLine_nil, by simp [Ne.symm hc, hline]⟩
      · exact ⟨c :: (more ++ ['\n']), line, rfl, .inr ⟨c :: more, rfl⟩, hline⟩

/-- The first line of a text. -/
theorem exists_firstLine (cs : List Char) :
    ∃ line rest, cs = line ++ rest ∧ EndsLine rest ∧ '\n' ∉ line := by
  by_cases hmem : '\n' ∈ cs
  · obtain ⟨line, rest, rfl, hline⟩ := List.eq_append_cons_of_mem hmem
    exact ⟨line, '\n' :: rest, rfl, endsLine_cons, hline⟩
  · exact ⟨cs, [], (List.append_nil cs).symm, endsLine_nil, hmem⟩

theorem splitOn_of_not_mem {c : Char} (h : c ∉ cs) : cs.splitOn c = [cs] := by
  refine List.splitOnP_eq_singleton fun d hd => ?_
  rw [beq_eq_false_iff_ne]
  exact fun heq => h (heq ▸ hd)

/-- The lines of a text are the stretches from the start of a line to the end of one. -/
theorem mem_splitOn_iff : line ∈ cs.splitOn '\n' ↔ '\n' ∉ line ∧
    ∃ before after, cs = before ++ line ++ after ∧ StartsLine before ∧ EndsLine after := by
  constructor
  · intro hline
    -- the first line, or one of the lines after the first line feed
    induction hn : cs.length using Nat.strongRecOn generalizing cs with
    | ind n ih =>
      obtain ⟨first, rest, rfl, rfl | ⟨more, rfl⟩, hfirst⟩ := exists_firstLine cs
      · rw [List.append_nil, splitOn_of_not_mem hfirst, List.mem_singleton] at hline
        exact ⟨hline ▸ hfirst, [], [], by simp [hline], startsLine_nil, endsLine_nil⟩
      · rw [List.splitOn_append_cons_self, splitOn_of_not_mem hfirst, List.singleton_append,
          List.mem_cons] at hline
        rcases hline with rfl | hline
        · exact ⟨hfirst, [], '\n' :: more, rfl, startsLine_nil, endsLine_cons⟩
        · have hshorter : more.length < n := by
            rw [← hn, List.length_append, List.length_cons]
            omega
          obtain ⟨hnone, before, after, rfl, hbefore, hafter⟩ := ih _ hshorter hline rfl
          exact ⟨hnone, first ++ '\n' :: before, after, by simp, startsLine_cons_iff.mpr hbefore,
            hafter⟩
  · rintro ⟨hnone, before, after, rfl, hbefore, hafter⟩
    have hself : line ∈ (line ++ after).splitOn '\n' := by
      rcases hafter with rfl | ⟨rest, rfl⟩
      · rw [List.append_nil, splitOn_of_not_mem hnone]
        exact List.mem_singleton_self line
      · rw [List.splitOn_append_cons_self, splitOn_of_not_mem hnone]
        exact List.mem_append_left _ (List.mem_singleton_self line)
    rcases hbefore with rfl | ⟨front, rfl⟩
    · exact hself
    · rw [List.append_assoc, List.append_assoc, List.singleton_append,
        List.splitOn_append_cons_self]
      exact List.mem_append_right _ hself

end

end DeviceSpec.Text
