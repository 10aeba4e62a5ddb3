import DeviceSpec.Proofs.Render.Reading
import DeviceSpec.Proofs.Text.Words

/-!
# List assignments

A list assignment stands on several lines, and make takes them for one: a backslash at the end of a
line continues it with the next. What the lines were made from can be read from them again, and the
statement that follows the list is no part of it.

* **logical lines** — `logicalLines` puts the lines together that a backslash continues; a list is
  one line of them, whatever comes after it (`logicalLines_listLines`);
* **physical lines** — each line of a list but the last ends in a blank and a backslash
  (`exists_lastLine_listLines`);
* **decoding** — `readList?` takes the heading, the indentation and the continuations away again
  (`readList?_render`);
* **the whole** — `list_assignment_read_back`.
-/

namespace DeviceSpec

/-! ## Logical lines -/

/-- What stands before the backslash at the end of a line. -/
def beforeBackslash? (line : String) : Option String :=
  if Text.hasTail "\\" line then some (String.ofList line.toList.dropLast) else none

/-- The lines that are left when each line that ends in a backslash is put together with the
next. -/
def logicalLines : List String → List String
  | [] => []
  | line :: rest =>
    match beforeBackslash? line with
    | none => line :: logicalLines rest
    | some front =>
      match logicalLines rest with
      | [] => [front]
      | next :: more => (front ++ next) :: more

theorem hasTail_continued (line : String) : Text.hasTail " \\" (line ++ " \\") = true :=
  Text.hasTail_iff.mpr ⟨line, rfl⟩

theorem beforeBackslash?_continued (line : String) :
    beforeBackslash? (line ++ " \\") = some (line ++ " ") := by
  have hline : line ++ " \\" = line ++ " " ++ "\\" := by
    rw [String.append_assoc]
    rfl
  have htail : Text.hasTail "\\" (line ++ " " ++ "\\") = true := Text.hasTail_iff.mpr ⟨_, rfl⟩
  rw [hline, beforeBackslash?, if_pos htail]
  simp

/-- A line that ends in a blank and a backslash begins the logical line that follows. -/
theorem logicalLines_continued {rest more : List String} {next : String} (line : String)
    (h : logicalLines rest = next :: more) :
    logicalLines ((line ++ " \\") :: rest) = (line ++ " " ++ next) :: more := by
  simp only [logicalLines, beforeBackslash?_continued, h]

/-- Any other line is a logical line of its own. -/
theorem logicalLines_ended {line : String} (h : Text.hasTail "\\" line = false)
    (rest : List String) : logicalLines (line :: rest) = line :: logicalLines rest := by
  have hbefore : beforeBackslash? line = none := by
    rw [beforeBackslash?, h]
    rfl
  simp only [logicalLines, hbefore]

/-! ## Entries -/

/-- An entry that can stand on a line of its own. -/
structure IsListEntry (entry : String) : Prop where
  newline_not_mem : '\n' ∉ entry.toList
  ended : Text.hasTail "\\" entry = false

/-- An entry behind its indentation. -/
def indented (entry : String) : String := "    " ++ entry

/-- The logical line of a list. -/
def listLine (variableName operator : String) (entries : List String) : String :=
  " ".intercalate (variableName :: operator :: entries.map indented)

section
variable {entry variableName operator : String} {entries : List String}

theorem hasTail_backslash_iff {text : String} :
    Text.hasTail "\\" text = true ↔ text.toList.getLast? = some '\\' := by
  rw [Text.hasTail, List.isSuffixOf_iff_suffix, List.getLast?_eq_some_iff]
  constructor
  · rintro ⟨front, h⟩
    exact ⟨front, h.symm⟩
  · rintro ⟨front, h⟩
    exact ⟨front, h.symm⟩

theorem hasTail_indented (h : Text.hasTail "\\" entry = false) :
    Text.hasTail "\\" (indented entry) = false := by
  rw [← Bool.not_eq_true, hasTail_backslash_iff] at h ⊢
  rw [indented, String.toList_append, List.getLast?_append]
  cases hlast : entry.toList.getLast? with
  | none => decide
  | some c => rwa [hlast] at h

theorem continuedLines_singleton (entry : String) : continuedLines [entry] = [indented entry] := rfl

theorem continuedLines_cons (entry : String) (hne : entries ≠ []) :
    continuedLines (entry :: entries) = (indented entry ++ " \\") :: continuedLines entries := by
  cases entries with
  | nil => exact absurd rfl hne
  | cons next more => rfl

theorem listLines_eq (hne : entries ≠ []) : listLines variableName operator entries =
    (variableName ++ " " ++ operator ++ " \\") :: continuedLines entries := by
  rw [listLines, if_neg (by simpa using hne)]

/-- Entries are one logical line, and end before the lines that follow. -/
theorem logicalLines_continuedLines (hne : entries ≠ []) (h : ∀ e ∈ entries, IsListEntry e)
    (rest : List String) : logicalLines (continuedLines entries ++ rest) =
      " ".intercalate (entries.map indented) :: logicalLines rest := by
  induction entries with
  | nil => exact absurd rfl hne
  | cons entry more ih =>
    by_cases hmore : more = []
    · subst hmore
      have hended := hasTail_indented (h entry List.mem_cons_self).ended
      rw [continuedLines_singleton, List.singleton_append, logicalLines_ended hended]
      simp
    · have hrest := ih hmore fun e he => h e (List.mem_cons_of_mem entry he)
      have hnext : more.map indented ≠ [] := by simpa using hmore
      rw [continuedLines_cons entry hmore, List.cons_append, logicalLines_continued _ hrest,
        List.map_cons, String.intercalate_cons_of_ne_nil hnext]

/-- A list is one logical line, and no part of it is left for the lines that follow. -/
theorem logicalLines_listLines (hne : entries ≠ []) (h : ∀ e ∈ entries, IsListEntry e)
    (rest : List String) : logicalLines (listLines variableName operator entries ++ rest) =
      listLine variableName operator entries :: logicalLines rest := by
  have hentries := logicalLines_continuedLines hne h rest
  have hmap : entries.map indented ≠ [] := by simpa using hne
  rw [listLines_eq hne, List.cons_append, logicalLines_continued _ hentries, listLine,
    String.intercalate_cons_cons, String.intercalate_cons_of_ne_nil hmap]
  simp only [String.append_assoc]

/-! ## Physical lines -/

/-- Each line of the entries but the last ends in a blank and a backslash. -/
theorem exists_lastLine_continuedLines (hne : entries ≠ []) (h : ∀ e ∈ entries, IsListEntry e) :
    ∃ front last, continuedLines entries = front ++ [last] ∧
      (∀ line ∈ front, Text.hasTail " \\" line = true) ∧ Text.hasTail "\\" last = false := by
  induction entries with
  | nil => exact absurd rfl hne
  | cons entry more ih =>
    by_cases hmore : more = []
    · subst hmore
      have hended := hasTail_indented (h entry List.mem_cons_self).ended
      exact ⟨[], indented entry, rfl, List.forall_mem_nil _, hended⟩
    · obtain ⟨front, last, hlines, hfront, hlast⟩ :=
        ih hmore fun e he => h e (List.mem_cons_of_mem entry he)
      refine ⟨(indented entry ++ " \\") :: front, last, ?_, ?_, hlast⟩
      · rw [continuedLines_cons entry hmore, hlines, List.cons_append]
      · exact List.forall_mem_cons.mpr ⟨hasTail_continued _, hfront⟩

theorem exists_lastLine_listLines (hne : entries ≠ []) (h : ∀ e ∈ entries, IsListEntry e) :
    ∃ front last, listLines variableName operator entries = front ++ [last] ∧
      (∀ line ∈ front, Text.hasTail " \\" line = true) ∧ Text.hasTail "\\" last = false := by
  obtain ⟨front, last, hlines, hfront, hlast⟩ := exists_lastLine_continuedLines hne h
  refine ⟨(variableName ++ " " ++ operator ++ " \\") :: front, last, ?_, ?_, hlast⟩
  · rw [listLines_eq hne, hlines, List.cons_append]
  · exact List.forall_mem_cons.mpr ⟨hasTail_continued _, hfront⟩

end

/-! ## Decoding -/

/-- Read the entries of a list: each is indented, and each but the last is continued. -/
def readEntries? : List String → Option (List String)
  | [] => none
  | line :: rest =>
    match continued? line with
    | none => if rest.isEmpty then (Text.afterHead? "    " line).map ([·]) else none
    | some front => do
      let entry ← Text.afterHead? "    " front
      let entries ← readEntries? rest
      some (entry :: entries)

/-- Read a list: the variable and the operator on the continued first line, then the entries. -/
def readList? (text : String) : Option (String × String × List String) :=
  match Text.linesOf text with
  | [] => none
  | head :: rest =>
    match Text.words head with
    | [variableName, operator, "\\"] => (readEntries? rest).map (variableName, operator, ·)
    | _ => none

section
variable {variableName operator : String} {entries : List String}

theorem afterHead?_indented (entry : String) :
    Text.afterHead? "    " (indented entry) = some entry := Text.afterHead?_append _ _

theorem readEntries?_continuedLines (hne : entries ≠ []) (h : ∀ e ∈ entries, IsListEntry e) :
    readEntries? (continuedLines entries) = some entries := by
  induction entries with
  | nil => exact absurd rfl hne
  | cons entry more ih =>
    by_cases hmore : more = []
    · subst hmore
      have hended := hasTail_indented (h entry List.mem_cons_self).ended
      simp only [continuedLines_singleton, readEntries?, continued?_eq_none hended,
        afterHead?_indented]
      rfl
    · have hrest := ih hmore fun e he => h e (List.mem_cons_of_mem entry he)
      simp only [continuedLines_cons entry hmore, readEntries?, continued?_append, hrest,
        afterHead?_indented]
      rfl

/-- The first line of a list is three words. -/
theorem words_head (hname : Text.IsColumn variableName) (hoperator : Text.IsColumn operator) :
    Text.words (variableName ++ " " ++ operator ++ " \\") = [variableName, operator, "\\"] := by
  have hcolumns : ∀ s ∈ [variableName, operator, "\\"], Text.IsColumn s := by
    simp only [List.forall_mem_cons]
    exact ⟨hname, hoperator, by decide, List.forall_mem_nil _⟩
  have hblank : Text.IsSeparator " " := by decide
  rw [← Text.words_intercalate hblank hcolumns]
  simp [String.append_assoc]

theorem newline_not_mem_of_isColumn {s : String} (h : Text.IsColumn s) : '\n' ∉ s.toList :=
  fun hmem => absurd (h.2 _ hmem) (by decide)

theorem newline_not_mem_listLines (hname : Text.IsColumn variableName)
    (hoperator : Text.IsColumn operator) (h : ∀ e ∈ entries, IsListEntry e) :
    ∀ line ∈ listLines variableName operator entries, '\n' ∉ line.toList := by
  unfold listLines
  split
  · exact List.forall_mem_nil _
  · refine List.forall_mem_cons.mpr ⟨?_, newline_not_mem_continuedLines fun e he =>
      (h e he).newline_not_mem⟩
    have hnone := newline_not_mem_of_isColumn hname
    have hnone' := newline_not_mem_of_isColumn hoperator
    simp [hnone, hnone']

theorem readList?_render (hname : Text.IsColumn variableName) (hoperator : Text.IsColumn operator)
    (hne : entries ≠ []) (h : ∀ e ∈ entries, IsListEntry e) :
    readList? (Text.unlines (listLines variableName operator entries)) =
      some (variableName, operator, entries) := by
  rw [readList?, Text.linesOf_unlines (newline_not_mem_listLines hname hoperator h),
    listLines_eq hne]
  simp only [words_head hname hoperator, readEntries?_continuedLines hne h]
  rfl

/-! ## The whole -/

theorem render_list (variableName operator : String) (entries : List String) :
    Makefile.render [.list variableName operator entries] =
      Text.unlines (listLines variableName operator entries) := by
  simp [Makefile.render, Makefile.lines, Statement.lines]

/-- The text of a list assignment is empty if the list is. Any other is one logical line for make,
of which every physical line but the last ends in a blank and a backslash, and nothing that follows
becomes a part of it; variable, operator and entries can be read from it again. -/
theorem list_assignment_read_back (hname : Text.IsColumn variableName)
    (hoperator : Text.IsColumn operator) (h : ∀ e ∈ entries, IsListEntry e) :
    (Makefile.render [.list variableName operator entries] = "" ↔ entries = []) ∧
    (entries ≠ [] →
      (∀ rest, logicalLines (Text.linesOf
          (Makefile.render [.list variableName operator entries] ++ rest)) =
        listLine variableName operator entries :: logicalLines (Text.linesOf rest)) ∧
      (∃ front last, Text.linesOf (Makefile.render [.list variableName operator entries]) =
          front ++ [last] ∧
        (∀ line ∈ front, Text.hasTail " \\" line = true) ∧ Text.hasTail "\\" last = false) ∧
      readList? (Makefile.render [.list variableName operator entries]) =
        some (variableName, operator, entries)) := by
  have hnewline := newline_not_mem_listLines hname hoperator h
  rw [render_list]
  refine ⟨?_, fun hne => ⟨fun rest => ?_, ?_, readList?_render hname hoperator hne h⟩⟩
  · rw [Text.unlines_eq_empty_iff]
    simp [listLines]
  · rw [Text.linesOf_unlines_append hnewline, logicalLines_listLines hne h]
  · rw [Text.linesOf_unlines hnewline]
    exact exists_lastLine_listLines hne h

/-- A list of two entries, one of which holds a backslash, before another statement. -/
theorem list_assignment_read_back_packages :
    (Text.IsColumn "PRODUCT_PACKAGES" ∧ Text.IsColumn "+=" ∧
      ∀ e ∈ ["a \\ b", "c"], IsListEntry e) ∧
    logicalLines (Text.linesOf (Makefile.render [.list "PRODUCT_PACKAGES" "+=" ["a \\ b", "c"]]
      ++ "X := y\n")) = ["PRODUCT_PACKAGES +=     a \\ b     c", "X := y"] ∧
    readList? (Makefile.render [.list "PRODUCT_PACKAGES" "+=" ["a \\ b", "c"]]) =
      some ("PRODUCT_PACKAGES", "+=", ["a \\ b", "c"]) := by
  have hentries : ∀ e ∈ ["a \\ b", "c"], IsListEntry e := by
    simp only [List.forall_mem_cons]
    exact ⟨⟨by decide, by decide⟩, ⟨by decide, by decide⟩, List.forall_mem_nil _⟩
  have hname : Text.IsColumn "PRODUCT_PACKAGES" := by decide
  have hoperator : Text.IsColumn "+=" := by decide
  obtain ⟨hlogical, -, hread⟩ :=
    (list_assignment_read_back hname hoperator hentries).2 (by simp)
  refine ⟨⟨hname, hoperator, hentries⟩, (hlogical "X := y\n").trans ?_, hread⟩
  decide +kernel

end

end DeviceSpec
