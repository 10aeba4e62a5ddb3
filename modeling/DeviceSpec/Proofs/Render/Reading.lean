import DeviceSpec.Proofs.Text.Lines
import DeviceSpec.Render.Makefile

/-!
# Reading a makefile

A makefile is read line by line. A line `NAME += value` appends a value to a variable. Where the
value is a single backslash a list begins: the lines that follow are its entries, and the last one
is the first that does not end in a backslash. Comments and other assignments append nothing.

* **one line** — the reader knows whether a list is open (`readLine`); each kind of line that a
  makefile consists of has its equation;
* **one statement** — its lines append what it says and leave no list open
  (`readLines_statement`);
* **the whole** — so reading gives back what the statements append, in order (`read_render`);
* **places** — whatever else is in a makefile, each assignment has its place in the text
  (`appends_of_mem`), a list with one entry a line (`listText`).
-/

namespace DeviceSpec

/-! ## What is appended -/

/-- The values that a statement appends to variables. -/
def Statement.appends : Statement → List (String × String)
  | .line _ => []
  | .assign name operator value => if operator = "+=" then [(name, value)] else []
  | .list name operator entries => if operator = "+=" then entries.map (name, ·) else []

/-- The values that a makefile appends to variables, in order. -/
def Makefile.appends (m : Makefile) : List (String × String) := m.flatMap Statement.appends

/-- The values of one variable, in order. -/
def valuesOf (name : String) (appended : List (String × String)) : List String :=
  appended.filterMap fun a => if a.1 = name then some a.2 else none

/-! ## The reader -/

/-- The name and the value on a line `NAME += value`. -/
def appendOn? (line : String) : Option (String × String) :=
  let name := line.toList.takeWhile (· != ' ')
  (Text.afterHead? " += " (String.ofList (line.toList.drop name.length))).map
    (String.ofList name, ·)

/-- What stands before the backslash that a line ends in. -/
def continued? (line : String) : Option String :=
  if Text.hasTail " \\" line then some (String.ofList (line.toList.take (line.toList.length - 2)))
  else none

/-- An entry without its indentation. -/
def unindented (line : String) : String := (Text.afterHead? "    " line).getD line

/-- Read a line: what it appends, and the variable whose list is open after it. -/
def readLine (list? : Option String) (line : String) : List (String × String) × Option String :=
  match list? with
  | some name =>
    match continued? line with
    | some entry => ([(name, unindented entry)], some name)
    | none => ([(name, unindented line)], none)
  | none =>
    if Text.hasHead "#" line then ([], none)
    else
      match appendOn? line with
      | none => ([], none)
      | some (name, value) => if value = "\\" then ([], some name) else ([(name, value)], none)

/-- Read lines in order. -/
def readLines (list? : Option String) : List String → List (String × String) × Option String
  | [] => ([], list?)
  | line :: rest =>
    let here := readLine list? line
    let more := readLines here.2 rest
    (here.1 ++ more.1, more.2)

/-- What a makefile appends to variables, read from its text. -/
def readMakefile (text : String) : List (String × String) :=
  (readLines none (Text.linesOf text)).1

/-! ## Texts -/

namespace Text

/-- The text holds neither a line feed nor a backslash. -/
def Plain (s : String) : Prop := ∀ c ∈ s.toList, c ≠ '\n' ∧ c ≠ '\\'

/-- A check for plain texts. -/
def isPlain (s : String) : Bool := s.toList.all fun c => c != '\n' && c != '\\'

theorem isPlain_iff {s : String} : isPlain s = true ↔ Plain s := by
  simp [isPlain, Plain]

instance (s : String) : Decidable (Plain s) := decidable_of_iff _ isPlain_iff

theorem Plain.newline_not_mem {s : String} (h : Plain s) : '\n' ∉ s.toList :=
  fun hmem => (h _ hmem).1 rfl

theorem Plain.backslash_not_mem {s : String} (h : Plain s) : '\\' ∉ s.toList :=
  fun hmem => (h _ hmem).2 rfl

/-- A text of characters of a plain text is plain. -/
theorem Plain.of_subset {a b : String} (h : Plain b) (hsub : a.toList ⊆ b.toList) : Plain a :=
  fun c hc => h c (hsub hc)

theorem plain_append {a b : String} (ha : Plain a) (hb : Plain b) : Plain (a ++ b) := by
  intro c hc
  rw [String.toList_append, List.mem_append] at hc
  exact hc.elim (ha c) (hb c)

theorem afterHead?_append (head rest : String) : afterHead? head (head ++ rest) = some rest := by
  have hhead : hasHead head (head ++ rest) = true := by
    rw [hasHead, String.toList_append, List.isPrefixOf_iff_prefix]
    exact List.prefix_append _ _
  rw [afterHead?, if_pos hhead, String.toList_append, List.drop_left, String.ofList_toList]

end Text

/-- A name of letters, digits and underscores. -/
def isVariable (name : String) : Bool := name.toList.all fun c => c.isAlphanum || c == '_'

theorem not_mem_of_isVariable {name : String} (h : isVariable name = true) {c : Char}
    (hc : (c.isAlphanum || c == '_') = false) : c ∉ name.toList := by
  intro hmem
  rw [List.all_eq_true.mp h c hmem] at hc
  cases hc

/-- A statement that can be read back: a blank line or a comment, or an assignment of plain values
to a variable. -/
def Statement.Readable : Statement → Prop
  | .line text => Text.Plain text ∧ (text = "" ∨ Text.hasHead "#" text = true)
  | .assign name operator value =>
    isVariable name = true ∧ (operator = "+=" ∨ operator = ":=") ∧ Text.Plain value
  | .list name operator entries =>
    isVariable name = true ∧ operator = "+=" ∧ ∀ entry ∈ entries, Text.Plain entry

instance : (st : Statement) → Decidable st.Readable
  | .line _ => inferInstanceAs (Decidable (_ ∧ _))
  | .assign _ _ _ => inferInstanceAs (Decidable (_ ∧ _ ∧ _))
  | .list _ _ _ => inferInstanceAs (Decidable (_ ∧ _ ∧ _))

/-- Every statement can be read back. -/
def Makefile.Readable (m : Makefile) : Prop := ∀ st ∈ m, st.Readable

instance (m : Makefile) : Decidable m.Readable :=
  inferInstanceAs (Decidable (∀ st ∈ m, st.Readable))

/-! ## One line -/

section Line

variable {name : String}

theorem appendOn?_variable (h : isVariable name = true) (rest : String) :
    appendOn? (name ++ " " ++ rest) =
      (Text.afterHead? " += " (" " ++ rest)).map (name, ·) := by
  have hblank : ∀ c ∈ name.toList, (c != ' ') = true := by
    intro c hc
    rw [bne_iff_ne]
    rintro rfl
    exact not_mem_of_isVariable h (by decide) hc
  have hchars : (name ++ " " ++ rest).toList = name.toList ++ (" " ++ rest).toList := by simp
  have htake : (name ++ " " ++ rest).toList.takeWhile (· != ' ') = name.toList := by
    rw [hchars, List.takeWhile_append_of_pos hblank]
    simp
  unfold appendOn?
  simp only [htake]
  rw [hchars, List.drop_left, String.ofList_toList, String.ofList_toList]

/-- A line that begins with a variable is no comment. -/
theorem hasHead_variable (h : isVariable name = true) (rest : String) :
    Text.hasHead "#" (name ++ " " ++ rest) = false := by
  have hchars : (name ++ " " ++ rest).toList = name.toList ++ ' ' :: rest.toList := by simp
  have hhash : '#' ∉ name.toList := not_mem_of_isVariable h (by decide)
  rw [Text.hasHead, hchars]
  cases hname : name.toList with
  | nil => simp [List.isPrefixOf]
  | cons c cs =>
    rw [hname] at hhash
    have hc : c ≠ '#' := fun heq => hhash (heq ▸ List.mem_cons_self)
    simp [List.isPrefixOf, hc.symm]

/-- A line `NAME += value` appends its value, or begins a list. -/
theorem readLine_append (h : isVariable name = true) (value : String) :
    readLine none (name ++ " " ++ ("+= " ++ value)) =
      if value = "\\" then ([], some name) else ([(name, value)], none) := by
  have hsign : " " ++ ("+= " ++ value) = " += " ++ value := by rw [← String.append_assoc]; rfl
  have happend : appendOn? (name ++ " " ++ ("+= " ++ value)) = some (name, value) := by
    rw [appendOn?_variable h, hsign, Text.afterHead?_append]
    rfl
  simp only [readLine, hasHead_variable h, happend, Bool.false_eq_true, if_false]

/-- Any other assignment appends nothing. -/
theorem readLine_set (h : isVariable name = true) (value : String) :
    readLine none (name ++ " " ++ (":= " ++ value)) = ([], none) := by
  have happend : appendOn? (name ++ " " ++ (":= " ++ value)) = none := by
    rw [appendOn?_variable h]
    simp [Text.afterHead?, Text.hasHead]
  simp only [readLine, hasHead_variable h, happend, Bool.false_eq_true, if_false]

theorem readLine_comment {line : String} (h : line = "" ∨ Text.hasHead "#" line = true) :
    readLine none line = ([], none) := by
  rcases h with rfl | h
  · decide
  · simp only [readLine, h, if_true]

theorem unindented_append (entry : String) : unindented ("    " ++ entry) = entry := by
  rw [unindented, Text.afterHead?_append, Option.getD_some]

theorem continued?_append (front : String) : continued? (front ++ " \\") = some front := by
  have htail : Text.hasTail " \\" (front ++ " \\") = true := Text.hasTail_iff.mpr ⟨front, rfl⟩
  have htake : (front ++ " \\").toList.take ((front ++ " \\").toList.length - 2) =
      front.toList := by
    rw [String.toList_append]
    exact List.take_left' (by simp)
  rw [continued?, if_pos htail, htake, String.ofList_toList]

/-- A line that does not end in a backslash is not continued. -/
theorem continued?_eq_none {line : String} (h : Text.hasTail "\\" line = false) :
    continued? line = none := by
  have htail : Text.hasTail " \\" line = false := by
    rw [← Bool.not_eq_true, Text.hasTail_iff]
    rintro ⟨front, hfront⟩
    have hline : Text.hasTail "\\" line = true :=
      Text.hasTail_iff.mpr ⟨front ++ " ", by rw [String.append_assoc]; exact hfront⟩
    exact absurd hline (by simp [h])
  rw [continued?, htail]
  rfl

/-- An entry before a backslash leaves its list open. -/
theorem readLine_continued (name entry : String) :
    readLine (some name) ("    " ++ entry ++ " \\") = ([(name, entry)], some name) := by
  simp only [readLine, continued?_append, unindented_append]

/-- An entry without one ends it. -/
theorem readLine_last (name : String) {entry : String} (h : Text.Plain entry) :
    readLine (some name) ("    " ++ entry) = ([(name, entry)], none) := by
  have htail : Text.hasTail "\\" ("    " ++ entry) = false := by
    rw [← Bool.not_eq_true, Text.hasTail, List.isSuffixOf_iff_suffix]
    intro hsuffix
    have hmem : '\\' ∈ ("    " ++ entry).toList := hsuffix.subset (by simp)
    have hentry := h.backslash_not_mem
    simp [hentry] at hmem
  simp only [readLine, continued?_eq_none htail, unindented_append]

end Line

/-! ## One statement -/

/-- Reading goes on where the first lines have left off. -/
theorem readLines_append (list? : Option String) (a b : List String) :
    readLines list? (a ++ b) =
      ((readLines list? a).1 ++ (readLines (readLines list? a).2 b).1,
        (readLines (readLines list? a).2 b).2) := by
  induction a generalizing list? with
  | nil => rfl
  | cons line rest ih =>
    show readLines list? (line :: (rest ++ b)) = _
    simp only [readLines, ih, List.append_assoc]

/-- The entries of a list are read to its end. -/
theorem readLines_continuedLines (name : String) {entries : List String} (hne : entries ≠ [])
    (h : ∀ entry ∈ entries, Text.Plain entry) :
    readLines (some name) (continuedLines entries) = (entries.map (name, ·), none) := by
  induction entries with
  | nil => exact absurd rfl hne
  | cons entry rest ih =>
    have hentry := h entry List.mem_cons_self
    cases rest with
    | nil => simp [continuedLines, readLines, readLine_last name hentry]
    | cons next more =>
      have hrest := ih (by simp) fun e he => h e (List.mem_cons_of_mem entry he)
      rw [continuedLines]
      · simp only [readLines, readLine_continued, hrest]
        rfl
      · simp

/-- The lines of a statement append what it says, and leave no list open. -/
theorem readLines_statement {st : Statement} (h : st.Readable) :
    readLines none st.lines = (st.appends, none) := by
  cases st with
  | line text =>
    obtain ⟨-, hcomment⟩ := h
    simp [Statement.lines, Statement.appends, readLines, readLine_comment hcomment]
  | assign name operator value =>
    obtain ⟨hname, hoperator, hvalue⟩ := h
    rcases hoperator with rfl | rfl
    · -- a plain value is no backslash, so no list begins here
      have hslash : value ≠ "\\" := by
        rintro rfl
        exact hvalue.backslash_not_mem (by decide)
      have hline : name ++ " " ++ "+=" ++ " " ++ value = name ++ " " ++ ("+= " ++ value) := by
        simp only [String.append_assoc]
        rfl
      simp [Statement.lines, Statement.appends, readLines, hline, readLine_append hname, hslash]
    · have hline : name ++ " " ++ ":=" ++ " " ++ value = name ++ " " ++ (":= " ++ value) := by
        simp only [String.append_assoc]
        rfl
      simp [Statement.lines, Statement.appends, readLines, hline, readLine_set hname]
  | list name operator entries =>
    obtain ⟨hname, rfl, hentries⟩ := h
    by_cases hempty : entries = []
    · subst hempty
      rfl
    · have hhead : name ++ " " ++ "+=" ++ " \\" = name ++ " " ++ ("+= " ++ "\\") := by
        simp only [String.append_assoc]
        rfl
      have hlines : (Statement.list name "+=" entries).lines =
          (name ++ " " ++ ("+= " ++ "\\")) :: continuedLines entries := by
        rw [← hhead]
        simp [Statement.lines, listLines, hempty]
      rw [hlines, readLines, readLine_append hname, if_pos rfl]
      simp only [readLines_continuedLines name hempty hentries]
      rfl

/-! ## The whole -/

theorem readLines_makefile {m : Makefile} (h : m.Readable) :
    readLines none m.lines = (m.appends, none) := by
  induction m with
  | nil => rfl
  | cons st rest ih =>
    have hst := readLines_statement (h st List.mem_cons_self)
    have hrest := ih fun t ht => h t (List.mem_cons_of_mem st ht)
    show readLines none (st.lines ++ Makefile.lines rest) = (st.appends ++ Makefile.appends rest, none)
    rw [readLines_append, hst]
    simp only [hrest]

theorem newline_not_mem_continuedLines {entries : List String}
    (h : ∀ entry ∈ entries, '\n' ∉ entry.toList) :
    ∀ line ∈ continuedLines entries, '\n' ∉ line.toList := by
  induction entries with
  | nil => exact List.forall_mem_nil _
  | cons entry rest ih =>
    have hentry := h entry List.mem_cons_self
    cases rest with
    | nil => simp [continuedLines, hentry]
    | cons next more =>
      intro line hline
      rw [continuedLines] at hline
      · rcases List.mem_cons.mp hline with rfl | hline
        · simp [hentry]
        · exact ih (fun e he => h e (List.mem_cons_of_mem entry he)) line hline
      · simp

/-- A statement that can be read back keeps to its lines. -/
theorem newline_not_mem_lines {st : Statement} (h : st.Readable) :
    ∀ line ∈ st.lines, '\n' ∉ line.toList := by
  cases st with
  | line text =>
    obtain ⟨htext, -⟩ := h
    simpa [Statement.lines] using htext.newline_not_mem
  | assign name operator value =>
    obtain ⟨hname, hoperator, hvalue⟩ := h
    have hnewline := not_mem_of_isVariable hname (c := '\n') (by decide)
    have hvalue' := hvalue.newline_not_mem
    rcases hoperator with rfl | rfl <;> simp [Statement.lines, hnewline, hvalue']
  | list name operator entries =>
    obtain ⟨hname, rfl, hentries⟩ := h
    have hnewline := not_mem_of_isVariable hname (c := '\n') (by decide)
    intro line hline
    simp only [Statement.lines, listLines] at hline
    split at hline
    · cases hline
    · rcases List.mem_cons.mp hline with rfl | hline
      · simp [hnewline]
      · exact newline_not_mem_continuedLines (fun e he => (hentries e he).newline_not_mem)
          line hline

/-- Reading the text of a makefile gives back what its statements append, in order. -/
theorem read_render {m : Makefile} (h : m.Readable) :
    readMakefile m.render = m.appends := by
  have hlines : ∀ line ∈ m.lines, '\n' ∉ line.toList := by
    intro line hline
    obtain ⟨st, hst, hmem⟩ := List.mem_flatMap.mp hline
    exact newline_not_mem_lines (h st hst) line hmem
  rw [readMakefile, Makefile.render, Text.linesOf_unlines hlines, readLines_makefile h]

/-! ## Places -/

/-- The text of an assignment that appends a list to a variable: each entry stands on a line of its
own, and a backslash after each but the last continues the list. -/
def listText (name : String) (entries : List String) : String :=
  name ++ " += \\\n    " ++ " \\\n    ".intercalate entries ++ "\n"

namespace Text

/-- A block of lines stands in the text, and begins where a line does. -/
def HasBlock (text block : String) : Prop :=
  ∃ before after, text = before ++ block ++ after ∧ StartsLine before.toList

/-- The text appends the value to the variable, by an assignment of its own or as an entry of a
list. -/
def Appends (text name value : String) : Prop :=
  HasBlock text (name ++ " += " ++ value ++ "\n") ∨
    ∃ entries, value ∈ entries ∧ HasBlock text (listText name entries)

theorem startsLine_unlines (lines : List String) : StartsLine (unlines lines).toList := by
  induction lines with
  | nil => exact startsLine_nil
  | cons line rest ih =>
    rw [unlines_cons, String.toList_append, String.toList_append]
    exact StartsLine.append (.inr ⟨line.toList, rfl⟩) ih

end Text

/-- The lines of a statement stand in the text of every makefile with that statement. -/
theorem Makefile.hasBlock_of_mem {m : Makefile} {st : Statement} (h : st ∈ m) :
    Text.HasBlock m.render (Text.unlines st.lines) := by
  obtain ⟨front, rest, rfl⟩ := List.append_of_mem h
  refine ⟨Text.unlines (Makefile.lines front), Text.unlines (Makefile.lines rest), ?_,
    Text.startsLine_unlines _⟩
  simp only [Makefile.render, Makefile.lines, List.flatMap_append, List.flatMap_cons,
    Text.unlines_append, String.append_assoc]

theorem unlines_continuedLines {entries : List String} (hne : entries ≠ []) :
    Text.unlines (continuedLines entries) =
      "    " ++ " \\\n    ".intercalate entries ++ "\n" := by
  induction entries with
  | nil => exact absurd rfl hne
  | cons entry rest ih =>
    cases rest with
    | nil => simp [continuedLines]
    | cons next more =>
      have hlines : continuedLines (entry :: next :: more) =
          ("    " ++ entry ++ " \\") :: continuedLines (next :: more) := rfl
      have hbreak : " \\\n    " = " \\" ++ "\n" ++ "    " := by decide
      rw [hlines, Text.unlines_cons, ih (by simp), String.intercalate_cons_cons, hbreak]
      simp only [String.append_assoc]

theorem unlines_listLines (name : String) {entries : List String} (hne : entries ≠ []) :
    Text.unlines (listLines name "+=" entries) = listText name entries := by
  have hempty : entries.isEmpty = false := by simpa using hne
  have hhead : " += \\\n    " = " " ++ "+=" ++ " \\" ++ "\n" ++ "    " := by decide
  rw [listLines, hempty, listText, hhead]
  simp only [Bool.false_eq_true, if_false, Text.unlines_cons, unlines_continuedLines hne,
    String.append_assoc]

theorem unlines_assign (name operator value : String) :
    Text.unlines (Statement.assign name operator value).lines =
      name ++ (" " ++ operator ++ " ") ++ value ++ "\n" := by
  simp only [Statement.lines, Text.unlines_cons, Text.unlines_nil, String.append_empty,
    String.append_assoc]

/-- What a makefile appends to a variable, its text does. -/
theorem appends_of_mem {m : Makefile} {name value : String} (h : (name, value) ∈ m.appends) :
    Text.Appends m.render name value := by
  obtain ⟨st, hst, hmem⟩ := List.mem_flatMap.mp h
  have hblock := Makefile.hasBlock_of_mem hst
  cases st with
  | line text => cases hmem
  | assign variableName operator v =>
    rw [Statement.appends, List.mem_ite_nil_right, List.mem_singleton, Prod.mk.injEq] at hmem
    obtain ⟨rfl, rfl, rfl⟩ := hmem
    have hsign : " += " = " " ++ "+=" ++ " " := by decide
    rw [Text.Appends, hsign, ← unlines_assign]
    exact .inl hblock
  | list variableName operator entries =>
    rw [Statement.appends, List.mem_ite_nil_right, List.mem_map] at hmem
    obtain ⟨rfl, entry, hentry, heq⟩ := hmem
    obtain ⟨rfl, rfl⟩ := Prod.mk.inj heq
    have hlines := unlines_listLines variableName (List.ne_nil_of_mem hentry)
    exact .inr ⟨entries, hentry, hlines ▸ hblock⟩

end DeviceSpec
