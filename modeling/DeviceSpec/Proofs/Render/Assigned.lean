import DeviceSpec.Proofs.Render.Reading
import DeviceSpec.Render.Board

/-!
# Assignments of a makefile

A makefile gives a variable its value with a line `NAME := value`, and the last such line counts.

* **values** — what the statements give a variable (`Makefile.assigned`, `Makefile.value?`);
* **text** — each of these assignments has a line of its own (`hasBlock_of_mem_assigned`). If every
  statement keeps to its lines and only assignments begin like one, the values are read back from
  the text (`readAssigned_render`).
-/

namespace DeviceSpec

/-! ## Values -/

/-- The value that a statement gives a variable. -/
def Statement.sets? (name : String) : Statement → Option String
  | .assign variableName operator value =>
    if variableName = name ∧ operator = ":=" then some value else none
  | _ => none

/-- The values that a makefile gives a variable, in order. -/
def Makefile.assigned (m : Makefile) (name : String) : List String :=
  m.filterMap (Statement.sets? name)

/-- The value that a variable has in the end. -/
def Makefile.value? (m : Makefile) (name : String) : Option String := (m.assigned name).getLast?

section Assigned

variable {name variableName value : String} {m : Makefile}

@[simp] theorem assigned_nil : Makefile.assigned [] name = [] := rfl

@[simp] theorem assigned_append (m n : Makefile) :
    Makefile.assigned (m ++ n) name = Makefile.assigned m name ++ Makefile.assigned n name :=
  List.filterMap_append

@[simp] theorem assigned_flatMap {α : Type} (part : α → Makefile) (xs : List α) :
    Makefile.assigned (xs.flatMap part) name =
      xs.flatMap fun x => Makefile.assigned (part x) name := by
  induction xs with
  | nil => rfl
  | cons x rest ih => simp [ih]

@[simp] theorem assigned_line (text : String) (m : Makefile) :
    Makefile.assigned (.line text :: m) name = Makefile.assigned m name := rfl

@[simp] theorem assigned_blankLine (m : Makefile) :
    Makefile.assigned (blankLine :: m) name = Makefile.assigned m name := rfl

@[simp] theorem assigned_makefileHeader (m : Makefile) :
    Makefile.assigned (makefileHeader :: m) name = Makefile.assigned m name := rfl

@[simp] theorem assigned_lines (lines : List String) :
    Makefile.assigned (lines.map .line) name = [] := by
  induction lines with
  | nil => rfl
  | cons line rest ih => rwa [List.map_cons, assigned_line]

@[simp] theorem assigned_titledLines (title : String) (lines : List String) :
    Makefile.assigned (titledLines title lines) name = [] := by
  unfold titledLines
  split
  · rfl
  · rw [assigned_blankLine, assigned_line, assigned_lines]

theorem assigned_setTo_self : Makefile.assigned (setTo name value :: m) name =
    value :: Makefile.assigned m name := by
  simp [Makefile.assigned, setTo, Statement.sets?]

theorem assigned_setTo_of_ne (h : variableName ≠ name) :
    Makefile.assigned (setTo variableName value :: m) name = Makefile.assigned m name := by
  simp [Makefile.assigned, setTo, Statement.sets?, h]

theorem assigned_onlyIf_of_ne (h : variableName ≠ name) (condition : Bool) :
    Makefile.assigned (onlyIf condition (setTo variableName value)) name = [] := by
  cases condition with
  | false => rfl
  | true => exact assigned_setTo_of_ne h

end Assigned

/-! ## The text -/

/-- What stands behind `NAME := ` on the lines that begin so. -/
def assignedOn (name : String) (lines : List String) : List String :=
  lines.filterMap (Text.afterHead? (name ++ " := "))

/-- The values that the text of a makefile gives a variable, in order. -/
def readAssigned (name text : String) : List String := assignedOn name (Text.linesOf text)

/-- No blank and no line feed stands in the text. -/
def isUnbroken (text : String) : Bool := text.toList.all fun c => c != ' ' && c != '\n'

/-- The lines of a statement set the variable to what the statement does, and are lines. -/
structure Statement.ReadsFor (name : String) (st : Statement) : Prop where
  lines : ∀ line ∈ st.lines, '\n' ∉ line.toList
  value : assignedOn name st.lines = (st.sets? name).toList

section Reading

variable {name variableName value text : String} {m : Makefile}

theorem isUnbroken_append (a b : String) :
    isUnbroken (a ++ b) = (isUnbroken a && isUnbroken b) := by
  rw [isUnbroken, String.toList_append, List.all_append]
  rfl

theorem not_mem_of_isUnbroken (h : isUnbroken text = true) :
    ' ' ∉ text.toList ∧ '\n' ∉ text.toList :=
  ⟨fun hmem => absurd (List.all_eq_true.mp h _ hmem) (by decide),
    fun hmem => absurd (List.all_eq_true.mp h _ hmem) (by decide)⟩

/-- An assignment has a line of its own. -/
theorem hasBlock_of_mem_assigned (h : value ∈ Makefile.assigned m name) :
    Text.HasBlock m.render (name ++ " := " ++ value ++ "\n") := by
  obtain ⟨st, hst, hsets⟩ := List.mem_filterMap.mp h
  have hblock := Makefile.hasBlock_of_mem hst
  cases st with
  | line text => cases hsets
  | list variableName operator entries => cases hsets
  | assign variableName operator v =>
    rw [Statement.sets?, Option.ite_none_right_eq_some, Option.some.injEq] at hsets
    obtain ⟨⟨rfl, rfl⟩, rfl⟩ := hsets
    have hsign : " := " = " " ++ ":=" ++ " " := by decide
    rwa [hsign, ← unlines_assign]

/-- Reading a text for a variable gives what the statements set it to. -/
theorem readAssigned_render (h : ∀ st ∈ m, st.ReadsFor name) :
    readAssigned name m.render = Makefile.assigned m name := by
  have hlines : ∀ line ∈ m.lines, '\n' ∉ line.toList := by
    intro line hline
    obtain ⟨st, hst, hmem⟩ := List.mem_flatMap.mp hline
    exact (h st hst).lines line hmem
  rw [readAssigned, Makefile.render, Text.linesOf_unlines hlines]
  clear hlines
  induction m with
  | nil => rfl
  | cons st rest ih =>
    have hst := (h st List.mem_cons_self).value
    have hrest := ih fun t ht => h t (List.mem_cons_of_mem st ht)
    simp only [assignedOn, Makefile.lines, Makefile.assigned] at hst hrest ⊢
    rw [List.flatMap_cons, List.filterMap_append, hst, hrest]
    cases hsets : st.sets? name with
    | none => simp [hsets]
    | some value => simp [hsets]

theorem forall_bne_of_not_mem {c : Char} {cs : List Char} (h : c ∉ cs) :
    ∀ d ∈ cs, (d != c) = true := by
  intro d hd
  rw [bne_iff_ne]
  rintro rfl
  exact h hd

/-- What stands before the first blank. -/
theorem takeWhile_blank {word : List Char} (h : ' ' ∉ word) (rest : List Char) :
    (word ++ ' ' :: rest).takeWhile (· != ' ') = word := by
  rw [List.takeWhile_append_of_pos (forall_bne_of_not_mem h)]
  simp

/-- Words without blanks that are followed by one are the same if one text begins with the other. -/
theorem eq_of_isPrefix_blank {a b rest more : List Char} (ha : ' ' ∉ a) (hb : ' ' ∉ b)
    (h : a ++ ' ' :: rest <+: b ++ ' ' :: more) : a = b := by
  obtain ⟨tail, htail⟩ := h
  rw [← takeWhile_blank ha (rest ++ tail), ← takeWhile_blank hb more, ← htail, List.append_assoc,
    List.cons_append]

/-- A line that begins with another word does not set the variable. -/
theorem afterHead?_of_ne (hname : ' ' ∉ name.toList) (hblank : ' ' ∉ variableName.toList)
    (hne : variableName ≠ name) (rest : String) :
    Text.afterHead? (name ++ " := ") (variableName ++ " " ++ rest) = none := by
  have hhead : (name ++ " := ").toList = name.toList ++ ' ' :: ":= ".toList := by simp
  have hline : (variableName ++ " " ++ rest).toList =
      variableName.toList ++ ' ' :: rest.toList := by
    simp
  have hnone : Text.hasHead (name ++ " := ") (variableName ++ " " ++ rest) = false := by
    rw [Bool.eq_false_iff, ne_eq, Text.hasHead, List.isPrefixOf_iff_prefix, hline, hhead]
    intro hprefix
    exact hne (String.toList_inj.mp (eq_of_isPrefix_blank hname hblank hprefix).symm)
  rw [Text.afterHead?, hnone]
  rfl

/-- A line that appends to the variable does not set it. -/
theorem afterHead?_append_sign (name value : String) :
    Text.afterHead? (name ++ " := ") (name ++ " += " ++ value) = none := by
  have hnone : Text.hasHead (name ++ " := ") (name ++ " += " ++ value) = false := by
    rw [Bool.eq_false_iff, ne_eq, Text.hasHead, List.isPrefixOf_iff_prefix, String.toList_append,
      String.append_assoc, String.toList_append, List.prefix_append_right_inj]
    simp
  rw [Text.afterHead?, hnone]
  rfl

/-- An assignment on a line of its own sets its own variable only, and only if it replaces the
value. -/
theorem readsFor_assign {operator : String} (hname : ' ' ∉ name.toList)
    (hvariable : isUnbroken variableName = true)
    (hoperator : operator = ":=" ∨ operator = "+=") (hvalue : '\n' ∉ value.toList) :
    Statement.ReadsFor name (.assign variableName operator value) := by
  obtain ⟨hblank, hnewline⟩ := not_mem_of_isUnbroken hvariable
  have hsplit : ∀ sign, variableName ++ " " ++ sign ++ " " ++ value =
      variableName ++ " " ++ (sign ++ " " ++ value) := fun _ => by simp only [String.append_assoc]
  refine ⟨?_, ?_⟩
  · rcases hoperator with rfl | rfl <;> simp [Statement.lines, hnewline, hvalue]
  · rw [Statement.lines, assignedOn, Statement.sets?]
    by_cases heq : variableName = name
    · subst heq
      rcases hoperator with rfl | rfl
      · have hline : variableName ++ " " ++ ":=" ++ " " ++ value =
            variableName ++ " := " ++ value := by
          simp only [String.append_assoc]
          rfl
        rw [hline, List.filterMap_cons_some (Text.afterHead?_append _ _)]
        simp
      · have hline : variableName ++ " " ++ "+=" ++ " " ++ value =
            variableName ++ " += " ++ value := by
          simp only [String.append_assoc]
          rfl
        rw [hline, List.filterMap_cons_none (afterHead?_append_sign _ _)]
        simp
    · rw [hsplit, List.filterMap_cons_none (afterHead?_of_ne hname hblank heq _)]
      simp [heq]

/-- A line that does not begin like an assignment to the variable. -/
theorem readsFor_line (hnewline : '\n' ∉ text.toList)
    (h : Text.hasHead (name ++ " := ") text = false) : Statement.ReadsFor name (.line text) := by
  refine ⟨by simpa [Statement.lines] using hnewline, ?_⟩
  simp [Statement.lines, assignedOn, Statement.sets?, Text.afterHead?, h]

/-- A blank line or a comment sets no variable. -/
theorem readsFor_comment (hname : isVariable name = true) (hnewline : '\n' ∉ text.toList)
    (h : text = "" ∨ Text.hasHead "#" text = true) : Statement.ReadsFor name (.line text) := by
  refine readsFor_line hnewline ?_
  rw [Bool.eq_false_iff, ne_eq, Text.hasHead, List.isPrefixOf_iff_prefix]
  intro hprefix
  rcases h with rfl | h
  · simp at hprefix
  · have hhash : "#".toList <+: (name ++ " := ").toList :=
      List.prefix_of_prefix_length_le (List.isPrefixOf_iff_prefix.mp h) hprefix (by simp)
    have hmem := hhash.subset (List.mem_singleton_self '#')
    have hnot := not_mem_of_isVariable hname (c := '#') (by decide)
    simp [hnot] at hmem

theorem readsFor_setTo (hname : isVariable name = true)
    (hvariable : isUnbroken variableName = true) (hvalue : '\n' ∉ value.toList) :
    Statement.ReadsFor name (setTo variableName value) :=
  readsFor_assign (not_mem_of_isVariable hname (by decide)) hvariable (.inl rfl) hvalue

theorem readsFor_onlyIf {st : Statement} (h : st.ReadsFor name) (condition : Bool) :
    ∀ t ∈ onlyIf condition st, t.ReadsFor name := by
  intro t ht
  rw [onlyIf, List.mem_ite_nil_right, List.mem_singleton] at ht
  exact ht.2 ▸ h

theorem readsFor_blankLine (hname : isVariable name = true) : blankLine.ReadsFor name :=
  readsFor_comment hname (by decide) (.inl rfl)

theorem readsFor_titledLines {title : String} {lines : List String} (hname : isVariable name = true)
    (htitle : '\n' ∉ title.toList) (hhash : Text.hasHead "#" title = true)
    (h : ∀ line ∈ lines, '\n' ∉ line.toList ∧ Text.hasHead (name ++ " := ") line = false) :
    ∀ st ∈ titledLines title lines, st.ReadsFor name := by
  unfold titledLines
  split
  · exact List.forall_mem_nil _
  · rw [List.forall_mem_cons, List.forall_mem_cons, List.forall_mem_map]
    exact ⟨readsFor_blankLine hname, readsFor_comment hname htitle (.inr hhash),
      fun line hline => readsFor_line (h line hline).1 (h line hline).2⟩

end Reading

end DeviceSpec
