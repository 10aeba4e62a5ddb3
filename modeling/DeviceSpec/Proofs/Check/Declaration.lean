import DeviceSpec.Check.Module
import DeviceSpec.Proofs.Overlay.Merge
import DeviceSpec.Proofs.Text.Blank
import DeviceSpec.Proofs.Text.Lines

/-!
# Where a build file declares a module

A build file declares a module where, at the start of a line and after any blanks, one of two forms
stands. The name of the module is taken letter by letter, so it may hold blanks and signs itself,
and the blanks around it may hold line ends.

* **readers** — what each step over the text leaves, for every text that it can step over
  (`mem_afterBlanks`, `afterWord?_dropWhile_iff`, `mem_lineStarts`);
* **the grammar** — the two forms as stretches of a text (`IsAssignment`, `IsNaming`) and the places
  they stand at (`AssignedIn`, `NamedIn`); a text declares exactly what stands in it
  (`declares_iff`);
* **files** — so a file with a text is answered for every module, by what stands in that text
  (`declaresModule_grammar`).
-/

namespace DeviceSpec

open Text

/-! ## Readers -/

section
variable {c : Char} {cs rest word w : List Char}

theorem mem_afterBlanks : rest ∈ afterBlanks cs ↔ ∃ w, AllBlank w ∧ cs = w ++ rest := by
  induction cs with
  | nil =>
    simp only [afterBlanks, List.mem_singleton, List.nil_eq, List.append_eq_nil_iff]
    constructor
    · rintro rfl
      exact ⟨[], allBlank_nil, rfl, rfl⟩
    · rintro ⟨w, -, -, rfl⟩
      rfl
  | cons c cs ih =>
    have hmore : (∃ w, AllBlank w ∧ c :: cs = w ++ rest) ↔
        rest = c :: cs ∨ isBlank c = true ∧ ∃ w, AllBlank w ∧ cs = w ++ rest := by
      constructor
      · rintro ⟨w, hw, heq⟩
        cases w with
        | nil => exact .inl heq.symm
        | cons c' w =>
          obtain ⟨rfl, rfl⟩ := List.cons.inj heq
          obtain ⟨hc, hw⟩ := allBlank_cons.mp hw
          exact .inr ⟨hc, w, hw, rfl⟩
      · rintro (rfl | ⟨hc, w, hw, rfl⟩)
        · exact ⟨[], allBlank_nil, rfl⟩
        · exact ⟨c :: w, allBlank_cons.mpr ⟨hc, hw⟩, rfl⟩
    rw [afterBlanks, hmore, ← ih]
    cases hc : isBlank c <;> simp

theorem afterWord?_eq_some_iff : afterWord? word cs = some rest ↔ cs = word ++ rest := by
  unfold afterWord?
  constructor
  · intro h
    simp only [Option.ite_none_right_eq_some, Option.some.injEq] at h
    obtain ⟨hword, rfl⟩ := h
    exact List.prefix_iff_eq_append.mp (List.isPrefixOf_iff_prefix.mp hword) |>.symm
  · rintro rfl
    simp

/-- What is not blank comes after all the blanks. -/
theorem dropWhile_isBlank_eq_cons_iff (hc : isBlank c = false) :
    cs.dropWhile isBlank = c :: rest ↔ ∃ w, AllBlank w ∧ cs = w ++ c :: rest := by
  constructor
  · intro h
    refine ⟨cs.takeWhile isBlank, List.all_eq_true.mp List.all_takeWhile, ?_⟩
    rw [← h, List.takeWhile_append_dropWhile]
  · rintro ⟨w, hw, rfl⟩
    rw [List.dropWhile_append_of_pos hw, List.dropWhile_cons_of_neg (by simp [hc])]

/-- A word that does not begin with a blank comes after all the blanks. -/
theorem afterWord?_dropWhile_iff (hword : word.head?.all isBlank = false) :
    afterWord? word (cs.dropWhile isBlank) = some rest ↔
      ∃ w, AllBlank w ∧ cs = w ++ word ++ rest := by
  cases word with
  | nil => simp at hword
  | cons c word =>
    rw [afterWord?_eq_some_iff, List.cons_append,
      dropWhile_isBlank_eq_cons_iff (by simpa using hword)]
    simp only [List.append_assoc, List.cons_append]

/-- A sign that assigns. -/
def IsSign (sign : List Char) : Prop := sign = [':', '='] ∨ sign = ['=']

theorem afterAssign?_eq_some_iff :
    afterAssign? cs = some rest ↔ ∃ sign, IsSign sign ∧ cs = sign ++ rest := by
  unfold afterAssign? IsSign
  constructor
  · intro h
    split at h
    · rw [Option.some.inj h]
      exact ⟨_, .inl rfl, rfl⟩
    · rw [Option.some.inj h]
      exact ⟨_, .inr rfl, rfl⟩
    · cases h
  · rintro ⟨_, rfl | rfl, rfl⟩ <;> rfl

theorem afterAssign?_dropWhile_iff : afterAssign? (cs.dropWhile isBlank) = some rest ↔
    ∃ w sign, AllBlank w ∧ IsSign sign ∧ cs = w ++ sign ++ rest := by
  rw [afterAssign?_eq_some_iff]
  constructor
  · rintro ⟨sign, hsign, h⟩
    obtain ⟨w, hw, rfl⟩ : ∃ w, AllBlank w ∧ cs = w ++ (sign ++ rest) := by
      rcases hsign with rfl | rfl
      · exact (dropWhile_isBlank_eq_cons_iff (by decide)).mp h
      · exact (dropWhile_isBlank_eq_cons_iff (by decide)).mp h
    exact ⟨w, sign, hw, hsign, (List.append_assoc ..).symm⟩
  · rintro ⟨w, sign, hw, hsign, rfl⟩
    refine ⟨sign, hsign, ?_⟩
    rw [List.append_assoc]
    rcases hsign with rfl | rfl
    · exact (dropWhile_isBlank_eq_cons_iff (by decide)).mpr ⟨w, hw, rfl⟩
    · exact (dropWhile_isBlank_eq_cons_iff (by decide)).mpr ⟨w, hw, rfl⟩

end

/-! ## Lines -/

section
variable {cs rest before after : List Char}

theorem atLineEnd_iff : atLineEnd cs = true ↔ EndsLine cs := by
  cases cs with
  | nil => simp [atLineEnd, EndsLine]
  | cons c cs => simp [atLineEnd, EndsLine]

theorem mem_laterLines :
    rest ∈ laterLines cs ↔ ∃ front, cs = front ++ '\n' :: rest := by
  induction cs with
  | nil => simp [laterLines]
  | cons c cs ih =>
    have hmore : (∃ front, c :: cs = front ++ '\n' :: rest) ↔
        (c = '\n' ∧ rest = cs) ∨ ∃ front, cs = front ++ '\n' :: rest := by
      constructor
      · rintro ⟨front, heq⟩
        cases front with
        | nil => exact .inl ⟨(List.cons.inj heq).1, (List.cons.inj heq).2.symm⟩
        | cons c' front => exact .inr ⟨front, (List.cons.inj heq).2⟩
      · rintro (⟨rfl, rfl⟩ | ⟨front, rfl⟩)
        · exact ⟨[], rfl⟩
        · exact ⟨c :: front, rfl⟩
    rw [laterLines, hmore, ← ih]
    by_cases hc : c = '\n' <;> simp [hc]

theorem mem_lineStarts :
    rest ∈ lineStarts cs ↔ ∃ before, StartsLine before ∧ cs = before ++ rest := by
  rw [lineStarts, List.mem_cons, mem_laterLines]
  constructor
  · rintro (rfl | ⟨front, rfl⟩)
    · exact ⟨[], .inl rfl, rfl⟩
    · exact ⟨front ++ ['\n'], .inr ⟨front, rfl⟩, by simp⟩
  · rintro ⟨before, rfl | ⟨front, rfl⟩, rfl⟩
    · exact .inl rfl
    · exact .inr ⟨front, by simp⟩

end

/-! ## The grammar -/

/-- An assignment of the module, from its first word to the name. -/
def IsAssignment (module cs : List Char) : Prop :=
  ∃ w₂ sign w₃, cs = "LOCAL_MODULE".toList ++ w₂ ++ sign ++ w₃ ++ module ∧
    AllBlank w₂ ∧ IsSign sign ∧ AllBlank w₃

/-- The name of the module between quotes, from the word before it on. -/
def IsNaming (module cs : List Char) : Prop :=
  ∃ w₂ w₃, cs = "name".toList ++ w₂ ++ [':'] ++ w₃ ++ ['"'] ++ module ++ ['"'] ∧
    AllBlank w₂ ∧ AllBlank w₃

/-- The text assigns the module, with nothing but blanks around it from the start of a line to the
end of one. -/
def AssignedIn (module text : List Char) : Prop :=
  ∃ before w₁ core w₄ after, text = before ++ w₁ ++ core ++ w₄ ++ after ∧ StartsLine before ∧
    AllBlank w₁ ∧ IsAssignment module core ∧ AllBlank w₄ ∧ EndsLine after

/-- The text names the module, with nothing but blanks before it from the start of a line on. -/
def NamedIn (module text : List Char) : Prop :=
  ∃ before w₁ core after, text = before ++ w₁ ++ core ++ after ∧ StartsLine before ∧
    AllBlank w₁ ∧ IsNaming module core

section
variable {module here : List Char}

theorem assignsModule_iff : assignsModule module here = true ↔
    ∃ w₁ core w₄ after, here = w₁ ++ core ++ w₄ ++ after ∧ AllBlank w₁ ∧
      IsAssignment module core ∧ AllBlank w₄ ∧ EndsLine after := by
  unfold assignsModule
  constructor
  · intro h
    cases hword : afterWord? "LOCAL_MODULE".toList (here.dropWhile isBlank) with
    | none => simp only [hword, Bool.false_eq_true] at h
    | some rest =>
      simp only [hword] at h
      cases hassign : afterAssign? (rest.dropWhile isBlank) with
      | none => simp [hassign] at h
      | some value =>
        simp only [hassign, List.any_eq_true] at h
        obtain ⟨named, hnamed, h⟩ := h
        cases hmodule : afterWord? module named with
        | none => simp [hmodule] at h
        | some tail =>
          simp only [hmodule, List.any_eq_true, mem_afterBlanks, atLineEnd_iff] at h
          obtain ⟨after, ⟨w₄, hw₄, rfl⟩, hafter⟩ := h
          obtain ⟨w₁, hw₁, rfl⟩ := (afterWord?_dropWhile_iff (by decide)).mp hword
          obtain ⟨w₂, sign, hw₂, hsign, rfl⟩ := afterAssign?_dropWhile_iff.mp hassign
          obtain ⟨w₃, hw₃, rfl⟩ := mem_afterBlanks.mp hnamed
          rw [afterWord?_eq_some_iff.mp hmodule]
          refine ⟨w₁, _, w₄, after, ?_, hw₁, ⟨w₂, sign, w₃, rfl, hw₂, hsign, hw₃⟩, hw₄, hafter⟩
          simp
  · rintro ⟨w₁, core, w₄, after, rfl, hw₁, ⟨w₂, sign, w₃, rfl, hw₂, hsign, hw₃⟩, hw₄, hafter⟩
    have hword : afterWord? "LOCAL_MODULE".toList (List.dropWhile isBlank (w₁ ++
        ("LOCAL_MODULE".toList ++ w₂ ++ sign ++ w₃ ++ module) ++ w₄ ++ after)) =
          some (w₂ ++ sign ++ (w₃ ++ (module ++ (w₄ ++ after)))) :=
      (afterWord?_dropWhile_iff (by decide)).mpr ⟨w₁, hw₁, by simp⟩
    have hassign : afterAssign? (List.dropWhile isBlank
        (w₂ ++ sign ++ (w₃ ++ (module ++ (w₄ ++ after))))) =
          some (w₃ ++ (module ++ (w₄ ++ after))) :=
      afterAssign?_dropWhile_iff.mpr ⟨w₂, sign, hw₂, hsign, rfl⟩
    have hmodule : afterWord? module (module ++ (w₄ ++ after)) = some (w₄ ++ after) :=
      afterWord?_eq_some_iff.mpr rfl
    simp only [hword, hassign, List.any_eq_true]
    refine ⟨_, mem_afterBlanks.mpr ⟨w₃, hw₃, rfl⟩, ?_⟩
    simp only [hmodule, List.any_eq_true]
    exact ⟨after, mem_afterBlanks.mpr ⟨w₄, hw₄, rfl⟩, atLineEnd_iff.mpr hafter⟩

theorem namesModule_iff : namesModule module here = true ↔
    ∃ w₁ core after, here = w₁ ++ core ++ after ∧ AllBlank w₁ ∧ IsNaming module core := by
  have hquoted : ∀ cs : List Char,
      ('"' :: module ++ ['"']).isPrefixOf (cs.dropWhile isBlank) = true ↔
        ∃ w₃ after, AllBlank w₃ ∧ cs = w₃ ++ '"' :: module ++ ['"'] ++ after := by
    intro cs
    rw [List.isPrefixOf_iff_prefix]
    constructor
    · rintro ⟨after, h⟩
      obtain ⟨w₃, hw₃, rfl⟩ := (dropWhile_isBlank_eq_cons_iff (by decide)).mp h.symm
      exact ⟨w₃, after, hw₃, by simp⟩
    · rintro ⟨w₃, after, hw₃, rfl⟩
      refine ⟨after, ((dropWhile_isBlank_eq_cons_iff (by decide)).mpr ⟨w₃, hw₃, ?_⟩).symm⟩
      simp
  unfold namesModule
  constructor
  · intro h
    cases hword : afterWord? "name".toList (here.dropWhile isBlank) with
    | none => simp only [hword, Bool.false_eq_true] at h
    | some rest =>
      simp only [hword] at h
      split at h
      · rename_i value hcolon
        obtain ⟨w₁, hw₁, rfl⟩ := (afterWord?_dropWhile_iff (by decide)).mp hword
        obtain ⟨w₂, hw₂, rfl⟩ := (dropWhile_isBlank_eq_cons_iff (by decide)).mp hcolon
        obtain ⟨w₃, after, hw₃, rfl⟩ := (hquoted value).mp h
        refine ⟨w₁, _, after, ?_, hw₁, ⟨w₂, w₃, rfl, hw₂, hw₃⟩⟩
        simp
      · cases h
  · rintro ⟨w₁, core, after, rfl, hw₁, ⟨w₂, w₃, rfl, hw₂, hw₃⟩⟩
    have hword : afterWord? "name".toList (List.dropWhile isBlank (w₁ ++
        ("name".toList ++ w₂ ++ [':'] ++ w₃ ++ ['"'] ++ module ++ ['"']) ++ after)) =
          some (w₂ ++ ':' :: (w₃ ++ '"' :: module ++ ['"'] ++ after)) :=
      (afterWord?_dropWhile_iff (by decide)).mpr ⟨w₁, hw₁, by simp⟩
    have hcolon : List.dropWhile isBlank (w₂ ++ ':' :: (w₃ ++ '"' :: module ++ ['"'] ++ after)) =
        ':' :: (w₃ ++ '"' :: module ++ ['"'] ++ after) :=
      (dropWhile_isBlank_eq_cons_iff (by decide)).mpr ⟨w₂, hw₂, rfl⟩
    simp only [hword, hcolon]
    exact (hquoted _).mpr ⟨w₃, after, hw₃, rfl⟩

end

/-- A text declares a module exactly when it assigns or names it. -/
theorem declares_iff {text module : String} : declares text module = true ↔
    AssignedIn module.toList text.toList ∨ NamedIn module.toList text.toList := by
  simp only [declares, List.any_eq_true, Bool.or_eq_true, mem_lineStarts, assignsModule_iff,
    namesModule_iff]
  constructor
  · rintro ⟨here, ⟨before, hbefore, htext⟩, h | h⟩
    · obtain ⟨w₁, core, w₄, after, rfl, hw₁, hcore, hw₄, hafter⟩ := h
      exact .inl ⟨before, w₁, core, w₄, after, by simp [htext], hbefore, hw₁, hcore, hw₄, hafter⟩
    · obtain ⟨w₁, core, after, rfl, hw₁, hcore⟩ := h
      exact .inr ⟨before, w₁, core, after, by simp [htext], hbefore, hw₁, hcore⟩
  · rintro (⟨before, w₁, core, w₄, after, htext, hbefore, h⟩ |
      ⟨before, w₁, core, after, htext, hbefore, h⟩)
    · exact ⟨w₁ ++ core ++ w₄ ++ after, ⟨before, hbefore, by simp [htext]⟩,
        .inl ⟨w₁, core, w₄, after, rfl, h⟩⟩
    · exact ⟨w₁ ++ core ++ after, ⟨before, hbefore, by simp [htext]⟩,
        .inr ⟨w₁, core, after, rfl, h⟩⟩

/-- Nothing is named without quotes. -/
theorem not_namedIn {module text : List Char} (hquote : '"' ∉ text) : ¬ NamedIn module text := by
  rintro ⟨before, w₁, core, after, rfl, -, -, w₂, w₃, rfl, -, -⟩
  simp at hquote

/-! ## Files -/

theorem declaresModule_of_read {d : Disk} {file : Path} {text : String}
    (hread : d.read file = .ok text.toUTF8) (module : String) :
    declaresModule file module d = .ok (declares text module) := by
  rw [declaresModule, readText_ok_iff.mpr hread]

theorem declaresModule_iff {d : Disk} {file : Path} {module : String} :
    declaresModule file module d = .ok true ↔
      ∃ text, d.read file = .ok text.toUTF8 ∧ declares text module = true := by
  simp only [← readText_ok_iff]
  unfold declaresModule
  cases d.readText file with
  | error err => simp
  | ok text => simp

/-- A file with a text is answered for every module: it declares the module exactly when the text
assigns or names it. -/
theorem declaresModule_grammar {d : Disk} {file : Path} {text : String}
    (hread : d.read file = .ok text.toUTF8) (module : String) :
    ∃ answer, declaresModule file module d = .ok answer ∧
      (answer = true ↔ AssignedIn module.toList text.toList ∨
        NamedIn module.toList text.toList) :=
  ⟨declares text module, declaresModule_of_read hread module, declares_iff⟩

/-- The sign before the name is the first of two, and the blanks after it are shared with the
name. -/
def signedModule : Disk :=
  { entries := [(["m"], .file "#\n LOCAL_MODULE\n=\t = a.*\n\n".toUTF8)] }

theorem declaresModule_grammar_signedModule :
    signedModule.read ⟨"/m"⟩ = .ok "#\n LOCAL_MODULE\n=\t = a.*\n\n".toUTF8 ∧
      AssignedIn " = a.*".toList "#\n LOCAL_MODULE\n=\t = a.*\n\n".toList := by
  have hread : signedModule.read ⟨"/m"⟩ = .ok "#\n LOCAL_MODULE\n=\t = a.*\n\n".toUTF8 := rfl
  obtain ⟨answer, hanswer, hgrammar⟩ := declaresModule_grammar hread " = a.*"
  have hdeclares : declares "#\n LOCAL_MODULE\n=\t = a.*\n\n" " = a.*" = true := by decide +kernel
  rw [declaresModule_of_read hread, hdeclares, Except.ok.injEq] at hanswer
  exact ⟨hread, (hgrammar.mp hanswer.symm).resolve_right (not_namedIn (by decide))⟩

end DeviceSpec
