import DeviceSpec.Proofs.Check.Declaration
import DeviceSpec.Proofs.Text.Words

/-!
# Assignments and the lines they stand on

A make file assigns one thing on a line. The blanks between the words of an assignment may hold
line ends though, so an assignment can spread over lines that say nothing of the kind.

* **lines** — an assignment without a line end in it is what trimming leaves of a line
  (`assignedIn_iff`);
* **seams** — two texts, one after the other, assign what one of them does, and what is assigned
  across the line end between them (`assignedIn_append_iff`);
* **locality** — so a text without quotes declares a module by a line of its own, or by an
  assignment that spreads over lines, and only the latter can be cut (`declares_by_lines`).
-/

namespace DeviceSpec

open Text

/-! ## Lines -/

/-- The text assigns the module, with a line end between the first word and the name. -/
def SpreadIn (module text : List Char) : Prop :=
  ∃ before w₁ core w₄ after, text = before ++ w₁ ++ core ++ w₄ ++ after ∧ StartsLine before ∧
    AllBlank w₁ ∧ IsAssignment module core ∧ AllBlank w₄ ∧ EndsLine after ∧ '\n' ∈ core

section
variable {module text core a b : List Char}

theorem IsAssignment.length_lt (h : IsAssignment module core) :
    "LOCAL_MODULE".toList.length + module.length < core.length := by
  obtain ⟨w₂, sign, w₃, rfl, -, hsign, -⟩ := h
  have hone : 0 < sign.length := by rcases hsign with rfl | rfl <;> decide
  simp only [List.length_append]
  omega

/-- An assignment neither begins nor ends with a blank, if the name does not end with one. -/
theorem IsAssignment.trimBlanks_append {w w' : List Char} (h : IsAssignment module core)
    (hmodule : module.getLast?.all isBlank = false) (hw : AllBlank w) (hw' : AllBlank w') :
    trimBlanks (w ++ core ++ w') = core := by
  obtain ⟨w₂, sign, w₃, rfl, -, -, -⟩ := h
  refine Text.trimBlanks_append ?_ ?_ hw hw'
  · rfl
  · rw [List.getLast?_append]
    cases hlast : module.getLast? with
    | none => simp [hlast] at hmodule
    | some c => simpa [hlast] using hmodule

/-- What is assigned is assigned by a line, or spread over lines. -/
theorem assignedIn_iff (hmodule : module.getLast?.all isBlank = false) :
    AssignedIn module text ↔
      (∃ line ∈ text.splitOn '\n', IsAssignment module (trimBlanks line)) ∨
        SpreadIn module text := by
  constructor
  · rintro ⟨before, w₁, core, w₄, after, rfl, hbefore, hw₁, hcore, hw₄, hafter⟩
    by_cases hfeed : '\n' ∈ core
    · exact .inr ⟨before, w₁, core, w₄, after, rfl, hbefore, hw₁, hcore, hw₄, hafter, hfeed⟩
    · -- the line begins after the last line feed before the assignment, and ends at the next one
      obtain ⟨front, head, rfl, hfront, hhead⟩ := exists_lastLine w₁
      obtain ⟨tail, rest, rfl, hrest, htail⟩ := exists_firstLine w₄
      refine .inl ⟨head ++ core ++ tail, mem_splitOn_iff.mpr ⟨by simp [hhead, hfeed, htail],
        before ++ front, rest ++ after, by simp, hbefore.append hfront, hrest.append hafter⟩, ?_⟩
      rwa [hcore.trimBlanks_append hmodule (allBlank_append.mp hw₁).2 (allBlank_append.mp hw₄).1]
  · rintro (⟨line, hline, hcore⟩ | ⟨before, w₁, core, w₄, after, htext, hbefore, hw₁, hcore, hw₄,
      hafter, -⟩)
    · obtain ⟨-, before, after, rfl, hbefore, hafter⟩ := mem_splitOn_iff.mp hline
      obtain ⟨w, w', hw, hw', hblanks⟩ := exists_trimBlanks line
      refine ⟨before, w, trimBlanks line, w', after, ?_, hbefore, hw, hcore, hw', hafter⟩
      conv => lhs; rw [hblanks]
      simp
    · exact ⟨before, w₁, core, w₄, after, htext, hbefore, hw₁, hcore, hw₄, hafter⟩

/-! ## Seams -/

/-- The module is assigned across the line end between the two texts. -/
def AssignedAcross (module a b : List Char) : Prop :=
  ∃ before w₁ u v w₄ after, a = before ++ w₁ ++ u ∧ b = v ++ w₄ ++ after ∧ StartsLine before ∧
    AllBlank w₁ ∧ IsAssignment module (u ++ '\n' :: v) ∧ AllBlank w₄ ∧ EndsLine after

/-- A character between two texts stands in the first part of the whole or in the second one. -/
theorem append_eq_append_cons_iff {α : Type} {xs ys a b : List α} {c : α} :
    xs ++ ys = a ++ c :: b ↔
      (∃ more, xs = a ++ c :: more ∧ b = more ++ ys) ∨
        ∃ more, a = xs ++ more ∧ ys = more ++ c :: b := by
  rw [List.append_eq_append_iff]
  constructor
  · rintro (⟨more, rfl, rfl⟩ | ⟨more, rfl, hmore⟩)
    · exact .inr ⟨more, rfl, rfl⟩
    · cases more with
      | nil => exact .inr ⟨[], by simp, by simpa using hmore.symm⟩
      | cons c' more =>
        obtain ⟨rfl, rfl⟩ := List.cons.inj hmore
        exact .inl ⟨more, rfl, rfl⟩
  · rintro (⟨more, rfl, rfl⟩ | ⟨more, rfl, rfl⟩)
    · exact .inr ⟨c :: more, rfl, rfl⟩
    · exact .inl ⟨more, rfl, rfl⟩

/-- Two texts with a line end between them assign what one of them does, or what goes across. -/
theorem assignedIn_append_iff : AssignedIn module (a ++ '\n' :: b) ↔
    AssignedIn module a ∨ AssignedIn module b ∨ AssignedAcross module a b := by
  constructor
  · rintro ⟨before, w₁, core, w₄, after, htext, hbefore, hw₁, hcore, hw₄, hafter⟩
    -- the line end stands in one of the five stretches
    rcases append_eq_append_cons_iff.mp htext.symm with ⟨m, hname, rfl⟩ | ⟨m, rfl, rfl⟩
    · rcases append_eq_append_cons_iff.mp hname with ⟨m, hword, rfl⟩ | ⟨m, rfl, rfl⟩
      · rcases append_eq_append_cons_iff.mp hword with ⟨m, hblank, rfl⟩ | ⟨m, rfl, rfl⟩
        · rcases append_eq_append_cons_iff.mp hblank with ⟨m, rfl, rfl⟩ | ⟨m, rfl, rfl⟩
          · exact .inr (.inl ⟨m, w₁, core, w₄, after, rfl, startsLine_cons_iff.mp hbefore, hw₁,
              hcore, hw₄, hafter⟩)
          · have hrest := (allBlank_cons.mp (allBlank_append.mp hw₁).2).2
            exact .inr (.inl ⟨[], _, core, w₄, after, rfl, startsLine_nil, hrest, hcore, hw₄,
              hafter⟩)
        · exact .inr (.inr ⟨before, w₁, _, _, w₄, after, rfl, rfl, hbefore, hw₁, hcore, hw₄,
            hafter⟩)
      · have hfirst := (allBlank_append.mp hw₄).1
        exact .inl ⟨before, w₁, core, _, [], by simp, hbefore, hw₁, hcore, hfirst, endsLine_nil⟩
    · refine .inl ⟨before, w₁, core, w₄, m, rfl, hbefore, hw₁, hcore, hw₄, ?_⟩
      cases m with
      | nil => exact endsLine_nil
      | cons c m =>
        obtain hnil | ⟨rest, hrest⟩ := hafter
        · cases hnil
        · rw [(List.cons.inj hrest).1]
          exact endsLine_cons
  · rintro (⟨before, w₁, core, w₄, after, rfl, hbefore, hw₁, hcore, hw₄, hafter⟩ |
      ⟨before, w₁, core, w₄, after, rfl, hbefore, hw₁, hcore, hw₄, hafter⟩ |
      ⟨before, w₁, u, v, w₄, after, rfl, rfl, hbefore, hw₁, hcore, hw₄, hafter⟩)
    · exact ⟨before, w₁, core, w₄, after ++ '\n' :: b, by simp, hbefore, hw₁, hcore, hw₄,
        hafter.append endsLine_cons⟩
    · exact ⟨a ++ '\n' :: before, w₁, core, w₄, after, by simp, startsLine_cons_iff.mpr hbefore,
        hw₁, hcore, hw₄, hafter⟩
    · exact ⟨before, w₁, u ++ '\n' :: v, w₄, after, by simp, hbefore, hw₁, hcore, hw₄, hafter⟩

end

/-! ## Locality -/

theorem declares_iff_assignedIn {text module : String} (hquote : '"' ∉ text.toList) :
    declares text module = true ↔ AssignedIn module.toList text.toList := by
  rw [declares_iff, or_iff_left (not_namedIn hquote)]

/-- A text without quotes declares a module by a line of its own or by an assignment that spreads
over lines. Cut at a line end, it declares what its parts do, and what is assigned across the
cut. -/
theorem declares_by_lines {text module : String} (hquote : '"' ∉ text.toList)
    (hmodule : IsColumn module) :
    (declares text module = true ↔
      (∃ line ∈ text.toList.splitOn '\n', IsAssignment module.toList (trimBlanks line)) ∨
        SpreadIn module.toList text.toList) ∧
    ∀ a b, text = a ++ "\n" ++ b → (declares text module = true ↔
      declares a module = true ∨ declares b module = true ∨
        AssignedAcross module.toList a.toList b.toList) := by
  have hlast : module.toList.getLast?.all isBlank = false := by
    cases hlast : module.toList.getLast? with
    | none =>
      have hnil := List.getLast?_eq_none_iff.mp hlast
      exact absurd (String.toList_eq_nil_iff.mp hnil) hmodule.1
    | some c => simpa using hmodule.2 c (List.mem_of_getLast? hlast)
  constructor
  · rw [declares_iff_assignedIn hquote, assignedIn_iff hlast]
  · rintro a b rfl
    have hchars : (a ++ "\n" ++ b).toList = a.toList ++ '\n' :: b.toList := by simp
    rw [hchars, List.mem_append, List.mem_cons, not_or, not_or] at hquote
    rw [declares_iff_assignedIn (by simp [hchars, hquote]), declares_iff_assignedIn hquote.1,
      declares_iff_assignedIn hquote.2.2, hchars, assignedIn_append_iff]

/-- An assignment whose name stands on the next line. -/
def brokenLine : String := "LOCAL_MODULE :=\nwifi_hal\n"

/-- No line of it is long enough for the assignment. -/
theorem not_isAssignment_brokenLine : ¬ ∃ line ∈ brokenLine.toList.splitOn '\n',
    IsAssignment "wifi_hal".toList (trimBlanks line) := by
  rintro ⟨line, hline, hassign⟩
  have hshort : ∀ line ∈ brokenLine.toList.splitOn '\n', (trimBlanks line).length ≤
      "LOCAL_MODULE".toList.length + "wifi_hal".toList.length := by
    decide +kernel
  exact absurd hassign.length_lt (Nat.not_lt.mpr (hshort line hline))

theorem declares_by_lines_brokenLine :
    '"' ∉ brokenLine.toList ∧ IsColumn "wifi_hal" ∧
      SpreadIn "wifi_hal".toList brokenLine.toList ∧
      AssignedAcross "wifi_hal".toList "LOCAL_MODULE :=".toList "wifi_hal\n".toList := by
  have hquote : '"' ∉ brokenLine.toList := by decide
  have hmodule : IsColumn "wifi_hal" := by decide
  have hdeclares : declares brokenLine "wifi_hal" = true := by decide +kernel
  obtain ⟨hlines, hcut⟩ := declares_by_lines hquote hmodule
  refine ⟨hquote, hmodule, (hlines.mp hdeclares).resolve_left not_isAssignment_brokenLine, ?_⟩
  have hparts := (hcut "LOCAL_MODULE :=" "wifi_hal\n" (by decide)).mp hdeclares
  exact (hparts.resolve_left (by decide +kernel)).resolve_left (by decide +kernel)

/-- A text may declare a module that none of its lines and neither of its parts declares. -/
theorem declares_without_line :
    '"' ∉ brokenLine.toList ∧ IsColumn "wifi_hal" ∧ declares brokenLine "wifi_hal" = true ∧
      (¬ ∃ line ∈ brokenLine.toList.splitOn '\n',
        IsAssignment "wifi_hal".toList (trimBlanks line)) ∧
      brokenLine = "LOCAL_MODULE :=" ++ "\n" ++ "wifi_hal\n" ∧
      declares "LOCAL_MODULE :=" "wifi_hal" = false ∧ declares "wifi_hal\n" "wifi_hal" = false :=
  ⟨by decide, by decide, by decide +kernel, not_isAssignment_brokenLine, by decide,
    by decide +kernel, by decide +kernel⟩

end DeviceSpec
