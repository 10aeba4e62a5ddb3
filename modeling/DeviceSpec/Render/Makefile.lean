import DeviceSpec.Text.Lines

/-!
# Makefiles

A makefile is a list of statements, and its text is the lines of the statements in order.

* A list assignment stands on several lines, each but the last continued by a backslash. An
  assignment of no entries is not written at all.
-/

namespace DeviceSpec

/-- A statement of a makefile. -/
inductive Statement where
  /-- A line as it is. -/
  | line (text : String)
  /-- An assignment on one line. -/
  | assign (variableName operator value : String)
  /-- An assignment of a list, one entry a line. -/
  | list (variableName operator : String) (entries : List String)
  deriving DecidableEq

/-- The entries of a list assignment, each but the last continued. -/
def continuedLines : List String → List String
  | [] => []
  | [entry] => ["    " ++ entry]
  | entry :: rest => ("    " ++ entry ++ " \\") :: continuedLines rest

/-- The lines of a list assignment. -/
def listLines (variableName operator : String) (entries : List String) : List String :=
  if entries.isEmpty then []
  else (variableName ++ " " ++ operator ++ " \\") :: continuedLines entries

/-- The lines of a statement. -/
def Statement.lines : Statement → List String
  | .line text => [text]
  | .assign variableName operator value => [variableName ++ " " ++ operator ++ " " ++ value]
  | .list variableName operator entries => listLines variableName operator entries

/-- A makefile. -/
abbrev Makefile := List Statement

/-- The lines of a makefile. -/
def Makefile.lines (m : Makefile) : List String := m.flatMap Statement.lines

/-- The text of a makefile. -/
def Makefile.render (m : Makefile) : String := Text.unlines m.lines

/-- The comment that heads every generated makefile. -/
def makefileHeader : Statement :=
  .line "# Generated by avs from config.json. Edit config.json instead."

/-- A blank line. -/
def blankLine : Statement := .line ""

/-- A list assignment under a title, or nothing when there is nothing to assign. -/
def titledList (title variableName operator : String) (entries : List String) : Makefile :=
  if entries.isEmpty then []
  else [blankLine, .line title, .list variableName operator entries]

/-- Lines under a title, or nothing when there are none. -/
def titledLines (title : String) (lines : List String) : Makefile :=
  if lines.isEmpty then [] else blankLine :: .line title :: lines.map .line

end DeviceSpec
