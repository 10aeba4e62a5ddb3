/-!
# Lines

Generated files are lists of lines, each ended by a line feed.

* `unlines_append`: the text of two lists of lines is the two texts one after the other.
-/

namespace DeviceSpec.Text

/-- The text whose lines are the given ones, each ended by a line feed. -/
def unlines : List String → String
  | [] => ""
  | line :: rest => line ++ "\n" ++ unlines rest

@[simp] theorem unlines_nil : unlines [] = "" := rfl

@[simp] theorem unlines_cons (line : String) (rest : List String) :
    unlines (line :: rest) = line ++ "\n" ++ unlines rest := rfl

@[simp] theorem unlines_append (a b : List String) : unlines (a ++ b) = unlines a ++ unlines b := by
  induction a with
  | nil => simp
  | cons line rest ih => simp [ih, String.append_assoc]

/-- The text begins with `head`. -/
def hasHead (head text : String) : Bool :=
  head.toList.isPrefixOf text.toList

/-- The text ends with `tail`. -/
def hasTail (tail text : String) : Bool :=
  tail.toList.isSuffixOf text.toList

/-- The characters of `word` stand side by side somewhere in the text. -/
def occursIn (word : List Char) : List Char → Bool
  | [] => word.isEmpty
  | c :: rest => word.isPrefixOf (c :: rest) || occursIn word rest

/-- What follows `head`, if the text begins with it. -/
def afterHead? (head text : String) : Option String :=
  if hasHead head text then some (String.ofList (text.toList.drop head.toList.length)) else none

end DeviceSpec.Text
