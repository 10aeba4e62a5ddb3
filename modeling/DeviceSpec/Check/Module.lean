import DeviceSpec.Disk.Access
import DeviceSpec.Text.Blank

/-!
# Modules that build files declare

A make file declares a module by `LOCAL_MODULE := name` on a line of its own, and a blueprint by
`name: "name"` at the start of a line. Blanks, line ends among them, may stand between the words.

* `declares` recognises the two forms; the name of the module is taken as it is. A library for
  patterns refuses a pattern that is too large once compiled, and the module would count as one that
  no file declares. There is no such limit here: a name of any length is looked for.
* `findBuildFiles` finds the build files in a directory, as deep down as paths lead.
-/

namespace DeviceSpec

open Text

/-- The rest of a text after its first `n` blanks, for each `n` the text has blanks for. -/
def afterBlanks : List Char → List (List Char)
  | [] => [[]]
  | c :: rest => if isBlank c then (c :: rest) :: afterBlanks rest else [c :: rest]

/-- The rest of a text after a word it begins with. -/
def afterWord? (word text : List Char) : Option (List Char) :=
  if word.isPrefixOf text then some (text.drop word.length) else none

/-- The line ends here. -/
def atLineEnd : List Char → Bool
  | [] => true
  | c :: _ => c == '\n'

/-- An assignment sign, with or without a colon. -/
def afterAssign? : List Char → Option (List Char)
  | ':' :: '=' :: rest => some rest
  | '=' :: rest => some rest
  | _ => none

/-- A make file declares the module here. The blanks before a word that is known hold nothing
else; those before the name and after it may belong to the name or to the next line. -/
def assignsModule (module text : List Char) : Bool :=
  match afterWord? "LOCAL_MODULE".toList (text.dropWhile isBlank) with
  | none => false
  | some rest =>
    match afterAssign? (rest.dropWhile isBlank) with
    | none => false
    | some rest =>
      (afterBlanks rest).any fun here =>
        match afterWord? module here with
        | none => false
        | some rest => (afterBlanks rest).any atLineEnd

/-- A blueprint names the module here. -/
def namesModule (module text : List Char) : Bool :=
  match afterWord? "name".toList (text.dropWhile isBlank) with
  | none => false
  | some rest =>
    match rest.dropWhile isBlank with
    | ':' :: rest => ('"' :: module ++ ['"']).isPrefixOf (rest.dropWhile isBlank)
    | _ => false

/-- The rest of a text after each line feed. -/
def laterLines : List Char → List (List Char)
  | [] => []
  | c :: rest => if c = '\n' then rest :: laterLines rest else laterLines rest

/-- The text from each of its lines on. -/
def lineStarts (text : List Char) : List (List Char) := text :: laterLines text

/-- The text of a build file declares the module. -/
def declares (text module : String) : Bool :=
  (lineStarts text.toList).any fun here =>
    assignsModule module.toList here || namesModule module.toList here

/-- The build file declares the module. -/
def declaresModule (file : Path) (module : String) (d : Disk) : Except FileError Bool :=
  match d.readText file with
  | .error e => .error e
  | .ok text => .ok (declares text module)

/-! ## Build files -/

/-- The names of build files. -/
def buildFileNames : List String := ["Android.mk", "Android.bp"]

/-- The last name of a location, or the text of the path that leads there. -/
def lastName (dir : Path) (below : List String) : String :=
  match below.getLast? with
  | some name => name
  | none => dir.fileName?.getD dir.text

/-- An entry is reached if the directory it lies in can be opened by its path, which is the longest
on the way down. -/
def isReached (dir : Path) (below : List String) : Bool :=
  decide ((below.dropLast.foldl Path.join dir).text.utf8ByteSize ≤ Disk.longestPath)

/-- The build files at a path or anywhere below it, in order. A directory that cannot be
opened is passed over. -/
def findBuildFiles (dir : Path) (d : Disk) : List Path :=
  match d.find dir with
  | .error _ => []
  | .ok (location, _) =>
    let files := (d.subtree location).filterMap fun (below, node) =>
      match node with
      | .directory => none
      | .file _ =>
        if buildFileNames.contains (lastName dir below) && isReached dir below then
          some (below.foldl Path.join dir)
        else none
    files.mergeSort Path.upTo

end DeviceSpec
