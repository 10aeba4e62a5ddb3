import DeviceSpec.Text.Lines

/-!
# Paths

A path is the text a user or a file gives. It is shown as it is written, and compared by its
components: repeated slashes, slashes at the end and dots other than a leading one make no
difference.

* `Path.join` puts a name below a directory; an absolute name replaces the directory.
* `Path.parent?`, `Path.fileName?` and `Path.below?` take a path apart at its components and keep
  the text of the part that is left.
-/

namespace DeviceSpec

/-- A path as it is written. -/
structure Path where
  /-- The text of the path. -/
  text : String := ""
  deriving DecidableEq, Inhabited

/-- A step of a path. -/
inductive Component where
  /-- The leading slash of an absolute path. -/
  | root
  /-- A leading dot. -/
  | here
  /-- Two dots. -/
  | up
  /-- An ordinary name. -/
  | name (s : String)
  deriving DecidableEq

namespace Path

/-! ## Segments -/

/-- The stretches between slashes, empty ones included. -/
def segmentsOf : List Char → List (List Char)
  | [] => [[]]
  | c :: rest =>
    if c = '/' then [] :: segmentsOf rest
    else
      match segmentsOf rest with
      | [] => [[c]]
      | s :: ss => (c :: s) :: ss

/-- The stretches between slashes, empty ones included. -/
def segments (p : Path) : List String := (segmentsOf p.text.toList).map String.ofList

/-- The path starts at the root. -/
def isAbsolute (p : Path) : Bool := Text.hasHead "/" p.text

/-- The path ends in a slash. -/
def endsInSlash (p : Path) : Bool := Text.hasTail "/" p.text

/-- A segment that is no component unless it leads the path. -/
def isIdle (segment : String) : Bool := segment == "" || segment == "."

/-- The leading slash or dot of a path, if it has one, and the segments after it. A slash takes the
empty segment before it along. -/
def split (p : Path) : Option Component × List String :=
  match p.segments with
  | "" :: s :: rest => (some .root, s :: rest)
  | "." :: rest => (some .here, rest)
  | all => (none, all)

/-- The component that a segment stands for. -/
def component (segment : String) : Component :=
  if segment = ".." then .up else .name segment

/-- The components of a path. -/
def components (p : Path) : List Component :=
  let (head, rest) := p.split
  head.toList ++ (rest.filter (fun s => !isIdle s)).map component

/-- Two paths with the same components. -/
def same (a b : Path) : Bool := decide (a.components = b.components)

/-! ## Order -/

/-- Components in order: the root, a dot, two dots, then names by their code points. -/
def rank : Component → Nat
  | .root => 0
  | .here => 1
  | .up => 2
  | .name _ => 3

/-- The component comes before the other. -/
def componentBefore : Component → Component → Bool
  | .name a, .name b => decide (a < b)
  | a, b => decide (rank a < rank b)

/-- Lists of components in order, a list after its beginnings. -/
def componentsUpTo : List Component → List Component → Bool
  | [], _ => true
  | _ :: _, [] => false
  | a :: as, b :: bs => componentBefore a b || (decide (a = b) && componentsUpTo as bs)

/-- The path comes before the other or has the same components. -/
def upTo (a b : Path) : Bool := componentsUpTo a.components b.components

/-! ## Putting together and taking apart -/

/-- A name below a directory. -/
def join (p : Path) (name : String) : Path :=
  if Text.hasHead "/" name then ⟨name⟩
  else if p.text.isEmpty || p.endsInSlash then ⟨p.text ++ name⟩
  else ⟨p.text ++ "/" ++ name⟩

/-- The text of a leading component. -/
def headText : Option Component → String
  | some .root => "/"
  | some .here => "."
  | _ => ""

/-- Segments without the idle ones at the end. -/
def dropIdleEnd (segments : List String) : List String :=
  (segments.reverse.dropWhile isIdle).reverse

/-- The path whose leading component and segments are given. A leading dot is followed by a slash
unless it is all there is. -/
def ofSplit (head : Option Component) (segments : List String) : Path :=
  let body := "/".intercalate segments
  match head with
  | some .here => ⟨if segments.isEmpty then "." else "./" ++ body⟩
  | head => ⟨headText head ++ body⟩

/-- The path without its last component. The root and the empty path have no parent. -/
def parent? (p : Path) : Option Path :=
  let (head, rest) := p.split
  match dropIdleEnd rest, head with
  | [], some .here => some ⟨""⟩
  | [], _ => none
  | s :: ss, head => some (ofSplit head (dropIdleEnd (s :: ss).dropLast))

/-- The last component, if it is a name. -/
def fileName? (p : Path) : Option String :=
  match (dropIdleEnd p.split.2).getLast? with
  | some s => if s = ".." then none else some s
  | none => none

/-- Drop the first `count` components of a body, and idle segments before and after them. -/
def dropComponents : Nat → List String → List String
  | _, [] => []
  | 0, s :: rest => if isIdle s then dropComponents 0 rest else s :: rest
  | n + 1, s :: rest => if isIdle s then dropComponents (n + 1) rest else dropComponents n rest

/-- What follows the components of `base`, if the path begins with them: the text that is left,
without idle segments at its ends. -/
def below? (p base : Path) : Option String :=
  let front := base.components
  if front.isPrefixOf p.components then
    let (head, rest) := p.split
    match front with
    | [] => some (ofSplit head (dropIdleEnd rest)).text
    | _ :: more =>
      let dropped := if head.isSome then more.length else front.length
      some ("/".intercalate (dropIdleEnd (dropComponents dropped rest)))
  else none

end Path

end DeviceSpec
