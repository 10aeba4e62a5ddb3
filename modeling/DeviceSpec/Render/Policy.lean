import DeviceSpec.Spec.Basic

/-!
# Policy files

The access control policy is spread over four files. A file holds the lines that the HALs have for
it, under the name of each HAL, in the order of the names.
-/

namespace DeviceSpec

/-- A file of the policy. -/
inductive PolicyFile where
  | fileTypes
  | serviceTypes
  | fileContexts
  | serviceContexts
  deriving DecidableEq

namespace PolicyFile

/-- The files in the order they are generated. -/
def all : List PolicyFile := [fileTypes, serviceTypes, fileContexts, serviceContexts]

/-- Where the file lies in the device directory. -/
def fileName : PolicyFile → String
  | fileTypes => "sepolicy/file.te"
  | serviceTypes => "sepolicy/service.te"
  | fileContexts => "sepolicy/file_contexts"
  | serviceContexts => "sepolicy/service_contexts"

/-- The lines of a policy for the file. -/
def linesOf (f : PolicyFile) (p : Policy) : List String :=
  match f with
  | fileTypes => p.fileTypes
  | serviceTypes => p.serviceTypes
  | fileContexts => p.fileContexts
  | serviceContexts => p.serviceContexts

/-- The lines of a HAL for the file. -/
def halLines (f : PolicyFile) (h : Hal) : List String := (h.policy.map f.linesOf).getD []

/-- Some HAL has a line for the file. -/
def isUsed (f : PolicyFile) (s : Spec) : Bool := s.hals.any (fun h => !(f.halLines h).isEmpty)

/-- The lines of a HAL under its name, if it has any. -/
def block? (f : PolicyFile) (h : Hal) : Option (List String) :=
  if (f.halLines h).isEmpty then none else some (("# " ++ h.name) :: f.halLines h)

/-- The lines of the file, with a blank line between HALs. -/
def lines (f : PolicyFile) (s : Spec) : List String :=
  ((s.halsByName.filterMap f.block?).intersperse [""]).flatten

/-- The text of the file. -/
def render (f : PolicyFile) (s : Spec) : String := Text.unlines (f.lines s)

end PolicyFile

end DeviceSpec
