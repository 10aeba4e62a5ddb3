import DeviceSpec.Command

/-!
# The command line

The words after the program's name, the command they ask for, and what a run of it leaves behind.

* `Request.parse` reads the words. An option may stand before, between and after the names; what
  follows two dashes is a name whatever it begins with.
* `runRequest` runs the command and gives the exit code with what was printed.
-/

namespace DeviceSpec

/-- What the command line asks for. -/
inductive Request where
  | init (vendor device : String) (template : Option Path)
  | validate (dir : Path)
  | update (dir : Path)
  | clean (dir : Path)
  | showSettings
  | showLedger (dir : Path)
  deriving DecidableEq

namespace Request

/-! ## Words -/

/-- A word sorted by its form. -/
inductive Word where
  /-- Two dashes alone. -/
  | separator
  /-- An option by its long name, with what follows an equals sign. -/
  | long (name : String) (value : Option String)
  /-- Options by their letters. -/
  | short (letters : List Char)
  /-- Anything else, a single dash included. -/
  | plain (s : String)
  deriving DecidableEq

/-- The form of a word. -/
def Word.of (s : String) : Word :=
  match s.toList with
  | ['-', '-'] => .separator
  | '-' :: '-' :: rest =>
    match rest.dropWhile (· != '=') with
    | [] => .long (String.ofList rest) none
    | _ :: value => .long (String.ofList (rest.takeWhile (· != '='))) (some (String.ofList value))
  | '-' :: c :: rest => .short (c :: rest)
  | _ => .plain s

/-- The names and the template among the words of a command that takes a template. -/
structure Arguments where
  names : List String := []
  template : Option String := none
  deriving DecidableEq

/-- Note the template; it can be given once and is not empty. -/
def Arguments.setTemplate (a : Arguments) (value : String) : Option Arguments :=
  if a.template.isSome ∨ value.isEmpty then none else some { a with template := some value }

/-- The value that follows the letter of an option in the same word. -/
def attachedValue : List Char → List Char
  | '=' :: value => value
  | value => value

/-- Sort the words of a command that takes a template. -/
def sortWords : Arguments → List String → Option Arguments
  | a, [] => some a
  | a, s :: rest =>
    match Word.of s with
    | .separator => some { a with names := a.names ++ rest }
    | .plain name => sortWords { a with names := a.names ++ [name] } rest
    | .long "config" (some value) => (a.setTemplate value).bind (fun a => sortWords a rest)
    | .long "config" none => takeValue a rest
    | .short ['c'] => takeValue a rest
    | .short ('c' :: value) =>
      (a.setTemplate (String.ofList (attachedValue value))).bind (fun a => sortWords a rest)
    | _ => none
where
  /-- The value of an option in the next word, which is no option itself. -/
  takeValue (a : Arguments) : List String → Option Arguments
    | [] => none
    | value :: rest =>
      match Word.of value with
      | .plain value => (a.setTemplate value).bind (fun a => sortWords a rest)
      | _ => none

/-- The names among the words of a command that takes no option. -/
def plainNames : List String → Option (List String)
  | [] => some []
  | s :: rest =>
    match Word.of s with
    | .separator => some rest
    | .plain name => (plainNames rest).map (name :: ·)
    | _ => none

/-- The directory a command is for: the working directory unless one is named. -/
def directory (words : List String) : Option Path :=
  match plainNames words with
  | some [] => some ⟨"."⟩
  | some [dir] => if dir.isEmpty then none else some ⟨dir⟩
  | _ => none

/-- Read the words of a command line. -/
def parse : List String → Option Request
  | [] => none
  | command :: words =>
    match command with
    | "init" | "i" =>
      match sortWords {} words with
      | some ⟨[vendor, device], template⟩ => some (.init vendor device (template.map Path.mk))
      | _ => none
    | "validate" | "v" => (directory words).map .validate
    | "update" | "u" => (directory words).map .update
    | "clean" | "c" => (directory words).map .clean
    | "show" =>
      match words with
      | "config" :: rest => if plainNames rest = some [] then some .showSettings else none
      | "state" :: rest => (directory rest).map .showLedger
      | _ => none
    | _ => none

end Request

/-! ## Running -/

/-- Run what is asked for, in the working directory. -/
def Request.run (settings : Settings) : Request → Action Unit
  | .init vendor device template => do
    let root ← look .workingDir Disk.workingPath
    discard (initialise root vendor device template)
  | .validate dir => discard (DeviceSpec.check dir settings)
  | .update dir => discard (DeviceSpec.update dir settings)
  | .clean dir => discard (DeviceSpec.clean dir)
  | .showSettings => DeviceSpec.showSettings settings
  | .showLedger dir => DeviceSpec.showLedger dir

/-- A text of several lines, the later ones indented. -/
def indentLater (indent text : String) : String :=
  String.ofList (text.toList.flatMap fun c => if c = '\n' then '\n' :: indent.toList else [c])

/-- How a failed command ends the error output: what failed and, below it, why. -/
def CommandError.ending (e : CommandError) : String :=
  let causes := match e.causes with
    | [] => ""
    | [cause] => "\nCaused by:\n    " ++ indentLater "    " cause ++ "\n"
    | causes =>
      "\nCaused by:\n" ++ String.join (causes.zipIdx.map fun (cause, n) =>
        "    " ++ toString n ++ ": " ++ indentLater "       " cause ++ "\n")
  "Error: " ++ e.message ++ "\n" ++ causes

/-- What a run of the program leaves behind. -/
structure Outcome where
  exitCode : Nat
  world : World

/-- The exit code for words that ask for nothing known. -/
def usageExitCode : Nat := 2

/-- Run a request in a world, with the settings that the environment and the environment files of
the working directory give. -/
def runRequest (r : Request) (environment : Variables) (w : World) : Outcome :=
  match w.disk.workingPath with
  | .error e => ⟨1, { w with err := w.err ++ "Error: " ++ e.message ++ "\n" }⟩
  | .ok dir =>
    match (r.run (Settings.ofRun dir environment w.disk)).run w with
    | (.ok (), w) => ⟨0, w⟩
    | (.error e, w) => ⟨1, { w with err := w.err ++ e.ending }⟩

end DeviceSpec
