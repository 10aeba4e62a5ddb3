import DeviceSpec.Text.Alphanumeric
import DeviceSpec.Text.Blank

/-!
# Environment files

An environment file defines variables, one `KEY=value` a line. A value may be quoted, and a quoted
value may go on over several lines; outside single quotes `$NAME` and `${NAME}` stand for the value
of a variable.

* `EnvFile.lines` cuts the bytes of a file into logical lines.
* `EnvFile.parseLine` reads the definition on a line.
* `EnvFile.definitions` reads a whole file: a definition, or a fault, for each line that is not
  empty.
-/

namespace DeviceSpec

/-- Variables with their values; the first entry of a name counts. -/
abbrev Variables := List (String × String)

namespace EnvFile

open Text

/-! ## Logical lines -/

/-- Where a line stands between words and quotes. -/
inductive Place where
  | word
  | blank
  | escape
  | single
  | singleEscape
  | double
  | doubleEscape
  | comment
  deriving DecidableEq

/-- The place after one more character. -/
def Place.next (c : Char) : Place → Place
  | .blank =>
    if c = '#' then .comment
    else if c = '\\' then .escape
    else if c = '"' then .double
    else if c = '\x27' then .single
    else .word
  | .escape => .word
  | .word =>
    if isBlank c ∧ c ≠ '\n' ∧ c ≠ '\r' then .blank
    else if c = '\\' then .escape
    else if c = '"' then .double
    else if c = '\x27' then .single
    else .word
  | .double => if c = '\\' then .doubleEscape else if c = '"' then .word else .double
  | .doubleEscape => .double
  | .single => if c = '\\' then .singleEscape else if c = '\x27' then .word else .single
  | .singleEscape => .single
  | .comment => .comment

/-- Follow a stretch of text from a place: the place after it, and the part of it before a
comment. -/
def scan : Place → List Char → Place × List Char
  | place, [] => (place, [])
  | place, c :: rest =>
    match place.next c with
    | .comment => (.comment, [])
    | next =>
      let (last, kept) := scan next rest
      (last, c :: kept)

/-- A logical line, or bytes that are no text. -/
inductive Line where
  | text (line : List Char)
  | fault
  deriving DecidableEq

/-- Cut bytes after each line feed. -/
def physicalLines (bytes : List UInt8) : List (List UInt8) :=
  match bytes with
  | [] => []
  | b :: rest =>
    if b = 10 then [b] :: physicalLines rest
    else
      match physicalLines rest with
      | [] => [[b]]
      | line :: lines => (b :: line) :: lines

/-- A line without its end. -/
def withoutEnd (line : List Char) : List Char :=
  match line.reverse with
  | '\n' :: '\r' :: rest => rest.reverse
  | '\n' :: rest => rest.reverse
  | _ => line

/-- The text of bytes, if they are text. -/
def textOf? (bytes : List UInt8) : Option (List Char) :=
  (String.fromUTF8? ⟨bytes.toArray⟩).map String.toList

/-- Join physical lines into logical ones: `held` is the beginning of a line that goes on and
`place` where it stands. A file that ends within a quote or after a blank or a backslash ends with a
fault. -/
def joinLines : Place → List Char → List (List UInt8) → List Line
  | place, _, [] => if place = .word then [] else [.fault]
  | place, held, bytes :: rest =>
    match textOf? bytes with
    | none => .fault :: joinLines .word [] rest
    | some more =>
      let line := held ++ more
      if (line.dropWhile isBlank).head? = some '#' then .text [] :: joinLines .word [] rest
      else
        match scan place more with
        | (.comment, kept) => .text (held ++ kept) :: joinLines .word [] rest
        | (.word, _) => .text (withoutEnd line) :: joinLines .word [] rest
        | (next, _) => joinLines next line rest

/-- The logical lines of a file. -/
def lines (content : ByteArray) : List Line :=
  joinLines .word [] (physicalLines content.toList)

/-! ## Values -/

/-- How the name after a dollar sign is being read. -/
inductive Naming where
  /-- No name is being read. -/
  | idle
  /-- The name ends with its letters and digits. -/
  | plain
  /-- The name ends with a brace. -/
  | braced
  deriving DecidableEq

/-- A value that is being read. -/
structure Reading where
  isSingle : Bool := false
  isDouble : Bool := false
  isEscaped : Bool := false
  /-- Nothing but a comment may follow. -/
  isOver : Bool := false
  naming : Naming := .idle
  /-- The name read so far. -/
  name : List Char := []
  /-- The value read so far. -/
  value : List Char := []

/-- The value of a variable: that of the environment, or else the one defined earlier in the file,
or else nothing. -/
def valueOf (environment earlier : Variables) (name : List Char) : List Char :=
  let key := String.ofList name
  ((environment.lookup key).getD ((earlier.lookup key).getD "")).toList

/-- Put the value of the variable whose name has been read. -/
def Reading.substitute (environment earlier : Variables) (r : Reading) : Reading :=
  { r with value := r.value ++ valueOf environment earlier r.name, name := [] }

/-- Take one more character into the value. -/
def Reading.push (r : Reading) (c : Char) : Reading := { r with value := r.value ++ [c] }

/-- The character an escape stands for. -/
def escaped? (c : Char) : Option Char :=
  if c = '\\' ∨ c = '\x27' ∨ c = '"' ∨ c = '$' ∨ c = ' ' then some c
  else if c = 'n' then some '\n'
  else none

/-- Read one more character of a value that is not over: nothing if it is not allowed. -/
def Reading.take (environment earlier : Variables) (r : Reading) (c : Char) : Option Reading :=
  if r.isEscaped then
    (escaped? c).map fun d => { (r.push d) with isEscaped := false }
  else if r.isSingle then
    some (if c = '\x27' then { r with isSingle := false } else r.push c)
  else if r.naming ≠ .idle then
    if isAlphanumeric c then some { r with name := r.name ++ [c] }
    else if r.naming = .plain then
      if c = '\x7b' ∧ r.name.isEmpty then some { r with naming := .braced }
      else
        let r := r.substitute environment earlier
        some (if c = '$' then { r with naming := .plain }
              else { (r.push c) with naming := .idle })
    else if c = '\x7d' then
      some { (r.substitute environment earlier) with naming := .idle }
    else some { r with name := r.name ++ [c] }
  else if c = '$' then some { r with naming := .plain }
  else if r.isDouble then
    some (if c = '"' then { r with isDouble := false }
          else if c = '\\' then { r with isEscaped := true }
          else r.push c)
  else if c = '\x27' then some { r with isSingle := true }
  else if c = '"' then some { r with isDouble := true }
  else if c = '\\' then some { r with isEscaped := true }
  else if c = ' ' ∨ c = '\t' then some { r with isOver := true }
  else some (r.push c)

/-- The value, when nothing more of it is to come: nothing if it is not well formed. -/
def Reading.finish (environment earlier : Variables) (r : Reading) : Option String :=
  if r.naming = .braced ∨ r.isSingle ∨ r.isDouble then none
  else
    let r := if r.naming = .plain then r.substitute environment earlier else r
    some (String.ofList r.value)

/-- Read a value to its end: nothing if it is not well formed. -/
def readValue (environment earlier : Variables) : Reading → List Char → Option String
  | r, [] => r.finish environment earlier
  | r, c :: rest =>
    if r.isOver then
      if c = ' ' ∨ c = '\t' then readValue environment earlier r rest
      else if c = '#' then r.finish environment earlier
      else none
    else
      match r.take environment earlier c with
      | none => none
      | some r => readValue environment earlier r rest

/-! ## Definitions -/

/-- The character may begin a key. -/
def isKeyHead (c : Char) : Bool := c.isAlpha || c == '_'

/-- The character may stand in a key. -/
def isKeyChar (c : Char) : Bool := c.isAlphanum || c == '_' || c == '.'

/-- A key and what follows it. -/
def readKey : List Char → Option (String × List Char)
  | [] => none
  | c :: rest =>
    if isKeyHead c then
      some (String.ofList (c :: rest.takeWhile isKeyChar), rest.dropWhile isKeyChar)
    else none

/-- The key of a definition and what follows its equals sign. The word `export` may stand before
the key; followed by an equals sign it is a key itself. -/
def readTarget (line : List Char) : Option (String × List Char) :=
  match readKey line with
  | none => none
  | some (key, rest) =>
    match rest.dropWhile isBlank with
    | '=' :: rest => some (key, rest)
    | rest =>
      if key = "export" then
        match readKey rest with
        | none => none
        | some (key, rest) =>
          match rest.dropWhile isBlank with
          | '=' :: rest => some (key, rest)
          | _ => none
      else none

/-- What a line says. -/
inductive Statement where
  /-- The line is empty or a comment. -/
  | nothing
  | define (key value : String)
  | fault
  deriving DecidableEq

/-- Read a line, with the variables of the environment and those defined earlier in the file. -/
def parseLine (environment earlier : Variables) (line : List Char) : Statement :=
  match trimBlanks line with
  | [] => .nothing
  | '#' :: _ => .nothing
  | body =>
    match readTarget body with
    | none => .fault
    | some (key, rest) =>
      match rest.dropWhile isBlank with
      | [] => .define key ""
      | '#' :: _ => .define key ""
      | value =>
        match readValue environment earlier {} value with
        | none => .fault
        | some v => .define key v

/-- What the lines of a file say, with the definitions each line can refer to. -/
def statements (environment : Variables) : Variables → List Line → List Statement
  | _, [] => []
  | earlier, .fault :: rest => .fault :: statements environment earlier rest
  | earlier, .text line :: rest =>
    match parseLine environment earlier line with
    | .define key value =>
      .define key value :: statements environment ((key, value) :: earlier) rest
    | s => s :: statements environment earlier rest

/-- The definitions in statements, faults passed over. -/
def definitionsOf (ss : List Statement) : Variables :=
  ss.filterMap fun
    | .define key value => some (key, value)
    | _ => none

/-- All definitions of a file in order, faults passed over. -/
def definitions (environment : Variables) (content : ByteArray) : Variables :=
  definitionsOf (statements environment [] (lines content))

end EnvFile

end DeviceSpec
