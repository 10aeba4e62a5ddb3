import DeviceSpec.Json.Scan

/-!
# Reading and writing values

A codec reads a value from a document and writes it back. Codecs are put together from those of
texts, flags and lists, and from tables of fields: one table says for every field of a record how
it is spelled, whether it may be missing, how it is read and when it is left out.

* A document is written with two blanks of indentation per level and a final line feed.
* A record is read from an object, whose members may come in any order and among members it does
  not know, or from a list of its fields in the order of the table.
* Writing is deterministic: the fields come in the order of the table.
-/

namespace DeviceSpec.Json

/-- How values of a type are read and written. `read` takes the number of further containers the
document may open and the rest of the document; `write` takes the indentation. -/
structure Codec (α : Type) where
  /-- Read a value. -/
  read : Nat → List Char → Except Error (α × List Char)
  /-- Write a value. -/
  write : Nat → α → List Char

/-- How many containers may stand inside each other in a value of any form. -/
def depthLimit : Nat := 128

/-- Read a whole document: one value with nothing but blanks around it. -/
def Codec.decode {α : Type} (c : Codec α) (document : String) : Except Error α := do
  let (v, rest) ← c.read depthLimit document.toList
  if (skipGap rest).isEmpty then .ok v else .error .trailingCharacters

/-- Write a whole document. -/
def Codec.encode {α : Type} (c : Codec α) (v : α) : String :=
  String.ofList (c.write 0 v ++ ['\n'])

/-! ## Texts and flags -/

/-- One character inside a string. -/
def writtenChar (c : Char) : List Char :=
  match c with
  | '"' => ['\\', '"']
  | '\\' => ['\\', '\\']
  | '\x08' => ['\\', 'b']
  | '\x0c' => ['\\', 'f']
  | '\n' => ['\\', 'n']
  | '\r' => ['\\', 'r']
  | '\t' => ['\\', 't']
  | c =>
    if c.toNat < 0x20 then
      ['\\', 'u', '0', '0', Nat.digitChar (c.toNat / 16), Nat.digitChar (c.toNat % 16)]
    else [c]

/-- A string of a document. -/
def writtenString (s : String) : List Char :=
  '"' :: (s.toList.flatMap writtenChar ++ ['"'])

/-- A text; `kind` names what was expected when something else is found. -/
def textNamed (kind : String) : Codec String where
  read _ cs :=
    match skipGap cs with
    | '"' :: rest => string rest
    | cs => .error (wrongKind cs kind)
  write _ s := writtenString s

/-- A text. -/
def text : Codec String := textNamed "a string"

/-- A flag. -/
def flag : Codec Bool where
  read _ cs :=
    match skipGap cs with
    | 't' :: rest => do
      let rest ← word ['r', 'u', 'e'] rest
      .ok (true, rest)
    | 'f' :: rest => do
      let rest ← word ['a', 'l', 's', 'e'] rest
      .ok (false, rest)
    | cs => .error (wrongKind cs "a boolean")
  write _ b := if b then ['t', 'r', 'u', 'e'] else ['f', 'a', 'l', 's', 'e']

/-! ## Lists -/

/-- The parts of a container, each on a line of its own. -/
def writtenBlock (opening closing : Char) (indent : Nat) : List (List Char) → List Char
  | [] => [opening, closing]
  | part :: parts =>
    opening :: '\n' :: (List.replicate (indent + 2) ' ' ++ part
      ++ parts.flatMap (fun p => ',' :: '\n' :: (List.replicate (indent + 2) ' ' ++ p))
      ++ '\n' :: (List.replicate indent ' ' ++ [closing]))

/-- A list of values. -/
def listOf {α : Type} (c : Codec α) : Codec (List α) where
  read depth cs :=
    match skipGap cs with
    | '[' :: rest => list (c.read (depth - 1)) rest
    | cs => .error (wrongKind cs "a sequence")
  write indent xs := writtenBlock '[' ']' indent (xs.map (c.write (indent + 2)))

/-- A value that may be `null`. -/
def nullable {α : Type} (c : Codec α) : Codec (Option α) where
  read depth cs :=
    match skipGap cs with
    | 'n' :: rest => do
      let rest ← word ['u', 'l', 'l'] rest
      .ok (none, rest)
    | cs => do
      let (v, rest) ← c.read depth cs
      .ok (some v, rest)
  write indent v :=
    match v with
    | none => ['n', 'u', 'l', 'l']
    | some v => c.write indent v

/-! ## Records -/

/-- A part of a record: how it is looked up and replaced. -/
structure Part (σ α : Type) where
  /-- Look the part up. -/
  get : σ → α
  /-- Replace the part. -/
  set : α → σ → σ

/-- A field of a record. -/
structure Field (σ : Type) where
  /-- The key it is written under. -/
  key : String
  /-- Another key it is read under. -/
  oldKey : Option String
  /-- Reading fails without it. -/
  isRequired : Bool
  /-- Read the field's value; the result stores it. -/
  read : Nat → List Char → Except Error ((σ → σ) × List Char)
  /-- Write the field's value, unless it is left out. -/
  write : Nat → σ → Option (List Char)

/-- A record: its name in messages, the value in which every field is at its default, and its
fields in order. -/
structure Record (σ : Type) where
  /-- How messages name it. -/
  name : String
  /-- Every field at its default. -/
  start : σ
  /-- The fields in the order they are written. -/
  fields : List (Field σ)

/-- A field with a codec and a part, left out when `omits` says so. -/
def Field.of {σ α : Type} (key : String) (isRequired : Bool) (omits : α → Bool) (c : Codec α)
    (part : Part σ α) : Field σ where
  key := key
  oldKey := none
  isRequired := isRequired
  read depth cs := do
    let (v, rest) ← c.read depth cs
    .ok (part.set v, rest)
  write indent v := if omits (part.get v) then none else some (c.write indent (part.get v))

/-- A field that must be there. -/
def Field.required {σ α : Type} (key : String) (c : Codec α) (part : Part σ α) : Field σ :=
  Field.of key true (fun _ => false) c part

/-- A text that may be missing and is left out when empty. -/
def Field.text {σ : Type} (key : String) (part : Part σ String) : Field σ :=
  Field.of key false String.isEmpty Json.text part

/-- A list that may be missing and is left out when empty. -/
def Field.list {σ α : Type} (key : String) (c : Codec α) (part : Part σ (List α)) : Field σ :=
  Field.of key false List.isEmpty (listOf c) part

/-- A value that may be missing or `null` and is then left out. -/
def Field.option {σ α : Type} (key : String) (c : Codec α) (part : Part σ (Option α)) : Field σ :=
  Field.of key false Option.isNone (nullable c) part

/-- A flag that may be missing and is left out when it is off. -/
def Field.flag {σ : Type} (key : String) (c : Codec Bool) (part : Part σ Bool) : Field σ :=
  Field.of key false (fun b => !b) c part

/-- The same field, read under another key too. -/
def Field.orKey {σ : Type} (f : Field σ) (old : String) : Field σ :=
  { f with oldKey := some old }

/-- The field is spelled `key` in a document. -/
def Field.isKey {σ : Type} (f : Field σ) (key : String) : Bool :=
  f.key == key || f.oldKey == some key

/-- The members of an object in at most `fuel` steps: the fields read so far and the value they
have been stored in. A second value for a field is refused before it is read. -/
def Record.members {σ : Type} (r : Record σ) (depth : Nat) :
    Nat → Bool → List String → σ → List Char → Except Error (σ × List Char)
  | 0, _, _, _, _ => .error .eofObject
  | fuel + 1, first, seen, v, cs => do
    let (key, cs) ← nextKey first cs
    match key with
    | none =>
      match r.fields.find? (fun f => f.isRequired && !seen.contains f.key) with
      | some f => .error (.missingField f.key)
      | none => .ok (v, cs)
    | some key =>
      match r.fields.find? (fun f => f.isKey key) with
      | none =>
        let cs ← colon cs
        let cs ← skipValue cs
        r.members depth fuel false seen v cs
      | some f =>
        if seen.contains f.key then .error (.duplicateField f.key)
        else
          let cs ← colon cs
          let (store, cs) ← f.read depth cs
          r.members depth fuel false (f.key :: seen) (store v) cs

/-- The closing bracket of a record written as a list. -/
def closeRecord (cs : List Char) : Except Error (List Char) :=
  match skipGap cs with
  | [] => .error .eofList
  | ']' :: rest => .ok rest
  | ',' :: rest =>
    match skipGap rest with
    | ']' :: _ => .error .trailingComma
    | _ => .error .trailingCharacters
  | _ => .error .trailingCharacters

/-- The elements of a record written as a list: the fields still to come, the number of those
before them, and the value they have been stored in. -/
def Record.elements {σ : Type} (r : Record σ) (depth : Nat) :
    List (Field σ) → Nat → Bool → σ → List Char → Except Error (σ × List Char)
  | [], _, _, v, cs => do
    let cs ← closeRecord cs
    .ok (v, cs)
  | f :: rest, index, first, v, cs => do
    let (more, cs) ← nextItem first cs
    if more then
      let (store, cs) ← f.read depth cs
      r.elements depth rest (index + 1) false (store v) cs
    else if f.isRequired then .error (.tooShort index r.name r.fields.length)
    else r.elements depth rest (index + 1) first v cs

/-- The codec of a record. -/
def Record.codec {σ : Type} (r : Record σ) : Codec σ where
  read depth cs :=
    match skipGap cs with
    | '{' :: rest => r.members (depth - 1) (rest.length + 1) true [] r.start rest
    | '[' :: rest => r.elements (depth - 1) r.fields 0 true r.start rest
    | cs => .error (wrongKind cs ("struct " ++ r.name))
  write indent v :=
    writtenBlock '{' '}' indent (r.fields.filterMap fun f =>
      (f.write (indent + 2) v).map fun t => writtenString f.key ++ ':' :: ' ' :: t)

end DeviceSpec.Json
