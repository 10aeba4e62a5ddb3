import DeviceSpec.Json.Error

/-!
# The pieces of a document

Scanners for blanks, words, strings and numbers, and for a whole value that is passed over. Each
takes the characters still to be read and gives back what it found with the characters after it,
or the first fault.

A value that is passed over is checked less closely than one that is read: its numbers may be of
any size and its strings may hold half a surrogate pair.
-/

namespace DeviceSpec.Json

/-- Blanks between the pieces of a document. -/
def isGap (c : Char) : Bool :=
  c == ' ' || c == '\n' || c == '\t' || c == '\r'

/-- The document after any blanks. -/
def skipGap (cs : List Char) : List Char :=
  cs.dropWhile isGap

/-- Pass over the characters of a word. -/
def word : List Char → List Char → Except Error (List Char)
  | [], rest => .ok rest
  | _ :: _, [] => .error .eofValue
  | w :: ws, c :: rest => if c = w then word ws rest else .error .expectedWord

/-! ## Strings -/

/-- The value of a hexadecimal digit. -/
def hexDigit? (c : Char) : Option Nat :=
  if '0' ≤ c ∧ c ≤ '9' then some (c.toNat - '0'.toNat)
  else if 'a' ≤ c ∧ c ≤ 'f' then some (c.toNat - 'a'.toNat + 10)
  else if 'A' ≤ c ∧ c ≤ 'F' then some (c.toNat - 'A'.toNat + 10)
  else none

/-- The four hexadecimal digits of an escape. They are looked at together: a document with fewer
than four bytes left ends too early, whatever the bytes are. -/
def hexEscape (cs : List Char) : Except Error (Nat × List Char) :=
  if (String.ofList (cs.take 4)).utf8ByteSize < 4 then .error .eofString
  else
    match cs with
    | a :: b :: c :: d :: rest =>
      match hexDigit? a, hexDigit? b, hexDigit? c, hexDigit? d with
      | some a, some b, some c, some d => .ok (((a * 16 + b) * 16 + c) * 16 + d, rest)
      | _, _, _, _ => .error .invalidEscape
    | _ => .error .invalidEscape

/-- The first half of a surrogate pair. -/
def isHighSurrogate (n : Nat) : Bool := decide (0xD800 ≤ n) && decide (n ≤ 0xDBFF)

/-- The second half of a surrogate pair. -/
def isLowSurrogate (n : Nat) : Bool := decide (0xDC00 ≤ n) && decide (n ≤ 0xDFFF)

/-- The second half of a surrogate pair whose first half is `high`. -/
def lowSurrogate (high : Nat) : List Char → Except Error (Char × List Char)
  | [] => .error .eofString
  | ['\\'] => .error .eofString
  | '\\' :: 'u' :: rest => do
    let (low, rest) ← hexEscape rest
    if isLowSurrogate low then
      .ok (Char.ofNat ((high - 0xD800) * 0x400 + (low - 0xDC00) + 0x10000), rest)
    else .error .loneSurrogate
  | _ => .error .unfinishedPair

/-- The character that the letter after a backslash stands for, except `u`. -/
def shortEscape? : Char → Option Char
  | '"' => some '"'
  | '\\' => some '\\'
  | '/' => some '/'
  | 'b' => some '\x08'
  | 'f' => some '\x0c'
  | 'n' => some '\n'
  | 'r' => some '\r'
  | 't' => some '\t'
  | _ => none

/-- What follows a backslash. -/
def escape : List Char → Except Error (Char × List Char)
  | [] => .error .eofString
  | 'u' :: rest => do
    let (n, rest) ← hexEscape rest
    if isLowSurrogate n then .error .loneSurrogate
    else if isHighSurrogate n then lowSurrogate n rest
    else .ok (Char.ofNat n, rest)
  | c :: rest =>
    match shortEscape? c with
    | some d => .ok (d, rest)
    | none => .error .invalidEscape

/-- The characters of a string up to its closing quotation mark, in at most `fuel` steps. -/
def stringBody : Nat → List Char → Except Error (List Char × List Char)
  | 0, _ => .error .eofString
  | fuel + 1, cs =>
    match cs with
    | [] => .error .eofString
    | '"' :: rest => .ok ([], rest)
    | '\\' :: rest => do
      let (c, rest) ← escape rest
      let (s, rest) ← stringBody fuel rest
      .ok (c :: s, rest)
    | c :: rest =>
      if c.toNat < 0x20 then .error .controlCharacter
      else do
        let (s, rest) ← stringBody fuel rest
        .ok (c :: s, rest)

/-- A string whose opening quotation mark has been read. Each step takes a character. -/
def string (cs : List Char) : Except Error (String × List Char) := do
  let (s, rest) ← stringBody (cs.length + 1) cs
  .ok (String.ofList s, rest)

/-- What follows a backslash in a string that is passed over. -/
def skipEscape : List Char → Except Error (List Char)
  | [] => .error .eofString
  | 'u' :: rest => do
    let (_, rest) ← hexEscape rest
    .ok rest
  | c :: rest => if (shortEscape? c).isSome then .ok rest else .error .invalidEscape

/-- Pass over the characters of a string in at most `fuel` steps. -/
def skipStringBody : Nat → List Char → Except Error (List Char)
  | 0, _ => .error .eofString
  | fuel + 1, cs =>
    match cs with
    | [] => .error .eofString
    | '"' :: rest => .ok rest
    | '\\' :: rest => do
      let rest ← skipEscape rest
      skipStringBody fuel rest
    | c :: rest => if c.toNat < 0x20 then .error .controlCharacter else skipStringBody fuel rest

/-- Pass over a string whose opening quotation mark has been read. -/
def skipString (cs : List Char) : Except Error (List Char) :=
  skipStringBody (cs.length + 1) cs

/-! ## Numbers -/

/-- The value of a decimal digit. -/
def digitValue (c : Char) : Nat := c.toNat - '0'.toNat

/-- Digits gathered as long as they fit 64 bits. -/
structure Gathered where
  /-- The value of the digits that fit. -/
  significand : Nat
  /-- How many digits were gathered. -/
  taken : Nat
  /-- How many digits came after the first that did not fit, that one included. -/
  dropped : Nat

/-- Gather one more digit. -/
def Gathered.push (g : Gathered) (c : Char) : Gathered :=
  if g.dropped = 0 ∧ g.significand * 10 + digitValue c < powerOfTwo 64 then
    ⟨g.significand * 10 + digitValue c, g.taken + 1, 0⟩
  else ⟨g.significand, g.taken, g.dropped + 1⟩

/-- Divide by ten to the power `n`, by at most ten to the power 308 at a time. -/
def divideByPower (x : Float) (n : Nat) : Float :=
  if n ≤ 308 then x / Float.ofScientific 1 false n
  else if x == 0 then x
  else divideByPower (x / Float.ofScientific 1 false 308) (n - 308)
termination_by n

/-- The double nearest to `significand` times or divided by a power of ten. Sizes beyond the range
of doubles are refused. -/
def scaled (negative : Bool) (significand : Nat) (power : Int) : Except Error Number :=
  let x := Float.ofNat significand
  let signed (y : Float) : Number := .real (if negative then -y else y)
  if 0 ≤ power then
    if power ≤ 308 then
      let y := x * Float.ofScientific 1 false power.toNat
      if y.isInf then .error .numberOutOfRange else .ok (signed y)
    else if significand = 0 then .ok (signed x)
    else .error .numberOutOfRange
  else .ok (signed (divideByPower x power.natAbs))

/-- The digits at the front of a document, and the rest. -/
def spanDigits (cs : List Char) : List Char × List Char :=
  cs.span Char.isDigit

/-- The exponent part, whose letter has been read. -/
def exponentPart (negative : Bool) (significand : Nat) (power : Int) (cs : List Char) :
    Except Error (Number × List Char) :=
  let (down, cs) := match cs with
    | '+' :: rest => (false, rest)
    | '-' :: rest => (true, rest)
    | cs => (false, cs)
  let (digits, rest) := spanDigits cs
  match digits with
  | [] => .error (if cs.isEmpty then .eofValue else .invalidNumber)
  | digits => do
    let size := digits.foldl (fun n c => n * 10 + digitValue c) 0
    if size < powerOfTwo 31 then
      let n ← scaled negative significand (if down then power - size else power + size)
      .ok (n, rest)
    else if significand ≠ 0 ∧ !down then .error .numberOutOfRange
    else .ok (.real (if negative then -0.0 else 0.0), rest)

/-- The exponent part if there is one. -/
def afterFraction (negative : Bool) (significand : Nat) (power : Int) :
    List Char → Except Error (Number × List Char)
  | 'e' :: rest => exponentPart negative significand power rest
  | 'E' :: rest => exponentPart negative significand power rest
  | cs => do
    let n ← scaled negative significand power
    .ok (n, cs)

/-- The fraction, whose point has been read. Digits after the first that does not fit are of no
account. -/
def fractionPart (negative : Bool) (significand : Nat) (power : Int) (cs : List Char) :
    Except Error (Number × List Char) :=
  let (digits, rest) := spanDigits cs
  match digits with
  | [] => .error (if cs.isEmpty then .eofValue else .invalidNumber)
  | digits =>
    let g := digits.foldl Gathered.push ⟨significand, 0, 0⟩
    afterFraction negative g.significand (power - g.taken) rest

/-- A whole number without fraction or exponent. -/
def wholeNumber (negative : Bool) (significand : Nat) : Number :=
  if !negative then .whole significand
  else if 0 < significand ∧ significand ≤ powerOfTwo 63 then .whole (-(significand : Int))
  else .real (-(Float.ofNat significand))

/-- A number whose sign has been read. -/
def number (negative : Bool) (cs : List Char) : Except Error (Number × List Char) :=
  let (digits, rest) := spanDigits cs
  match digits with
  | [] => .error (if cs.isEmpty then .eofValue else .invalidNumber)
  | '0' :: _ :: _ => .error .invalidNumber
  | digits =>
    let g := digits.foldl Gathered.push ⟨0, 0, 0⟩
    match rest with
    | '.' :: rest => fractionPart negative g.significand g.dropped rest
    | rest =>
      if g.dropped = 0 ∧ rest.head? ≠ some 'e' ∧ rest.head? ≠ some 'E' then
        .ok (wholeNumber negative g.significand, rest)
      else afterFraction negative g.significand g.dropped rest

/-- Digits of which there must be at least one. -/
def skipDigits (cs : List Char) : Except Error (List Char) :=
  match spanDigits cs with
  | ([], _) => .error .invalidNumber
  | (_, rest) => .ok rest

/-- Pass over the exponent part if there is one. -/
def skipExponent : List Char → Except Error (List Char)
  | 'e' :: rest => skipSigned rest
  | 'E' :: rest => skipSigned rest
  | cs => .ok cs
where
  /-- The digits of an exponent, after its sign. -/
  skipSigned : List Char → Except Error (List Char)
    | '+' :: rest => skipDigits rest
    | '-' :: rest => skipDigits rest
    | cs => skipDigits cs

/-- Pass over a number whose sign has been read. -/
def skipNumber (cs : List Char) : Except Error (List Char) :=
  match spanDigits cs with
  | ([], _) => .error .invalidNumber
  | ('0' :: _ :: _, _) => .error .invalidNumber
  | (_, '.' :: rest) => do
    let rest ← skipDigits rest
    skipExponent rest
  | (_, rest) => skipExponent rest

/-! ## Lists and objects -/

/-- Find the next element of a list: `true` with the document at the element, or `false` with the
document at the closing bracket. -/
def nextItem (first : Bool) (cs : List Char) : Except Error (Bool × List Char) :=
  match skipGap cs with
  | [] => .error .eofList
  | ']' :: rest => .ok (false, ']' :: rest)
  | c :: rest =>
    if first then .ok (true, c :: rest)
    else if c = ',' then
      match skipGap rest with
      | [] => .error .eofValue
      | ']' :: _ => .error .trailingComma
      | rest => .ok (true, rest)
    else .error .expectedListComma

/-- Find the key of the next member of an object: the key, or nothing with the document after the
closing brace. -/
def nextKey (first : Bool) (cs : List Char) : Except Error (Option String × List Char) :=
  match skipGap cs with
  | [] => .error .eofObject
  | '}' :: rest => .ok (none, rest)
  | c :: rest =>
    if first then
      if c = '"' then key rest else .error .keyNotText
    else if c = ',' then
      match skipGap rest with
      | [] => .error .eofValue
      | '"' :: rest => key rest
      | '}' :: _ => .error .trailingComma
      | _ => .error .keyNotText
    else .error .expectedObjectComma
where
  /-- A key whose quotation mark has been read. -/
  key (cs : List Char) : Except Error (Option String × List Char) := do
    let (s, rest) ← string cs
    .ok (some s, rest)

/-- The colon between a key and its value. -/
def colon (cs : List Char) : Except Error (List Char) :=
  match skipGap cs with
  | [] => .error .eofObject
  | ':' :: rest => .ok rest
  | _ => .error .expectedColon

/-- The elements of a list whose bracket has been read, in at most `fuel` steps. -/
def items {α : Type} (item : List Char → Except Error (α × List Char)) :
    Nat → Bool → List Char → Except Error (List α × List Char)
  | 0, _, _ => .error .eofList
  | fuel + 1, first, cs => do
    let (more, cs) ← nextItem first cs
    if more then
      let (x, cs) ← item cs
      let (xs, cs) ← items item fuel false cs
      .ok (x :: xs, cs)
    else .ok ([], cs.drop 1)

/-- The elements of a list whose bracket has been read. Each takes a character. -/
def list {α : Type} (item : List Char → Except Error (α × List Char)) (cs : List Char) :
    Except Error (List α × List Char) :=
  items item (cs.length + 1) true cs

/-! ## Values that are passed over -/

/-- Pass over the elements of a list: `skip` passes over one. A comma asks for a value. -/
def skipItems (skip : List Char → Except Error (List Char)) :
    Nat → Bool → List Char → Except Error (List Char)
  | 0, _, _ => .error .eofList
  | fuel + 1, first, cs =>
    match skipGap cs with
    | [] => .error .eofList
    | ']' :: rest => .ok rest
    | c :: rest =>
      if first then do
        let rest ← skip (c :: rest)
        skipItems skip fuel false rest
      else if c = ',' then do
        let rest ← skip rest
        skipItems skip fuel false rest
      else .error .expectedListComma

/-- Pass over the members of an object: `skip` passes over one value. A comma asks for a key. -/
def skipMembers (skip : List Char → Except Error (List Char)) :
    Nat → Bool → List Char → Except Error (List Char)
  | 0, _, _ => .error .eofObject
  | fuel + 1, first, cs =>
    match skipGap cs with
    | [] => .error .eofObject
    | '}' :: rest => .ok rest
    | c :: rest =>
      if first then do
        let rest ← member (c :: rest)
        skipMembers skip fuel false rest
      else if c = ',' then do
        let rest ← member (skipGap rest)
        skipMembers skip fuel false rest
      else .error .expectedObjectComma
where
  /-- A key, its colon and its value. -/
  member : List Char → Except Error (List Char)
    | [] => .error .eofObject
    | '"' :: rest => do
      let rest ← skipString rest
      let rest ← colon rest
      skip rest
    | _ => .error .keyNotText

/-- Pass over a value, at most `fuel` containers deep. -/
def skipNested : Nat → List Char → Except Error (List Char)
  | 0, _ => .error .eofValue
  | fuel + 1, cs =>
    match skipGap cs with
    | [] => .error .eofValue
    | 'n' :: rest => word ['u', 'l', 'l'] rest
    | 't' :: rest => word ['r', 'u', 'e'] rest
    | 'f' :: rest => word ['a', 'l', 's', 'e'] rest
    | '"' :: rest => skipString rest
    | '[' :: rest => skipItems (skipNested fuel) (rest.length + 1) true rest
    | '{' :: rest => skipMembers (skipNested fuel) (rest.length + 1) true rest
    | '-' :: rest => skipNumber rest
    | c :: rest => if c.isDigit then skipNumber (c :: rest) else .error .expectedValue

/-- Pass over a value. Each container takes a character. -/
def skipValue (cs : List Char) : Except Error (List Char) :=
  skipNested (cs.length + 1) cs

/-! ## Values of any form -/

/-- What is remembered of a value of any form. -/
inductive Loose where
  | flag (b : Bool)
  | text (s : String)
  | other

/-- The members of an object of any form, in at most `fuel` steps. -/
def looseMembers (value : List Char → Except Error (Loose × List Char)) :
    Nat → Bool → List Char → Except Error (List Char)
  | 0, _, _ => .error .eofObject
  | fuel + 1, first, cs => do
    let (key, cs) ← nextKey first cs
    match key with
    | none => .ok cs
    | some _ =>
      let cs ← colon cs
      let (_, cs) ← value cs
      looseMembers value fuel false cs

/-- A value of any form, with `depth` counting down the containers around it. -/
def loose : Nat → List Char → Except Error (Loose × List Char)
  | 0, _ => .error .tooDeep
  | depth + 1, cs =>
    match skipGap cs with
    | [] => .error .eofValue
    | 'n' :: rest => do
      let rest ← word ['u', 'l', 'l'] rest
      .ok (.other, rest)
    | 't' :: rest => do
      let rest ← word ['r', 'u', 'e'] rest
      .ok (.flag true, rest)
    | 'f' :: rest => do
      let rest ← word ['a', 'l', 's', 'e'] rest
      .ok (.flag false, rest)
    | '"' :: rest => do
      let (s, rest) ← string rest
      .ok (.text s, rest)
    | '[' :: rest =>
      if depth = 0 then .error .tooDeep
      else do
        let (_, rest) ← list (loose depth) rest
        .ok (.other, rest)
    | '{' :: rest =>
      if depth = 0 then .error .tooDeep
      else do
        let rest ← looseMembers (loose depth) (rest.length + 1) true rest
        .ok (.other, rest)
    | '-' :: rest => do
      let (_, rest) ← number true rest
      .ok (.other, rest)
    | c :: rest =>
      if c.isDigit then do
        let (_, rest) ← number false (c :: rest)
        .ok (.other, rest)
      else .error .expectedValue

/-- The error for a value of another kind than `expected`. Words, strings and numbers are read to
be named, so a fault inside them comes first. -/
def wrongKind (cs : List Char) (expected : String) : Error :=
  match cs with
  | [] => .eofValue
  | 'n' :: rest => found .null (word ['u', 'l', 'l'] rest)
  | 't' :: rest => found (.flag true) (word ['r', 'u', 'e'] rest)
  | 'f' :: rest => found (.flag false) (word ['a', 'l', 's', 'e'] rest)
  | '"' :: rest => scanned Found.text (string rest)
  | '[' :: _ => .wrongKind .list expected
  | '{' :: _ => .wrongKind .object expected
  | '-' :: rest => scanned Found.number (number true rest)
  | c :: rest =>
    if c.isDigit then scanned Found.number (number false (c :: rest)) else .expectedValue
where
  /-- The error once a word has been read. -/
  found (f : Found) : Except Error (List Char) → Error
    | .error e => e
    | .ok _ => .wrongKind f expected
  /-- The error once a string or number has been read. -/
  scanned {α : Type} (f : α → Found) : Except Error (α × List Char) → Error
    | .error e => e
    | .ok (x, _) => .wrongKind (f x) expected

end DeviceSpec.Json
