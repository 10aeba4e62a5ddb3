import DeviceSpec.Text.Unprintable

/-!
# Quoted text

Messages show a name between double quotes when blanks or invisible characters in it matter. A
quotation mark and a backslash are written after a backslash, tab, line feed, carriage return and
NUL by their letter, and every other character without a glyph of its own by its number in braces.
An apostrophe stands for itself.
-/

namespace DeviceSpec.Text

/-- One character of a quoted text. -/
def quotedChar (c : Char) : List Char :=
  match c with
  | '"' => ['\\', '"']
  | '\\' => ['\\', '\\']
  | '\t' => ['\\', 't']
  | '\n' => ['\\', 'n']
  | '\r' => ['\\', 'r']
  | '\x00' => ['\\', '0']
  | c =>
    if isUnprintable c then
      '\\' :: 'u' :: '{' :: (Nat.toDigits 16 c.toNat ++ ['}'])
    else [c]

/-- A text between double quotes, with what would not be readable written by name or number. -/
def quoted (s : String) : String :=
  String.ofList ('"' :: (s.toList.flatMap quotedChar ++ ['"']))

/-- A set of names in braces, each quoted, in the order given. -/
def quotedSet (names : List String) : String :=
  "\x7b" ++ ", ".intercalate (names.map quoted) ++ "\x7d"

end DeviceSpec.Text
