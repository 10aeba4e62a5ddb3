import DeviceSpec.Spec.Basic

/-!
# The manifest

The services that the vendor part of the system offers, HALs in the order of their names. Text from
the description is written with entities in place of the characters that would be markup.

* `escapeMarkup` puts the entities in for one character after the other, beginning with the one
  that all entities begin with.
-/

namespace DeviceSpec

/-- A text with one character replaced wherever it stands. -/
def replaceChar (c : Char) (word s : String) : String :=
  String.ofList (s.toList.flatMap fun d => if d = c then word.toList else [d])

/-- A text with entities for markup. -/
def escapeMarkup (s : String) : String :=
  replaceChar '"' "&quot;" <| replaceChar '>' "&gt;" <| replaceChar '<' "&lt;" <|
    replaceChar '&' "&amp;" s

/-- An element that holds a text. -/
def element (tag content : String) : String :=
  "<" ++ tag ++ ">" ++ escapeMarkup content ++ "</" ++ tag ++ ">"

/-- The lines of the way a service is reached. -/
def Transport.line (t : Transport) : String :=
  if t.arch.isEmpty then "        " ++ element "transport" t.mode
  else
    "        <transport arch=\"" ++ escapeMarkup t.arch ++ "\">" ++ escapeMarkup t.mode
      ++ "</transport>"

/-- The lines of a manifest entry. -/
def ManifestEntry.lines (m : ManifestEntry) : List String :=
  ["    <hal format=\"" ++ escapeMarkup m.format ++ "\">",
   "        " ++ element "name" m.name,
   m.transport.line]
    ++ (match m.implementation with
        | some i => ["        <impl level=\"" ++ escapeMarkup i.level ++ "\"></impl>"]
        | none => [])
    ++ ["        " ++ element "version" m.version,
        "        <interface>",
        "            " ++ element "name" m.interface.name,
        "            " ++ element "instance" m.interface.instanceName,
        "        </interface>",
        "    </hal>"]

/-- The manifest entries of a device. -/
def Spec.manifestEntries (s : Spec) : List ManifestEntry := s.halsByName.flatMap Hal.manifest

/-- The manifest of a device. -/
def Spec.manifest (s : Spec) : String :=
  Text.unlines (["<manifest version=\"1.0\" type=\"device\">"]
    ++ s.manifestEntries.flatMap ManifestEntry.lines ++ ["</manifest>"])

end DeviceSpec
