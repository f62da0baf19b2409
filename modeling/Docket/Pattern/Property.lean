import Docket.Pattern.AgeTable
import Docket.Pattern.BreakTable
import Docket.Pattern.CategoryTable
import Docket.Pattern.PropertyTable
import Docket.Pattern.ScriptTable

/-! Sets of characters that patterns refer to by name. -/

namespace Docket.Pattern

/-- Whether a text begins with "is", in letters of any case. -/
def hasIs : Text → Bool
  | first :: second :: _ => first.toLower == 'i' && second.toLower == 's'
  | _ => false

/-- The form in which names are compared: ASCII only, in small letters, without blanks,
underscores, hyphens and a leading "is". The name "isc" keeps its "is". -/
def symbolicName (name : Text) : Text :=
  let letters := (if hasIs name then name.drop 2 else name).filter fun char =>
    char.toNat ≤ 0x7F && char != ' ' && char != '_' && char != '-'
  let lowered := letters.map Char.toLower
  if hasIs name && lowered == ['c'] then "isc".toList else lowered

/-- All characters. -/
def anySet : CharSet :=
  CharSet.empty.complement

/-- The union of general categories, given by their short names. -/
def categories (names : List String) : CharSet :=
  names.foldl (fun set name => set.union ((findSet? categoryTable name.toList).getD .empty)) .empty

/-- The general categories that are unions of others: their names and parts. -/
def categoryUnions : List (List String × List String) := [
  (["c", "other"], ["cc", "cf", "cn", "co"]),
  (["l", "letter"], ["ll", "lm", "lo", "lt", "lu"]),
  (["lc", "casedletter"], ["ll", "lt", "lu"]),
  (["m", "mark", "combiningmark"], ["mc", "me", "mn"]),
  (["n", "number"], ["nd", "nl", "no"]),
  (["p", "punctuation", "punct"], ["pc", "pd", "pe", "pf", "pi", "po", "ps"]),
  (["s", "symbol"], ["sc", "sk", "sm", "so"]),
  (["z", "separator"], ["zl", "zp", "zs"])]

/-- The set of a general category. -/
def categorySet? (name : Text) : Option CharSet :=
  if name == "any".toList then some anySet
  else if name == "assigned".toList then some (categories ["cn"]).complement
  else if name == "ascii".toList then some ⟨[(0, 0x7F)]⟩
  else match categoryUnions.find? fun (names, _) => names.any (·.toList == name) with
    | some (_, parts) => some (categories parts)
    | none => findSet? categoryTable name

/-- The set of the characters that are used to write a script. -/
def extendedScript? (name : Text) : Option CharSet :=
  (findSet? scriptExtensionTable name).orElse fun _ => findSet? scriptTable name

/-- The set that a name stands for: a property, a general category or a script. -/
def namedSet? (name : Text) : Option CharSet :=
  let name := symbolicName name
  (findSet? propertyTable name).orElse fun _ =>
    (categorySet? name).orElse fun _ => findSet? scriptTable name

/-- The set of the characters that a version of Unicode and those before it have assigned. -/
def agedSet? (version : Text) : Option CharSet :=
  let rows := ageTable.takeWhile fun row => !row.names.any (·.toList == version)
  (findSet? ageTable version).map fun set =>
    rows.foldl (fun union row => union.union row.set) set

/-- The properties that have values: their names, and the sets of their values. -/
def valuedProperties : List (List String × (Text → Option CharSet)) := [
  (["age"], agedSet?),
  (["gc", "generalcategory"], categorySet?),
  (["gcb", "graphemeclusterbreak"], findSet? graphemeTable),
  (["sb", "sentencebreak"], findSet? sentenceTable),
  (["sc", "script"], findSet? scriptTable),
  (["scx", "scriptextensions"], extendedScript?),
  (["wb", "wordbreak"], findSet? wordTable)]

/-- The set of the characters for which a property has a value. -/
def valueSet? (property value : Text) : Option CharSet :=
  let property := symbolicName property
  (valuedProperties.find? fun (names, _) => names.any (·.toList == property)).bind
    fun (_, set?) => set? (symbolicName value)

/-- Decimal digits of all scripts. -/
def digitSet : CharSet :=
  categories ["nd"]

/-- White space. -/
def spaceSet : CharSet :=
  (namedSet? "whitespace".toList).getD .empty

/-- The characters of words: letters, marks, decimal digits, connecting punctuation, joiners. -/
def wordSet : CharSet :=
  (((namedSet? "alphabetic".toList).getD .empty).union
    ((namedSet? "joincontrol".toList).getD .empty)).union
    (categories ["mc", "me", "mn", "nd", "pc"])

/-- Letters that Unicode has gained since the tables were made. -/
def addedLetters : NamedRanges :=
  ⟨["added"],
    ["88f 3cd 80 9af2+1 3 2 1d 614f+19 56c+2 33+1 c65+7 249+2b 50c5+18 3+18 11f+4 1802+7",
     "50a+15 62+72 58ce+1e 2+15 9+1 d03b+5 1763+b 5503+10c9"]⟩

/-- Numbers that Unicode has gained since the tables were made. -/
def addedNumbers : NamedRanges :=
  ⟨["added"], ["11de0+9 520b+2"]⟩

/-- Letters and the like, with which the name of a group may begin. -/
def alphabeticSet : CharSet :=
  ((namedSet? "alphabetic".toList).getD .empty).union addedLetters.set

/-- Numbers of all scripts, which the name of a group may have too. -/
def numericSet : CharSet :=
  (categories ["nd", "nl", "no"]).union addedNumbers.set

/-- Decimal digits of ASCII. -/
def asciiDigitSet : CharSet :=
  ⟨[(0x30, 0x39)]⟩

/-- White space of ASCII. -/
def asciiSpaceSet : CharSet :=
  ⟨[(0x09, 0x0D), (0x20, 0x20)]⟩

/-- The characters of words in ASCII. -/
def asciiWordSet : CharSet :=
  ⟨[(0x30, 0x39), (0x41, 0x5A), (0x5F, 0x5F), (0x61, 0x7A)]⟩

/-- The sets of ASCII that have a name of their own. -/
def asciiSets : List (String × List (Nat × Nat)) := [
  ("alnum", [(0x30, 0x39), (0x41, 0x5A), (0x61, 0x7A)]),
  ("alpha", [(0x41, 0x5A), (0x61, 0x7A)]),
  ("ascii", [(0, 0x7F)]),
  ("blank", [(0x09, 0x09), (0x20, 0x20)]),
  ("cntrl", [(0, 0x1F), (0x7F, 0x7F)]),
  ("digit", [(0x30, 0x39)]),
  ("graph", [(0x21, 0x7E)]),
  ("lower", [(0x61, 0x7A)]),
  ("print", [(0x20, 0x7E)]),
  ("punct", [(0x21, 0x2F), (0x3A, 0x40), (0x5B, 0x60), (0x7B, 0x7E)]),
  ("space", [(0x09, 0x0D), (0x20, 0x20)]),
  ("upper", [(0x41, 0x5A)]),
  ("word", [(0x30, 0x39), (0x41, 0x5A), (0x5F, 0x5F), (0x61, 0x7A)]),
  ("xdigit", [(0x30, 0x39), (0x41, 0x46), (0x61, 0x66)])]

/-- The set of ASCII that a name stands for. -/
def asciiSet? (name : Text) : Option CharSet :=
  (asciiSets.find? fun (known, _) => known.toList == name).map fun (_, ranges) => ⟨ranges⟩

end Docket.Pattern
