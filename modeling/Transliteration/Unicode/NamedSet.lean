import Transliteration.Unicode.Category
import Transliteration.Unicode.Script
import Transliteration.Unicode.ScriptExtension
import Transliteration.Unicode.BinaryProperty
import Transliteration.Unicode.Age
import Transliteration.Unicode.Segmentation

/-!
# Sets of characters by name

What a pattern may write between the braces of `\p{...}`: a binary property, a general category or
a script by itself, or a property together with one of its values.
-/

namespace Transliteration.Unicode

/-- The set of a general category, of a group of categories, or of one of the three names that
stand beside them: `any`, `assigned` and `ascii`. -/
def categorySet? (name : String) : Option CharSet :=
  if named "any" name then some .all
  else if named "assigned" name then some (category "Cn").complement
  else if named "ascii" name then some (.ofRange 0 0x7F)
  else match lookup categoryTable name with
    | some set => some set
    | none => (categoryGroups.find? fun (names, _) => named names name).map fun (_, members) =>
      categories members

/-- The set that a single name stands for.  A binary property comes before a category and a category
before a script, except that `cf`, `sc` and `lc` are always categories. -/
def namedSet? (name : String) : Option CharSet :=
  let asBinary := if named "cf sc lc" name then none else lookup binaryTable name
  (asBinary.orElse fun _ => categorySet? name).orElse fun _ => lookup scriptTable name

/-- The set of the characters for which a property has a value. -/
def valueSet? (property value : String) : Option CharSet :=
  if named "gc General_Category" property then categorySet? value
  else if named "sc Script" property then lookup scriptTable value
  else if named "scx Script_Extensions" property then lookup scriptExtensionTable value
  else if named "age" property then assignedBy value
  else if named "GCB Grapheme_Cluster_Break" property then lookup graphemeBreakTable value
  else if named "WB Word_Break" property then lookup wordBreakTable value
  else if named "SB Sentence_Break" property then lookup sentenceBreakTable value
  else none

end Transliteration.Unicode
