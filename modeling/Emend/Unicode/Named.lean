import Emend.Unicode.Age
import Emend.Unicode.Script
import Emend.Unicode.Segment
/-!
# Sets of characters by name

Patterns name sets of characters by general category, script and binary
property.  Names are compared loosely: case, blanks, hyphens and underscores
do not count, and neither does a leading "is".

A name alone is a binary property, a category or a script, in this order; three
short names that are both are categories.  A name with a value is a category, a
script, the list of scripts that share a character, an age, or a class of text
segmentation.
-/

namespace Emend.Named

/-- The form of a name in which names are compared. -/
def looseName (name : List Char) : String :=
  let counts (c : Char) : Bool := c.toNat < 0x80 && c != ' ' && c != '_' && c != '-'
  let kept := (name.filter counts).map Char.toLower
  match name.map Char.toLower, kept with
  | 'i' :: 's' :: _, 'i' :: 's' :: rest =>
    if rest = ['c'] then "isc" else String.ofList rest
  | _, _ => String.ofList kept

/-- The names of the categories, in loose form. -/
def categoryNames : List (List String × List Category) :=
  [(["lu", "uppercaseletter"], [.lu]), (["ll", "lowercaseletter"], [.ll]),
   (["lt", "titlecaseletter"], [.lt]), (["lm", "modifierletter"], [.lm]),
   (["lo", "otherletter"], [.lo]), (["mn", "nonspacingmark"], [.mn]),
   (["mc", "spacingmark"], [.mc]), (["me", "enclosingmark"], [.me]),
   (["nd", "decimalnumber", "digit"], [.nd]), (["nl", "letternumber"], [.nl]),
   (["no", "othernumber"], [.no]), (["pc", "connectorpunctuation"], [.pc]),
   (["pd", "dashpunctuation"], [.pd]), (["ps", "openpunctuation"], [.ps]),
   (["pe", "closepunctuation"], [.pe]), (["pi", "initialpunctuation"], [.pi]),
   (["pf", "finalpunctuation"], [.pf]), (["po", "otherpunctuation"], [.po]),
   (["sm", "mathsymbol"], [.sm]), (["sc", "currencysymbol"], [.sc]),
   (["sk", "modifiersymbol"], [.sk]), (["so", "othersymbol"], [.so]),
   (["zs", "spaceseparator"], [.zs]), (["zl", "lineseparator"], [.zl]),
   (["zp", "paragraphseparator"], [.zp]), (["cc", "control", "cntrl"], [.cc]),
   (["cf", "format"], [.cf]), (["co", "privateuse"], [.co]), (["cn", "unassigned"], [.cn]),
   (["lc", "casedletter"], [.lu, .ll, .lt]),
   (["l", "letter"], [.lu, .ll, .lt, .lm, .lo]),
   (["m", "mark", "combiningmark"], [.mn, .mc, .me]),
   (["n", "number"], [.nd, .nl, .no]),
   (["p", "punctuation", "punct"], [.pc, .pd, .ps, .pe, .pi, .pf, .po]),
   (["s", "symbol"], [.sm, .sc, .sk, .so]),
   (["z", "separator"], [.zs, .zl, .zp]),
   (["c", "other"], [.cc, .cf, .co, .cn])]

/-- The characters of a category, or of a union of categories, of a name. -/
def category? (name : String) : Option CharSet :=
  if name == "any" then some CharSet.all
  else if name == "assigned" then some Category.assigned
  else if name == "ascii" then some ⟨[⟨0, 0x7F⟩]⟩
  else (categoryNames.find? fun (names, _) => names.contains name).map fun (_, cs) =>
    CharSet.unions (cs.map Category.chars)

/-- The characters that a name alone stands for. -/
def set? (name : List Char) : Option CharSet :=
  let name := looseName name
  let property :=
    if ["cf", "sc", "lc"].contains name then none else UnicodeProperty.find? name
  match property with
  | some p => some p.chars
  | none =>
    match category? name with
    | some s => some s
    | none => (UnicodeScript.find? name).map UnicodeScript.chars

/-- The characters for which a property has a value. -/
def valueSet? (property value : List Char) : Option CharSet :=
  let value := looseName value
  match looseName property with
  | "gc" | "generalcategory" => category? value
  | "sc" | "script" => (UnicodeScript.find? value).map UnicodeScript.chars
  | "scx" | "scriptextensions" => (UnicodeScript.find? value).map UnicodeScript.extendedChars
  | "age" => Age.find? value
  | "gcb" | "graphemeclusterbreak" => Segment.find? Segment.graphemeClasses value
  | "wb" | "wordbreak" => Segment.find? Segment.wordClasses value
  | "sb" | "sentencebreak" => Segment.find? Segment.sentenceClasses value
  | _ => none

end Emend.Named
