import Classpath.Regex.CharSet
import Classpath.Unicode.Script
import Classpath.Text.Basic

/-!
# Properties by name

How an expression names a property of characters: a binary property, a general category or a
script by its name alone, or a category or script behind the name of what it is. Names are
compared without case, blanks, hyphens, underscores and a leading `is`.

## Main definitions

* `CharSet.ofProperty?`, `CharSet.ofPropertyValue?`.
-/

namespace Classpath

open Unicode

namespace Regex

/-- A name as names are compared. The name `isc` is kept apart, since what is left of it
would be a category. -/
def normalizeName (name : String) : String :=
  let fold (cs : List Char) : List Char :=
    (cs.filter fun c => c != ' ' && c != '_' && c != '-' && c.toNat < 128).map Char.toLower
  match name.toList with
  | i :: s :: rest =>
    if i.toLower = 'i' && s.toLower = 's' then
      let rest := fold rest
      if rest = ['c'] then "isc" else String.ofList rest
    else String.ofList (fold (i :: s :: rest))
  | short => String.ofList (fold short)

/-- The general categories under their names. Surrogates are no characters, so their
category has no name here. -/
def categories : List (List String × CodeSet) := [
  (["any"], .everything),
  (["assigned"], Category.assigned),
  (["ascii"], .of [⟨#[(0, 127)]⟩]),
  (["l", "letter"], Category.letter),
  (["lc", "casedletter"], Category.casedLetter),
  (["lu", "uppercaseletter"], .of [Category.uppercaseLetter]),
  (["ll", "lowercaseletter"], .of [Category.lowercaseLetter]),
  (["lt", "titlecaseletter"], .of [Category.titlecaseLetter]),
  (["lm", "modifierletter"], .of [Category.modifierLetter]),
  (["lo", "otherletter"], .of [Category.otherLetter]),
  (["m", "mark", "combiningmark"], Category.mark),
  (["mn", "nonspacingmark"], .of [Category.nonspacingMark]),
  (["mc", "spacingmark"], .of [Category.spacingMark]),
  (["me", "enclosingmark"], .of [Category.enclosingMark]),
  (["n", "number"], Category.number),
  (["nd", "decimalnumber", "digit"], .of [Category.decimalNumber]),
  (["nl", "letternumber"], .of [Category.letterNumber]),
  (["no", "othernumber"], .of [Category.otherNumber]),
  (["p", "punctuation", "punct"], Category.punctuation),
  (["pc", "connectorpunctuation"], .of [Category.connectorPunctuation]),
  (["pd", "dashpunctuation"], .of [Category.dashPunctuation]),
  (["ps", "openpunctuation"], .of [Category.openPunctuation]),
  (["pe", "closepunctuation"], .of [Category.closePunctuation]),
  (["pi", "initialpunctuation"], .of [Category.initialPunctuation]),
  (["pf", "finalpunctuation"], .of [Category.finalPunctuation]),
  (["po", "otherpunctuation"], .of [Category.otherPunctuation]),
  (["s", "symbol"], Category.symbol),
  (["sm", "mathsymbol"], .of [Category.mathSymbol]),
  (["sc", "currencysymbol"], .of [Category.currencySymbol]),
  (["sk", "modifiersymbol"], .of [Category.modifierSymbol]),
  (["so", "othersymbol"], .of [Category.otherSymbol]),
  (["z", "separator"], Category.separator),
  (["zs", "spaceseparator"], .of [Category.spaceSeparator]),
  (["zl", "lineseparator"], .of [Category.lineSeparator]),
  (["zp", "paragraphseparator"], .of [Category.paragraphSeparator]),
  (["c", "other"], Category.other),
  (["cc", "control", "cntrl"], .of [Category.control]),
  (["cf", "format"], .of [Category.format]),
  (["co", "privateuse"], .of [Category.privateUse]),
  (["cn", "unassigned"], Category.unassigned)]

/-- The general category with a normalized name. -/
def category? (name : String) : Option CodeSet :=
  (categories.find? fun c => c.1.contains name).map (·.2)

/-- The script with a normalized name. -/
def script? (name : String) : Option CodeSet :=
  (Script.byName.lookup name).map fun t => .of [t]

/-- The characters in use in the script with a normalized name: those of the script itself,
unless further ones are known. -/
def scriptExtensions? (name : String) : Option CodeSet :=
  (Script.extensions.lookup name).orElse fun _ => script? name

/-- The binary property with a normalized name. Three short names are those of a category or
a script before they are those of a property. -/
def binaryProperty? (name : String) : Option CodeSet :=
  if ["cf", "sc", "lc"].contains name then none else Property.byName.lookup name

end Regex

namespace CharSet

open Regex

/-- The characters with a property, a general category or a script. -/
def ofProperty? (name : String) : Option CharSet :=
  let name := normalizeName name
  let found := (binaryProperty? name).orElse fun _ =>
    (category? name).orElse fun _ => script? name
  found.map codes

/-- The characters for which a property has a value. -/
def ofPropertyValue? (property value : String) : Option CharSet :=
  let value := normalizeName value
  let found :=
    match normalizeName property with
    | "gc" | "generalcategory" | "category" => category? value
    | "sc" | "script" => script? value
    | "scx" | "scriptextensions" => scriptExtensions? value
    | _ => none
  found.map codes

end CharSet

end Classpath
