import ApiScaffold.Pattern.Basic
import ApiScaffold.Pattern.ScriptTable

/-!
# Named sets of characters

* `asciiClass?`: the sets between colons, such as `alpha`.
* `property?`: the sets of the character standard, by category, script or property.
-/

namespace ApiScaffold.Pattern

open Text

namespace CharSet

/-- The union of some sets. -/
def unionAll : List CharSet → CharSet
  | [] => empty
  | [s] => s
  | s :: rest => union s (unionAll rest)

/-- The characters from one to another. -/
def between (low high : Char) : CharSet := range low.toNat high.toNat

def asciiUpper : CharSet := between 'A' 'Z'
def asciiLower : CharSet := between 'a' 'z'
def asciiDigit : CharSet := between '0' '9'
def asciiLetter : CharSet := union asciiUpper asciiLower
def asciiAlphanumeric : CharSet := union asciiLetter asciiDigit
def asciiWord : CharSet := union asciiAlphanumeric (single '_')
def asciiBlank : CharSet := unionAll [range 0x9 0xD, single ' ']

end CharSet

open CharSet in
/-- The sets of ASCII characters that have a name. -/
def asciiClasses : List (String × CharSet) :=
  [("alnum", asciiAlphanumeric), ("alpha", asciiLetter), ("ascii", range 0 0x7F),
    ("blank", union (single '\t') (single ' ')), ("cntrl", union (range 0 0x1F) (single '\x7f')),
    ("digit", asciiDigit), ("graph", between '!' '~'), ("lower", asciiLower),
    ("print", between ' ' '~'),
    ("punct", unionAll [between '!' '/', between ':' '@', range 0x5B 0x60, range 0x7B 0x7E]),
    ("space", asciiBlank), ("upper", asciiUpper), ("word", asciiWord),
    ("xdigit", unionAll [asciiDigit, between 'A' 'F', between 'a' 'f'])]

/-- The set of a name between colons. -/
def asciiClass? (name : String) : Option CharSet := asciiClasses.lookup name

/-- A name without case and separators. -/
def normalName (name : String) : String :=
  let cs := (name.toList.filter fun c => !(c == ' ' || c == '-' || c == '_') && isAscii c).map
    Text.asciiLower
  match cs with
  | 'i' :: 's' :: rest => if rest.isEmpty then String.ofList cs else String.ofList rest
  | _ => String.ofList cs

/-- The groups of categories by their names. -/
def categoryNames : List (List String × List Category) :=
  [(["l", "letter"], Category.letters), (["m", "mark", "combiningmark"], Category.marks),
    (["n", "number"], Category.numbers), (["p", "punctuation", "punct"], Category.punctuation),
    (["s", "symbol"], Category.symbols), (["z", "separator"], Category.separators),
    (["lc", "casedletter"], [.uppercaseLetter, .lowercaseLetter, .titlecaseLetter]),
    (["lu", "uppercaseletter"], [.uppercaseLetter]), (["ll", "lowercaseletter"], [.lowercaseLetter]),
    (["lt", "titlecaseletter"], [.titlecaseLetter]), (["lm", "modifierletter"], [.modifierLetter]),
    (["lo", "otherletter"], [.otherLetter]), (["mn", "nonspacingmark"], [.nonspacingMark]),
    (["mc", "spacingmark"], [.spacingMark]), (["me", "enclosingmark"], [.enclosingMark]),
    (["nd", "decimalnumber", "digit"], [.decimalNumber]), (["nl", "letternumber"], [.letterNumber]),
    (["no", "othernumber"], [.otherNumber]),
    (["pc", "connectorpunctuation"], [.connectorPunctuation]),
    (["pd", "dashpunctuation"], [.dashPunctuation]), (["ps", "openpunctuation"], [.openPunctuation]),
    (["pe", "closepunctuation"], [.closePunctuation]),
    (["pi", "initialpunctuation"], [.initialPunctuation]),
    (["pf", "finalpunctuation"], [.finalPunctuation]),
    (["po", "otherpunctuation"], [.otherPunctuation]), (["sm", "mathsymbol"], [.mathSymbol]),
    (["sc", "currencysymbol"], [.currencySymbol]), (["sk", "modifiersymbol"], [.modifierSymbol]),
    (["so", "othersymbol"], [.otherSymbol]), (["zs", "spaceseparator"], [.spaceSeparator]),
    (["zl", "lineseparator"], [.lineSeparator]), (["zp", "paragraphseparator"], [.paragraphSeparator]),
    (["cc", "control", "cntrl"], [.control]), (["cf", "format"], [.format]),
    (["co", "privateuse"], [.privateUse])]

/-- The categories of all assigned characters. -/
def assignedCategories : List Category :=
  Category.letters ++ Category.marks ++ Category.numbers ++ Category.punctuation
    ++ Category.symbols ++ Category.separators ++ [.control, .format, .privateUse]

/-- The set of a general category. -/
def categorySet? (name : String) : Option CharSet :=
  match name with
  | "any" => some .full
  | "assigned" => some (.categories assignedCategories)
  | "ascii" => some (.range 0 0x7F)
  | "c" => some (.compl (.categories (assignedCategories.filter fun k =>
      k != .control && k != .format && k != .privateUse)))
  | "other" => some (.compl (.categories (assignedCategories.filter fun k =>
      k != .control && k != .format && k != .privateUse)))
  | "cn" => some (.compl (.categories assignedCategories))
  | "unassigned" => some (.compl (.categories assignedCategories))
  | _ =>
    (categoryNames.find? fun entry => entry.1.contains name).map fun entry => .categories entry.2

/-- The set of a script. -/
def scriptSet? (name : String) : Option CharSet :=
  (scripts.find? fun entry => entry.1.contains name).map fun entry => .ranges entry.2

/-- The set of a property that characters have or lack. -/
def binarySet? (name : String) : Option CharSet :=
  match name with
  | "alphabetic" => some .alphabetic
  | "alpha" => some .alphabetic
  | "lowercase" => some .lower
  | "lower" => some .lower
  | "uppercase" => some .upper
  | "upper" => some .upper
  | "whitespace" => some .blank
  | "wspace" => some .blank
  | "space" => some .blank
  | "asciihexdigit" => asciiClass? "xdigit"
  | "ahex" => asciiClass? "xdigit"
  | _ => none

/-- The set of a property without a value. -/
def property? (name : String) : Option CharSet :=
  let name := normalName name
  ((binarySet? name).or (categorySet? name)).or (scriptSet? name)

/-- The set of a property with a value. -/
def propertyValue? (property value : String) : Option CharSet :=
  let value := normalName value
  match normalName property with
  | "gc" => categorySet? value
  | "generalcategory" => categorySet? value
  | "sc" => scriptSet? value
  | "script" => scriptSet? value
  | "scx" => scriptSet? value
  | "scriptextensions" => scriptSet? value
  | _ => none

end ApiScaffold.Pattern
