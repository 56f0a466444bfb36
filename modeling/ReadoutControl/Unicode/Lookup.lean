import ReadoutControl.Unicode.Age
import ReadoutControl.Unicode.Break
import ReadoutControl.Unicode.Category
import ReadoutControl.Unicode.Property
import ReadoutControl.Unicode.Script
import ReadoutControl.Unicode.ScriptExtension

set_option autoImplicit false

/-!
Finding the table of a property by its name. Names are compared without regard to case, blanks,
underscores and hyphens, and a leading `is` means nothing. Patterns follow version 16 of the
standard; texts that are shown, and names of groups, follow version 17.
-/

namespace ReadoutControl.Unicode

/-- The two-letter names of the categories, with the long ones. -/
def categoryNames : List (String × List String) :=
  [("Cc", ["cc", "control", "cntrl"]), ("Cf", ["cf", "format"]),
   ("Co", ["co", "privateuse"]), ("Ll", ["ll", "lowercaseletter"]),
   ("Lm", ["lm", "modifierletter"]), ("Lo", ["lo", "otherletter"]),
   ("Lt", ["lt", "titlecaseletter"]), ("Lu", ["lu", "uppercaseletter"]),
   ("Mc", ["mc", "spacingmark"]), ("Me", ["me", "enclosingmark"]),
   ("Mn", ["mn", "nonspacingmark"]), ("Nd", ["nd", "decimalnumber", "digit"]),
   ("Nl", ["nl", "letternumber"]), ("No", ["no", "othernumber"]),
   ("Pc", ["pc", "connectorpunctuation"]), ("Pd", ["pd", "dashpunctuation"]),
   ("Pe", ["pe", "closepunctuation"]), ("Pf", ["pf", "finalpunctuation"]),
   ("Pi", ["pi", "initialpunctuation"]), ("Po", ["po", "otherpunctuation"]),
   ("Ps", ["ps", "openpunctuation"]), ("Sc", ["sc", "currencysymbol"]),
   ("Sk", ["sk", "modifiersymbol"]), ("Sm", ["sm", "mathsymbol"]),
   ("So", ["so", "othersymbol"]), ("Zl", ["zl", "lineseparator"]),
   ("Zp", ["zp", "paragraphseparator"]), ("Zs", ["zs", "spaceseparator"])]

/-- Groups of categories; each has what the named categories have. -/
def categoryGroups : List (List String × List String) :=
  [(["l", "letter"], ["Ll", "Lm", "Lo", "Lt", "Lu"]),
   (["lc", "casedletter"], ["Ll", "Lt", "Lu"]),
   (["m", "mark", "combiningmark"], ["Mc", "Me", "Mn"]),
   (["n", "number"], ["Nd", "Nl", "No"]),
   (["p", "punctuation", "punct"], ["Pc", "Pd", "Pe", "Pf", "Pi", "Po", "Ps"]),
   (["s", "symbol"], ["Sc", "Sk", "Sm", "So"]),
   (["z", "separator"], ["Zl", "Zp", "Zs"])]

def looseName (name : List Char) : String :=
  let plain := (name.filter fun c => c.toNat < 128 && c ≠ ' ' && c ≠ '_' && c ≠ '-').map
    Char.toLower
  let startsWithIs := (name.take 2).map Char.toLower = ['i', 's']
  if startsWithIs && plain ≠ ['i', 's', 'c'] then String.ofList (plain.drop 2)
  else String.ofList plain

def categories (names : List String) : List CodeRanges :=
  names.filterMap fun name => categoryRanges.lookup name

/-- The ranges of a category or group of categories. -/
def categoryTables? (name : String) : Option (List CodeRanges) :=
  match categoryGroups.find? (·.1.contains name) with
  | some (_, members) => some (categories members)
  | none => (categoryNames.find? (·.2.contains name)).map fun (short, _) => categories [short]

def tableOf? (tables : List (List String × CodeRanges)) (name : String) : Option CodeRanges :=
  (tables.find? (·.1.contains name)).map (·.2)

def propertyTable? (name : String) : Option CodeRanges := tableOf? propertyRanges name

def scriptTable? (name : String) : Option CodeRanges := tableOf? scriptRanges name

def scriptExtensionTable? (name : String) : Option CodeRanges :=
  tableOf? scriptExtensionRanges name

def clusterBreakTable? (name : String) : Option CodeRanges := tableOf? clusterBreakRanges name

def wordBreakTable? (name : String) : Option CodeRanges := tableOf? wordBreakRanges name

def sentenceBreakTable? (name : String) : Option CodeRanges := tableOf? sentenceBreakRanges name

/-- What was assigned in a version or before it. -/
def ageTables? (name : String) : Option (List CodeRanges) :=
  if ageRanges.any (·.1.contains name) then
    some ((ageRanges.takeWhile (!·.1.contains name)).map (·.2) ++
      (ageRanges.filter (·.1.contains name)).map (·.2))
  else none

end ReadoutControl.Unicode
