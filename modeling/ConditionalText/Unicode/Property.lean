import ConditionalText.Unicode.Category
import ConditionalText.Unicode.BinaryProperty

/-!
Looking up character classes by name, and the classes that the rest of the library uses itself.
-/

namespace ConditionalText.Unicode

def tableOf (tables : List NamedRanges) (name : String) : RangeTable :=
  ((tables.find? (fun named => named.names.contains name)).map NamedRanges.table).getD []

def alphabetic : RangeTable := tableOf binaryProperties "Alphabetic"
def whiteSpace : RangeTable := tableOf binaryProperties "White_Space"
def cased : RangeTable := tableOf binaryProperties "Cased"
def caseIgnorable : RangeTable := tableOf binaryProperties "Case_Ignorable"
def graphemeExtend : RangeTable := tableOf binaryProperties "Grapheme_Extend"
def joinControl : RangeTable := tableOf binaryProperties "Join_Control"
def defaultIgnorable : RangeTable := tableOf binaryProperties "Default_Ignorable_Code_Point"
def decimalNumber : RangeTable := tableOf assignedCategories "Nd"
def modifierLetter : RangeTable := tableOf assignedCategories "Lm"
def connectorPunctuation : RangeTable := tableOf assignedCategories "Pc"

def categories (names : List String) : RangeTable :=
  .unite (names.map (tableOf assignedCategories))

def mark : RangeTable := categories ["Mn", "Mc", "Me"]
def number : RangeTable := categories ["Nd", "Nl", "No"]

/-- The characters of words: letters, marks, decimal digits, joining punctuation and joiners. -/
def word : RangeTable :=
  .unite [alphabetic, mark, decimalNumber, connectorPunctuation, joinControl]

def shaped : RangeTable :=
  categories ["Lu", "Ll", "Lt", "Lm", "Lo", "Mn", "Mc", "Me", "Nd", "Nl", "No",
    "Pc", "Pd", "Ps", "Pe", "Pi", "Pf", "Po", "Sm", "Sc", "Sk", "So"]

end ConditionalText.Unicode
