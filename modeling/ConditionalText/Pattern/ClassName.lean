import ConditionalText.Pattern.CharSet
import ConditionalText.Text.Basic
import ConditionalText.Unicode.Age
import ConditionalText.Unicode.GraphemeBreak
import ConditionalText.Unicode.Script
import ConditionalText.Unicode.ScriptExtensions
import ConditionalText.Unicode.SentenceBreak
import ConditionalText.Unicode.WordBreak

/-!
Character classes that patterns ask for by name: properties of the character standard, matched
loosely, and the classes of ASCII, matched exactly.
-/

namespace ConditionalText.ClassName

/-- The loose form of a property name: letter case, blanks, hyphens, underscores and a leading `is`
do not count, and neither do characters beyond ASCII. One abbreviation keeps its `is`. -/
def loose (name : Text) : Text :=
  let significant (text : Text) : Text :=
    Text.lowerAscii (text.filter (fun c => c != ' ' && c != '_' && c != '-' && c.toNat < 128))
  match name with
  | i :: s :: rest =>
      if i.toLower = 'i' ∧ s.toLower = 's' then
        let short := significant rest
        if short = ['c'] then "isc".toList else short
      else significant name
  | _ => significant name

def listed? (tables : List Unicode.NamedRanges) (name : Text) : Option Unicode.NamedRanges :=
  tables.find? (fun named => named.names.any (fun known => loose known.toList = name))

def tableSet? (tables : List Unicode.NamedRanges) (name : Text) : Option CharSet :=
  (listed? tables name).map (fun named => .table named.table)

def categoryGroups : List (List String × List String) := [
  (["C", "Other"], ["Cc", "Cf", "Co"]),
  (["L", "Letter"], ["Lu", "Ll", "Lt", "Lm", "Lo"]),
  (["LC", "Cased_Letter"], ["Lu", "Ll", "Lt"]),
  (["M", "Mark", "Combining_Mark"], ["Mn", "Mc", "Me"]),
  (["N", "Number"], ["Nd", "Nl", "No"]),
  (["P", "Punctuation", "punct"], ["Pc", "Pd", "Ps", "Pe", "Pi", "Pf", "Po"]),
  (["S", "Symbol"], ["Sm", "Sc", "Sk", "So"]),
  (["Z", "Separator"], ["Zs", "Zl", "Zp"])]

def assigned : CharSet :=
  .table (.unite (Unicode.assignedCategories.map Unicode.NamedRanges.table))

def all : CharSet :=
  .complement .none

def category? (name : Text) : Option CharSet :=
  if name = "any".toList then some all
  else if name = "assigned".toList then some assigned
  else if name = "ascii".toList then some (.range '\x00' '\x7f')
  else if name = "cn".toList ∨ name = "unassigned".toList then some (.complement assigned)
  else if name = "c".toList ∨ name = "other".toList then
    some (.union (.table (Unicode.categories ["Cc", "Cf", "Co"])) (.complement assigned))
  else
    match categoryGroups.find? (fun group => group.1.any (fun known => loose known.toList = name)) with
    | some group => some (.table (Unicode.categories group.2))
    | none => tableSet? Unicode.assignedCategories name

def script? (name : Text) : Option CharSet :=
  tableSet? Unicode.scripts name

def age? (name : Text) : Option CharSet := do
  let named ← listed? Unicode.ages name
  let older := Unicode.ages.takeWhile (fun other => other.names != named.names)
  some (.table (.unite ((older ++ [named]).map Unicode.NamedRanges.table)))

/-- A class named by one word. The three abbreviations that stand for a property and for a category
alike are taken as categories. -/
def byName? (name : Text) : Option CharSet :=
  let name := loose name
  let property :=
    if name = "cf".toList ∨ name = "sc".toList ∨ name = "lc".toList then none
    else tableSet? Unicode.binaryProperties name
  property <|> category? name <|> script? name

def byValue? (property value : Text) : Option CharSet :=
  let property := loose property
  let value := loose value
  let named (names : List String) : Bool := names.any (fun known => known.toList = property)
  if named ["gc", "generalcategory"] then category? value
  else if named ["sc", "script"] then script? value
  else if named ["scx", "scriptextensions"] then tableSet? Unicode.scriptExtensions value
  else if named ["age"] then age? value
  else if named ["gcb", "graphemeclusterbreak"] then tableSet? Unicode.graphemeBreaks value
  else if named ["wb", "wordbreak"] then tableSet? Unicode.wordBreaks value
  else if named ["sb", "sentencebreak"] then tableSet? Unicode.sentenceBreaks value
  else none

def asciiClasses : List (String × List (Char × Char)) := [
  ("alnum", [('0', '9'), ('A', 'Z'), ('a', 'z')]),
  ("alpha", [('A', 'Z'), ('a', 'z')]),
  ("ascii", [('\x00', '\x7f')]),
  ("blank", [('\t', '\t'), (' ', ' ')]),
  ("cntrl", [('\x00', '\x1f'), ('\x7f', '\x7f')]),
  ("digit", [('0', '9')]),
  ("graph", [('!', '~')]),
  ("lower", [('a', 'z')]),
  ("print", [(' ', '~')]),
  ("punct", [('!', '/'), (':', '@'), ('[', '\x60'), ('{', '~')]),
  ("space", [('\t', '\r'), (' ', ' ')]),
  ("upper", [('A', 'Z')]),
  ("word", [('0', '9'), ('A', 'Z'), ('_', '_'), ('a', 'z')]),
  ("xdigit", [('0', '9'), ('A', 'F'), ('a', 'f')])]

def ascii? (name : Text) : Option CharSet :=
  (asciiClasses.find? (fun known => known.1.toList = name)).map (fun known => .ofRanges known.2)

def ofLetter? (unicode : Bool) (letter : Char) : Option CharSet :=
  if letter = 'd' then if unicode then some (.table Unicode.decimalNumber) else ascii? "digit".toList
  else if letter = 's' then if unicode then some (.table Unicode.whiteSpace) else ascii? "space".toList
  else if letter = 'w' then if unicode then some (.table Unicode.word) else ascii? "word".toList
  else none

end ConditionalText.ClassName
