import ConditionalText.Unicode.Property

/-!
Two versions of the character standard meet in this library. Patterns name character classes as
version 16 has them, in the tables of the other modules here, while texts are lower-cased, quoted
and searched for names by version 17. This module holds what version 17 changed in the classes that
those operations use.
-/

namespace ConditionalText.Unicode

/-- How a later version of the standard changed a class of characters. -/
structure Revision where
  gained : RangeTable
  lost : RangeTable

/-- Whether a character is in a class after its revision. -/
def Revision.contains (revision : Revision) (earlier : RangeTable) (c : Char) : Bool :=
  revision.gained.contains c || (earlier.contains c && !revision.lost.contains c)

def Revision.ofText (gained lost : String) : Revision :=
  ⟨.ofText gained, .ofText lost⟩

def alphabeticRevision : Revision := .ofText
  "88F C5C CDC A7CE-A7CF A7D2 A7D4 A7F1 10940-10959 10EC5-10EC7 10EFA-10EFB 11B60-11B67
    11DB0-11DDB 16EA0-16EB8 16EBB-16ED3 16FF2-16FF6 187F8-187FF 18D09-18D1E 18D80-18DF2
    1E6C0-1E6DE 1E6E0-1E6F5 1E6FE-1E6FF 2B73A-2B73F 2CEA2-2CEAD 323B0-33479"
  ""

def numberRevision : Revision := .ofText "11DE0-11DE9 16FF4-16FF6" ""

def casedRevision : Revision := .ofText "A7CE-A7CF A7D2 A7D4 A7F1 16EA0-16EB8 16EBB-16ED3" "295"

def caseIgnorableRevision : Revision := .ofText
  "1ACF-1ADD 1AE0-1AEB A7F1 10EC5 10EFA-10EFB 11B60 11B62-11B64 11B66 11DD9 16FF2-16FF3 1E6E3
    1E6E6 1E6EE-1E6EF 1E6F5 1E6FF"
  ""

def graphemeExtendRevision : Revision := .ofText
  "1ACF-1ADD 1AE0-1AEB 10EFA-10EFB 11B60 11B62-11B64 11B66 1E6E3 1E6E6 1E6EE-1E6EF 1E6F5"
  ""

def shapedRevision : Revision := .ofText
  "88F C5C CDC 1ACF-1ADD 1AE0-1AEB 20C1 2B96 A7CE-A7CF A7D2 A7D4 A7F1 FBC3-FBD2 FD90-FD91
    FDC8-FDCE 10940-10959 10EC5-10EC7 10ED0-10ED8 10EFA-10EFB 11B60-11B67 11DB0-11DDB 11DE0-11DE9
    16EA0-16EB8 16EBB-16ED3 16FF2-16FF6 187F8-187FF 18D09-18D1E 18D80-18DF2 1CCFA-1CCFC
    1CEBA-1CED0 1CEE0-1CEF0 1E6C0-1E6DE 1E6E0-1E6F5 1E6FE-1E6FF 1F6D8 1F777-1F77A 1F8D0-1F8D8
    1FA54-1FA57 1FA8A 1FA8E 1FAC8 1FACD 1FAEA 1FAEF 1FBFA 2B73A-2B73F 2CEA2-2CEAD 323B0-33479"
  ""

def isAlphabetic (c : Char) : Bool :=
  alphabeticRevision.contains alphabetic c

def isNumber (c : Char) : Bool :=
  numberRevision.contains number c

def isCased (c : Char) : Bool :=
  casedRevision.contains cased c

def isCaseIgnorable (c : Char) : Bool :=
  caseIgnorableRevision.contains caseIgnorable c

def isGraphemeExtend (c : Char) : Bool :=
  graphemeExtendRevision.contains graphemeExtend c

def isPrintable (c : Char) : Bool :=
  c == ' ' || shapedRevision.contains shaped c

end ConditionalText.Unicode
