import ConditionalText.Text.Basic
import ConditionalText.Unicode.Lowercase
import ConditionalText.Unicode.Revision

/-!
Lower case for whole texts. One character looks at its surroundings: a capital sigma at the end of
a word has a lower-case form of its own.
-/

namespace ConditionalText.Text

/-- Whether the nearest character that is not transparent to case has a case. -/
def meetsCased (text : Text) : Bool :=
  match text.dropWhile Unicode.isCaseIgnorable with
  | [] => false
  | c :: _ => Unicode.isCased c

def lowerChar (c : Char) : Text :=
  if c = '\u0130' then ['i', '\u0307'] else [Unicode.lowercase.apply c]

def capitalSigma : Char := '\u03A3'
def smallSigma : Char := '\u03C3'
def finalSigma : Char := '\u03C2'

/-- Lower case for a text that follows `before`, which is given backwards. -/
def lowerAfter (before : Text) : Text → Text
  | [] => []
  | c :: rest =>
      (if c = capitalSigma then
        [if meetsCased before && !meetsCased rest then finalSigma else smallSigma]
      else lowerChar c) ++ lowerAfter (c :: before) rest

def lower (text : Text) : Text :=
  lowerAfter [] text

end ConditionalText.Text
