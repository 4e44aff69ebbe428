import StyleScope.Text.Cased
import StyleScope.Text.CaseIgnorable
import StyleScope.Text.CaseRun

/-!
# Lower-casing

Full Unicode lower-casing without a locale. Every character has its own small form, except that a
capital sigma becomes a final sigma at the end of a word.
-/

namespace StyleScope.Text

/-- The small form of a character on its own. Only the dotted capital I has one of two characters. -/
def lowerChar (c : Char) : List Char :=
  if c = 'İ' then ['i', '\u0307'] else [smallLetter c]

/-- Whether the nearest character that is not case-ignorable is cased. -/
def meetsCased (cs : List Char) : Bool :=
  (cs.dropWhile isCaseIgnorable).head?.any isCased

/-- Whether a sigma stands at the end of a word: a cased character comes before it and none after it.
`before` holds the characters in front of the sigma, the nearest first. -/
def endsWord (before after : List Char) : Bool :=
  meetsCased before && !meetsCased after

/-- Lower-cases the rest of a text of which `before` (the nearest character first) is done. -/
def lowerFrom (before : List Char) : List Char → List Char
  | [] => []
  | c :: rest =>
    (if c = 'Σ' then [if endsWord before rest then 'ς' else 'σ'] else lowerChar c)
      ++ lowerFrom (c :: before) rest

/-- The text in lower case. -/
def lowercase (s : String) : String :=
  String.ofList (lowerFrom [] s.toList)

end StyleScope.Text
