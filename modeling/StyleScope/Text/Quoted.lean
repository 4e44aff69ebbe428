import StyleScope.Text.DefaultIgnorable
import StyleScope.Text.GraphemeExtend
import StyleScope.Text.Unprintable

/-!
# Quoted text

A text between double quotes in which every character is visible and stands for itself: quotes,
backslashes, invisible characters and characters that attach to their neighbour are written as
escapes.
-/

namespace StyleScope.Text

/-- Whether `c` shows nothing when it is written. -/
def isInvisible (c : Char) : Bool :=
  isUnprintable c || isDefaultIgnorable c

/-- Whether `c` attaches to the character before it. Of the characters with `Grapheme_Extend`, only the
two half-width voicing marks are letters, and they take a place of their own. -/
def isAttaching (c : Char) : Bool :=
  isGraphemeExtend c && c != '\uff9e' && c != '\uff9f'

/-- The code point between braces, in lower-case hexadecimal without padding. -/
def codeEscape (c : Char) : List Char :=
  '\\' :: 'u' :: '\x7b' :: (Nat.toDigits 16 c.toNat ++ ['\x7d'])

/-- How a character is written between quotes. -/
def escapeChar (c : Char) : List Char :=
  if c = '\x00' then ['\\', '0']
  else if c = '\t' then ['\\', 't']
  else if c = '\r' then ['\\', 'r']
  else if c = '\n' then ['\\', 'n']
  else if c = '\\' then ['\\', '\\']
  else if c = '"' then ['\\', '"']
  else if isAttaching c || isInvisible c then codeEscape c
  else [c]

/-- The text between double quotes, escaped. -/
def quoted (s : String) : String :=
  String.ofList ('"' :: (s.toList.flatMap escapeChar ++ ['"']))

end StyleScope.Text
