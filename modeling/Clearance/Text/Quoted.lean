import Clearance.Text.Numeral
import Clearance.Text.Printable

/-!
# Quoted texts

A text in quotes that shows every character: quotes and backslashes are escaped, and so is every
character that is not printable, by a short escape or its code in braces.
-/

namespace Clearance

namespace Quoted

def codeEscape (c : Char) : List Char :=
  '\\' :: 'u' :: '\x7b' :: numeral 16 c.toNat ++ ['\x7d']

/-- The shown form of one character; `printable` decides which stand for themselves. -/
def encodeChar (printable : Char → Bool) (c : Char) : List Char :=
  if c = Char.ofNat 0 then ['\\', '0']
  else if c = '\t' then ['\\', 't']
  else if c = '\n' then ['\\', 'n']
  else if c = '\r' then ['\\', 'r']
  else if c = '"' then ['\\', '"']
  else if c = '\\' then ['\\', '\\']
  else if printable c then [c]
  else codeEscape c

def encode (printable : Char → Bool) (cs : List Char) : List Char :=
  cs.flatMap (encodeChar printable)

def chars (s : String) : List Char :=
  '"' :: encode isPrintable s.toList ++ ['"']

def text (s : String) : String :=
  String.ofList (chars s)

end Quoted

end Clearance
