import Clearance.Document.Basic
import Clearance.Number.Layout

/-!
# Writing JSON

The compact text of a document: no blanks, members in the order of the tree, and of the characters
of a string only quotes, backslashes and those below `U+0020` escaped.
-/

namespace Clearance

namespace Json

def escapeChar (c : Char) : List Char :=
  if c = '"' then ['\\', '"']
  else if c = '\\' then ['\\', '\\']
  else if c = '\n' then ['\\', 'n']
  else if c = '\r' then ['\\', 'r']
  else if c = '\t' then ['\\', 't']
  else if c = Char.ofNat 8 then ['\\', 'b']
  else if c = Char.ofNat 12 then ['\\', 'f']
  else if c.toNat < 32 then '\\' :: 'u' :: fixedNumeral 16 4 c.toNat
  else [c]

def escape (cs : List Char) : List Char :=
  cs.flatMap escapeChar

def quote (s : String) : List Char :=
  '"' :: escape s.toList ++ ['"']

end Json

namespace Document

mutual

def jsonChars : Document → List Char
  | null => "null".toList
  | bool true => "true".toList
  | bool false => "false".toList
  | int n => integerNumeral n
  | float x => NumberLayout.json.text x
  | text s => Json.quote s
  | list items => '[' :: jsonItems items ++ [']']
  | table members => '\x7b' :: jsonMembers members ++ ['\x7d']
  | cut _ => []

def jsonItems : List Document → List Char
  | [] => []
  | [d] => jsonChars d
  | d :: rest => jsonChars d ++ ',' :: jsonItems rest

def jsonMembers : List (String × Document) → List Char
  | [] => []
  | [(name, d)] => Json.quote name ++ ':' :: jsonChars d
  | (name, d) :: rest => Json.quote name ++ ':' :: jsonChars d ++ ',' :: jsonMembers rest

end

def jsonText (d : Document) : String :=
  String.ofList d.jsonChars

end Document

end Clearance
