/-
JSON values as they are written: on one line, without blanks, an object's members in their
order. A text is written between quotes; the quote, the backslash and the control characters are
escaped, the last in their short form where there is one, and every other character stands as it is.
-/
import Gatehouse.Text.Basic
import Gatehouse.Text.Integer

namespace Gatehouse.Json

open Gatehouse.Text

/-- A JSON value with whole numbers only. -/
inductive Value where
  | null
  | bool (b : Bool)
  | integer (i : Int)
  | text (s : String)
  | list (items : List Value)
  | object (members : List (String × Value))

/-- A character inside the quotes. -/
def escapeChar (c : Char) : List Char :=
  if c = '"' then ['\\', '"']
  else if c = '\\' then ['\\', '\\']
  else if c = '\x08' then ['\\', 'b']
  else if c = '\x0c' then ['\\', 'f']
  else if c = '\n' then ['\\', 'n']
  else if c = '\r' then ['\\', 'r']
  else if c = '\t' then ['\\', 't']
  else if c.toNat < 32 then
    ['\\', 'u', '0', '0', Hex.lower (c.toNat / 16), Hex.lower (c.toNat % 16)]
  else [c]

/-- A text between its quotes. -/
def writeText (s : String) : List Char := '"' :: s.toList.flatMap escapeChar ++ ['"']

mutual

/-- The characters of a value. -/
def Value.write : Value → List Char
  | .null => "null".toList
  | .bool true => "true".toList
  | .bool false => "false".toList
  | .integer i => Integer.signedDigits i
  | .text s => writeText s
  | .list items => '[' :: writeItems items ++ [']']
  | .object members => '{' :: writeMembers members ++ ['}']

/-- The items of a list, with a comma between two of them. -/
def writeItems : List Value → List Char
  | [] => []
  | v :: vs => v.write ++ (if vs.isEmpty then [] else ',' :: writeItems vs)

/-- The members of an object, with a comma between two of them. -/
def writeMembers : List (String × Value) → List Char
  | [] => []
  | (k, v) :: ms => writeText k ++ ':' :: v.write ++ (if ms.isEmpty then [] else ',' :: writeMembers ms)

end

/-- The text of a value. -/
def Value.render (v : Value) : String := String.ofList v.write

/-- A text, or `null` for none. -/
def Value.ofText? : Option String → Value
  | none => .null
  | some s => .text s

end Gatehouse.Json
