/-
Records read from JSON. A record is an object with named fields, or a list of them in their order.
In an object a field may stand anywhere but only once, and unknown members are passed over; in a
list the last fields may be left out down to a least number, and no further item may follow.
-/
import Gatehouse.Json.Syntax

namespace Gatehouse.Json

/-! ## Fields -/

/-- The values of the members with a key, in their order. -/
def valuesOf (key : String) (members : List (Option String × Syntax)) : List Syntax :=
  members.filterMap fun (k, v) => if k = some key then some v else none

/-- The value of the one member with a key, or none; two of them are refused. -/
def uniqueMember? (members : List (Option String × Syntax)) (key : String) : Option (Option Syntax) :=
  match valuesOf key members with
  | [] => some none
  | [v] => some (some v)
  | _ => none

/-- The values of the named members of an object whose keys can all be read. -/
def namedMembers? (names : List String) (members : List (Option String × Syntax)) :
    Option (List (Option Syntax)) :=
  if members.all (·.1.isSome) then names.mapM (uniqueMember? members) else none

/-- The values of a record's fields in their order, written as an object or as a list that may
leave out fields beyond the least number. -/
def Syntax.fields? (names : List String) (least : Nat) : Syntax → Option (List (Option Syntax))
  | .object members => namedMembers? names members
  | .list items =>
    if least ≤ items.length ∧ items.length ≤ names.length then
      some (items.map some ++ List.replicate (names.length - items.length) none)
    else none
  | _ => none

/-! ## The values of fields -/

/-- A field that must hold a text. -/
def requiredText? : Option Syntax → Option String
  | some (.text s) => some s
  | _ => none

/-- A field that may be absent or `null` and else holds a text. -/
def optionalText? : Option Syntax → Option (Option String)
  | none => some none
  | some .null => some none
  | some (.text s) => some (some s)
  | _ => none

/-- A field that is empty when it is absent and else holds a text. -/
def textOrEmpty? : Option Syntax → Option String
  | none => some ""
  | some (.text s) => some s
  | _ => none

/-- A field that is `false` when it is absent and else holds a truth value. -/
def boolOrFalse? : Option Syntax → Option Bool
  | none => some false
  | some (.bool b) => some b
  | _ => none

/-- A field that must hold a truth value. -/
def requiredBool? : Option Syntax → Option Bool
  | some (.bool b) => some b
  | _ => none

/-- A field that must hold an integer. -/
def requiredInteger? : Option Syntax → Option Int
  | some (.integer i) => some i
  | _ => none

/-- A list of texts. -/
def textList? : Syntax → Option (List String)
  | .list items => items.mapM fun
    | .text s => some s
    | _ => none
  | _ => none

/-- A field that may be absent or `null` and else holds a list of texts. -/
def optionalTextList? : Option Syntax → Option (Option (List String))
  | none => some none
  | some .null => some none
  | some v => (textList? v).map some

end Gatehouse.Json
