/-
The envelope that the identity service answers in: whether the login succeeded, and its record. The
record is kept whole while the envelope is read, so all of it must be readable; of members with one
key the last counts.
-/
import Gatehouse.Login.Service

namespace Gatehouse.Backend

open Gatehouse.Identity Gatehouse.Login
open Gatehouse.Json (Syntax)

mutual

/-- The value with only the last of the members that share a key, at every level. -/
def settle : Syntax → Syntax
  | .object members => .object (settleMembers members)
  | .list items => .list (settleItems items)
  | .null => .null
  | .bool b => .bool b
  | .integer i => .integer i
  | .decimal => .decimal
  | .text s => .text s
  | .unreadable => .unreadable

/-- Every item settled. -/
def settleItems : List Syntax → List Syntax
  | [] => []
  | v :: vs => settle v :: settleItems vs

/-- Every member settled, unless another with its key follows. -/
def settleMembers : List (Option String × Syntax) → List (Option String × Syntax)
  | [] => []
  | (k, v) :: ms =>
    let rest := settleMembers ms
    if rest.any (·.1 == k) then rest else (k, settle v) :: rest

end

/-- An envelope: the mark of success and what it holds, if anything. -/
structure Envelope where
  success : Bool
  data : Option Syntax

/-- The envelope of a body. -/
def Envelope.ofBody? (body : List UInt8) : Option Envelope := do
  match ← (← Syntax.read body).fields? ["success", "data"] 0 with
  | [success, data] =>
    let success ← Json.boolOrFalse? success
    match data with
    | none => return ⟨success, none⟩
    | some .null => return ⟨success, none⟩
    | some v => if v.isReadable (Json.maxDepth - 1) then return ⟨success, some v⟩ else none
  | _ => none

/-- The record in the body of an answer. -/
def recordOfBody (body : List UInt8) : Except ServiceError LoginRecord :=
  match Envelope.ofBody? body with
  | none => .error (.malformed .envelope)
  | some ⟨false, _⟩ => .error (.rejected none)
  | some ⟨true, none⟩ => .error (.malformed .missingData)
  | some ⟨true, some data⟩ =>
    match LoginRecord.ofJson? (settle data) with
    | none => .error (.malformed .data)
    | some record => .ok record

end Gatehouse.Backend
