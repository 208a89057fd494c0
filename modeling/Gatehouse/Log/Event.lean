/-
Log events, results together with the events on the way to them, and the lines that events are written
as. An event has a level, a message and further fields; results are chained so that the events of each
step follow those before it. A line is a JSON object for machines, or compact text for people.
-/
import Gatehouse.Json.Value

namespace Gatehouse.Log

open Gatehouse.Text
open Gatehouse.Json (Value)

/-! ## Events -/

/-- How weighty an event is. -/
inductive Level where
  | error
  | warn
  | info
  | debug
  | trace
  deriving DecidableEq, Repr

/-- The name of a level. -/
def Level.name : Level → String
  | .error => "ERROR"
  | .warn => "WARN"
  | .info => "INFO"
  | .debug => "DEBUG"
  | .trace => "TRACE"

/-- The value of a field. -/
inductive FieldValue where
  | text (s : String)
  | bool (b : Bool)
  | integer (i : Int)
  deriving DecidableEq, Repr

/-- The value of a field as JSON. -/
def FieldValue.json : FieldValue → Json.Value
  | .text s => .text s
  | .bool b => .bool b
  | .integer i => .integer i

/-- One thing that happened. -/
structure Event where
  level : Level
  message : String
  fields : List (String × FieldValue)
  deriving DecidableEq, Repr

/-- A result and the events on the way to it. -/
structure Logged (α : Type) where
  value : α
  events : List Event

namespace Logged

/-- A result without events. -/
def silent {α : Type} (a : α) : Logged α := ⟨a, []⟩

/-- A step that goes on from the result of another, with its own events after the other's. -/
def andThen {α β : Type} (x : Logged α) (f : α → Logged β) : Logged β :=
  ⟨(f x.value).value, x.events ++ (f x.value).events⟩

/-- An event and nothing else. -/
def tell (e : Event) : Logged Unit := ⟨(), [e]⟩

instance : Monad Logged where
  pure := silent
  bind := andThen

end Logged

/-! ## Lines -/

/-- The form of the process log: one JSON object a line, or compact lines for people. -/
inductive Format where
  | json
  | text
  deriving DecidableEq, Repr

/-- The form where none is chosen. -/
def Format.fallback : Format := .json

/-- The form of a name, in any case and with blanks around it. -/
def Format.ofName? (name : String) : Option Format :=
  let name := (strip name.toList).map Char.toLower
  if name = "json".toList then some .json
  else if ["text".toList, "pretty".toList, "compact".toList].contains name then some .text
  else none

/-- The event as an object, with the time before its level. -/
def Event.json (e : Event) (time : String) : Value :=
  .object
    [("timestamp", .text time),
     ("level", .text e.level.name),
     ("fields", .object (("message", .text e.message) :: e.fields.map fun (k, v) => (k, v.json)))]

/-- The value of a field in a compact line. -/
def FieldValue.show : FieldValue → String
  | .text s => s
  | .bool b => if b then "true" else "false"
  | .integer i => String.ofList (Text.Integer.signedDigits i)

/-- The event in a compact line, without its time. -/
def Event.compact (e : Event) (target : String) : String :=
  e.level.name ++ " " ++ target ++ ": " ++ e.message ++
    String.join (e.fields.map fun (k, v) => " " ++ k ++ "=" ++ v.show)

/-- The line of an event. -/
def Event.line (e : Event) (format : Format) (target time : String) : String :=
  match format with
  | .json => (e.json time).render
  | .text => time ++ " " ++ (if e.level.name.length < 5 then " " else "") ++ e.compact target

end Gatehouse.Log
