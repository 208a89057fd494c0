/-
Which events reach the process log. A filter is a list of directives: a level for everything, or a
level for the targets that begin with a name, for the events with a field, or for both. Of those
that fit an event the one with the longest name decides, then one with a field; what no directive
fits is left out. Directives for the inside of spans or for a field's value are read as well, but
let no event through.
-/
import Gatehouse.Log.Event
import Gatehouse.Log.Pattern
import Gatehouse.Text.Basic
import Gatehouse.Text.Integer

namespace Gatehouse.Log

open Gatehouse.Text

/-- The place of a level, the weightiest first. -/
def Level.rank : Level → Nat
  | .error => 1
  | .warn => 2
  | .info => 3
  | .debug => 4
  | .trace => 5

/-- What a directive lets through. -/
structure Directive where
  /-- The name that a target begins with; everything, if there is none. -/
  target : Option (List Char)
  /-- The field that an event has; any event will do, if there is none. -/
  field : Option (List Char)
  /-- The directive is for the inside of a span or for a value of the field. -/
  isSpecial : Bool
  /-- The rank of the last level that is let through; none at 0. -/
  rank : Nat
  deriving DecidableEq, Repr

/-! ## Levels -/

/-- The rank that a level's name or number stands for. -/
def rankOf? (cs : List Char) : Option Nat :=
  match Integer.natural? cs with
  | some n => if n ≤ 5 then some n else none
  | none =>
    ["off", "error", "warn", "info", "debug", "trace"].findIdx? fun name =>
      cs.map Char.toLower == name.toList

/-- The level after an equals sign; everything where it is empty. -/
def rankAfter? (cs : List Char) : Option Nat := if cs.isEmpty then some Level.trace.rank else rankOf? cs

/-! ## Fields -/

/-- A decimal number without a sign, perhaps with a fraction and an exponent, or a word for a number
that has none. -/
def isDecimal (cs : List Char) : Bool :=
  ["inf", "infinity", "nan"].any (fun s => cs.map Char.toLower = s.toList) ||
    let whole := cs.takeWhile Char.isDigit
    let rest := cs.drop whole.length
    let fraction := if rest.head? = some '.' then (rest.drop 1).takeWhile Char.isDigit else []
    let rest := if rest.head? = some '.' then rest.drop (fraction.length + 1) else rest
    !(whole ++ fraction).isEmpty &&
      match rest with
      | [] => true
      | e :: r =>
        let digits := if r.head? = some '+' || r.head? = some '-' then r.drop 1 else r
        e.toLower == 'e' && (Integer.digits? digits).isSome

/-- A value that a field is compared with: a pattern, or a number, which may have a plus before it. -/
def isFieldValue (cs : List Char) : Bool :=
  isPattern cs || (cs.head? == some '+' && isDecimal (cs.drop 1))

/-- The name of a field in a directive, and whether a value is asked of it. -/
def fieldOf? (cs : List Char) : Option (List Char × Bool) :=
  let (name, rest) := cutAt '=' cs
  if !cs.contains '=' then some (name, false)
  else if isFieldValue (cutAt '=' rest).1 then some (name, true)
  else none

/-! ## Directives -/

/-- A character that a directive may begin with. -/
def beginsDirective (c : Char) : Bool := c == '-' || c == ':' || c == '_' || isAlphanumeric c

/-- A stripped directive after its bracket and up to the end, which begins at a place of the whole. -/
def rankFrom? (whole : List Char) (place : Nat) (cs : List Char) : Option Nat :=
  match cs with
  | [] => some Level.trace.rank
  | '=' :: _ => rankAfter? (whole.drop (place + 1))
  | _ => none

/-- A directive with a bracket, which opens at a place. -/
def bracketed? (whole cs : List Char) (target : Option (List Char)) (place : Nat) :
    Option Directive := do
  let inside := cs.drop (place + 1)
  let span := inside.takeWhile fun c => c != ']' && c != '\x7b'
  match inside.drop span.length with
  | ']' :: rest =>
    return ⟨target, none, true, ← rankFrom? whole (place + span.length + 2) rest⟩
  | _ :: rest =>
    let field := rest.takeWhile (· != '\x7d')
    match rest.drop field.length with
    | _ :: ']' :: after =>
      if field.isEmpty then none
      else
        let (name, hasValue) ← fieldOf? ((whole.drop (place + span.length + 2)).take field.length)
        let rank ← rankFrom? whole (place + span.length + field.length + 4) after
        return ⟨target, some name, hasValue || !span.isEmpty, rank⟩
    | _ => none
  | [] => none

/-- The directive that the characters spell. Its marks are found without the blanks at both ends, but
what stands between them is counted off from the beginning of the whole; so a blank before a
directive moves all its parts, and one behind it belongs to the last. -/
def Directive.parse? (whole : List Char) : Option Directive :=
  let cs := strip whole
  match cs with
  | [] => none
  | '[' :: _ => bracketed? whole cs none 0
  | c :: _ =>
    let place := (cs.takeWhile fun c => c != '=' && c != '[').length
    if !beginsDirective c then none
    else match cs.drop place with
      | [] =>
        match rankOf? whole with
        | some rank => some ⟨none, none, false, rank⟩
        | none => some ⟨some whole, none, false, Level.trace.rank⟩
      | '=' :: _ =>
        (rankAfter? (whole.drop (place + 1))).map fun rank =>
          ⟨some (whole.take place), none, false, rank⟩
      | _ => bracketed? whole cs (some (whole.take place)) place

/-- The directives that a text lists between commas; empty ones are passed over. -/
def parseFilter? (s : String) : Option (List Directive) :=
  ((s.toList.splitOn ',').filter fun cs => !cs.isEmpty).mapM Directive.parse?

/-- The filter of a variable: what it lists, or everything down to information where it is not set or
cannot be read. -/
def filterOf (value : Option String) : List Directive :=
  (value.bind parseFilter?).getD [⟨none, none, false, Level.info.rank⟩]

/-! ## Filtering -/

/-- The event has a field of the name; its message is one. -/
def Event.hasField (e : Event) (name : List Char) : Bool :=
  name == "message".toList || e.fields.any fun (key, _) => key.toList == name

/-- The directive fits an event of a target. -/
def Directive.fits (target : List Char) (e : Event) (d : Directive) : Bool :=
  !d.isSpecial && d.target.all (fun name => name.isPrefixOf target) && d.field.all e.hasField

/-- The length of the target's name, where none is less than an empty one. -/
def Directive.targetWeight (d : Directive) : Nat :=
  match d.target with
  | none => 0
  | some name => name.length + 1

/-- The first directive gives way to the second, which fits too and comes later. -/
def Directive.givesWay (d later : Directive) : Bool :=
  if d.targetWeight ≠ later.targetWeight then d.targetWeight < later.targetWeight
  else match d.field, later.field with
    | none, _ => true
    | some _, none => false
    | some a, some b => !List.lex b a fun c d => decide (c < d)

/-- The directive that decides on an event of a target. -/
def deciding? (filter : List Directive) (target : List Char) (e : Event) : Option Directive :=
  (filter.filter (Directive.fits target e)).foldl (fun best d =>
    match best with
    | none => some d
    | some b => if b.givesWay d then some d else some b) none

/-- An event of a target is let through. -/
def isEnabled (filter : List Directive) (target : String) (e : Event) : Bool :=
  (deciding? filter target.toList e).any fun d => e.level.rank ≤ d.rank

end Gatehouse.Log
