/-
Patterns for the values of log fields: regular expressions over ASCII classes. Only whether a text is
one is asked here: groups and classes must be closed, a repetition needs something before it, and
classes that would need tables of other scripts are not available, nor is ignoring their case.
-/
import Gatehouse.Text.Alphanumeric
import Gatehouse.Text.Basic

namespace Gatehouse.Log

open Gatehouse.Text

/-! ## Escapes -/

/-- What a piece of a pattern stands for. -/
inductive Piece where
  | character (n : Nat)
  /-- A place between characters. -/
  | place
  deriving DecidableEq, Repr

/-- A character that an escape stands for as it is: any of ASCII but letters, digits and angles. -/
def isEscapable (c : Char) : Bool := c.toNat < 0x80 && !c.isAlphanum && c != '<' && c != '>'

/-- The control characters with an escape of one letter. -/
def controlOf? : Char → Option Nat
  | 'a' => some 7
  | 'f' => some 12
  | 't' => some 9
  | 'n' => some 10
  | 'r' => some 13
  | 'v' => some 11
  | _ => none

/-- The character whose number has so many hexadecimal digits, and what follows it. -/
def numbered? (digits : Nat) (cs : List Char) : Option (Piece × List Char) := do
  let n ← Hex.number? (cs.take digits)
  if digits ≤ cs.length ∧ n.isValidChar then return (.character n, cs.drop digits) else none

/-- What an escape stands for, after its backslash, and what follows it. -/
def escape? : List Char → Option (Piece × List Char)
  | [] => none
  | 'x' :: r => numbered? 2 r
  | 'u' :: r => numbered? 4 r
  | 'U' :: r => numbered? 8 r
  | 'A' :: r => some (.place, r)
  | 'z' :: r => some (.place, r)
  | c :: r =>
    match controlOf? c with
    | some n => some (.character n, r)
    | none => if isEscapable c then some (.character c.toNat, r) else none

/-! ## Classes -/

/-- The character at the front of a class, and what follows it. -/
def classCharacter? : List Char → Option (Nat × List Char)
  | [] => none
  | '\\' :: r =>
    match escape? r with
    | some (.character n, r) => some (n, r)
    | _ => none
  | c :: r => some (c.toNat, r)

/-- The named classes of ASCII. -/
def asciiClasses : List String :=
  ["alnum", "alpha", "ascii", "blank", "cntrl", "digit", "graph", "lower", "print", "punct", "space",
   "upper", "word", "xdigit"]

/-- What follows a named class, after its bracket. -/
def afterNamedClass? (cs : List Char) : Option (List Char) :=
  match cs with
  | ':' :: r =>
    let r := if r.head? = some '^' then r.drop 1 else r
    match r.dropWhile (· != ':') with
    | ':' :: ']' :: rest =>
      if asciiClasses.contains (String.ofList (r.takeWhile (· != ':'))) then some rest else none
    | _ => none
  | _ => none

/-- What stands in a class after its bracket and a caret, with hyphens and one closing bracket passed
over that stand first and for themselves. -/
def classBody (cs : List Char) : List Char :=
  let cs := if cs.head? = some '^' then cs.drop 1 else cs
  let body := cs.dropWhile (· == '-')
  if body.length = cs.length && body.head? = some ']' then body.drop 1 else body

/-- What follows the class that so many brackets have opened. -/
def afterClass? : Nat → Nat → List Char → Option (List Char)
  | 0, _, _ => none
  | _, _, [] => none
  | fuel + 1, depth, '[' :: r =>
    match afterNamedClass? r with
    | some rest => afterClass? fuel depth rest
    | none => afterClass? fuel (depth + 1) (classBody r)
  | fuel + 1, depth, ']' :: r => if depth ≤ 1 then some r else afterClass? fuel (depth - 1) r
  | fuel + 1, depth, '&' :: '&' :: r => afterClass? fuel depth r
  | fuel + 1, depth, '-' :: '-' :: r => afterClass? fuel depth r
  | fuel + 1, depth, '~' :: '~' :: r => afterClass? fuel depth r
  | fuel + 1, depth, cs => do
    let (first, rest) ← classCharacter? cs
    match rest with
    | '-' :: ']' :: _ => afterClass? fuel depth rest
    | '-' :: '-' :: _ => afterClass? fuel depth rest
    | '-' :: r =>
      let (last, rest) ← classCharacter? r
      if first ≤ last then afterClass? fuel depth rest else none
    | rest => afterClass? fuel depth rest

/-! ## Groups -/

/-- The flags before a colon or a closing parenthesis: each once, with at most one minus, which does
not come last. -/
def areFlags (flags : List Char) : Bool :=
  flags.all (fun c => "imsUuRx-".toList.contains c) && flags.eraseDups.length == flags.length &&
    flags.getLast? != some '-'

/-- Case is ignored after the flags. -/
def ignoresCase (before : Bool) (flags : List Char) : Bool :=
  if (flags.takeWhile (· != '-')).contains 'i' then true
  else if flags.contains 'i' then false
  else before

/-- The name of a group. -/
def isGroupName : List Char → Bool
  | [] => false
  | c :: r =>
    (c == '_' || isAlphanumeric c && !c.isDigit) &&
      r.all fun c => "_.[]".toList.contains c || isAlphanumeric c

/-! ## Patterns -/

/-- Where a scan of a pattern stands. -/
structure Scan where
  /-- Whether case is ignored, here and outside each open group. -/
  caseless : Bool
  outer : List Bool
  /-- There is something that a repetition can repeat. -/
  repeatable : Bool
  names : List (List Char)

/-- The rest of a pattern is one. -/
def scansFrom : Nat → Scan → List Char → Bool
  | 0, _, _ => false
  | _, scan, [] => scan.outer.isEmpty
  | fuel + 1, scan, c :: r =>
    let go := fun (repeatable : Bool) (rest : List Char) =>
      scansFrom fuel { scan with repeatable := repeatable } rest
    let opened := fun (caseless : Bool) (names : List (List Char)) (rest : List Char) =>
      scansFrom fuel ⟨caseless, scan.caseless :: scan.outer, false, names⟩ rest
    match c with
    | '(' =>
      match r with
      | '?' :: 'P' :: '<' :: r | '?' :: '<' :: r =>
        let (name, rest) := cutAt '>' r
        isGroupName name && !scan.names.contains name && r.contains '>' &&
          opened scan.caseless (name :: scan.names) rest
      | '?' :: r =>
        let flags := r.takeWhile fun c => c != ':' && c != ')'
        let caseless := ignoresCase scan.caseless flags
        match r.drop flags.length with
        | ':' :: rest => areFlags flags && opened caseless scan.names rest
        | ')' :: rest =>
          !flags.isEmpty && areFlags flags &&
            scansFrom fuel { scan with caseless := caseless, repeatable := false } rest
        | _ => false
      | r => opened scan.caseless scan.names r
    | ')' =>
      match scan.outer with
      | [] => false
      | caseless :: outer => scansFrom fuel ⟨caseless, outer, true, scan.names⟩ r
    | '|' => go false r
    | '[' =>
      match afterClass? (r.length + 1) 1 (classBody r) with
      | some rest => !scan.caseless && go true rest
      | none => false
    | '*' | '+' | '?' => scan.repeatable && go true r
    | '\x7b' => false
    | '.' | '^' | '$' => go true r
    | '\\' =>
      match escape? r with
      | some (.place, rest) => go true rest
      | some (.character _, rest) => !scan.caseless && go true rest
      | none => false
    | _ => !scan.caseless && go true r

/-- A text is a pattern. -/
def isPattern (cs : List Char) : Bool := scansFrom (cs.length + 1) ⟨false, [], false, []⟩ cs

end Gatehouse.Log
