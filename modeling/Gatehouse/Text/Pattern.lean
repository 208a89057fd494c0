/-
Patterns of texts: a character of a class, one pattern after another, and a pattern repeated within
bounds. A pattern is matched at the front of a text, where it leaves every rest that may stand behind
a match; it fits a text if it can leave nothing of it.
-/
namespace Gatehouse.Text

/-- A pattern of texts. -/
inductive Pattern where
  | one (allowed : Char → Bool)
  | seq (first second : Pattern)
  /-- At least so many repetitions and at most so many `more`, or any number of them. -/
  | times (least : Nat) (more : Option Nat) (pattern : Pattern)

namespace Pattern

def char (c : Char) : Pattern := .one (· == c)

def optional (p : Pattern) : Pattern := .times 0 (some 1) p

def many (p : Pattern) : Pattern := .times 0 none p

def many1 (p : Pattern) : Pattern := .times 1 none p

/-- The rests that so many steps leave. -/
def exactly (step : List Char → List (List Char)) : Nat → List Char → List (List Char)
  | 0, cs => [cs]
  | n + 1, cs => (step cs).flatMap (exactly step n)

/-- The rests that at most so many steps leave. -/
def upTo (step : List Char → List (List Char)) : Nat → List Char → List (List Char)
  | 0, cs => [cs]
  | n + 1, cs => cs :: (step cs).flatMap (upTo step n)

/-- The rests that matching the front of a text leaves. Where the number of repetitions is not bounded,
there is no use in more of them than there are characters. -/
def rests : Pattern → List Char → List (List Char)
  | .one _, [] => []
  | .one allowed, c :: cs => if allowed c then [cs] else []
  | .seq first second, cs => (first.rests cs).flatMap second.rests
  | .times least more pattern, cs =>
    (exactly pattern.rests least cs).flatMap fun rest =>
      upTo pattern.rests (more.getD rest.length) rest

/-- The pattern fits the whole text. -/
def fits (p : Pattern) (cs : List Char) : Bool := (p.rests cs).any List.isEmpty

end Pattern

end Gatehouse.Text
