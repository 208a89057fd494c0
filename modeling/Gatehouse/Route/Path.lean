/-
Canonical request paths. A path is a sequence of segments; a slash or a backslash parts two of
them. Empty segments and `.` vanish, `..` takes back the segment before it and never climbs above
the root, and the dots of either may be percent-escaped. The canonical form is `/` alone, or every
segment that is left after a slash of its own.
-/
namespace Gatehouse.Route

/-! ## Segments -/

/-- The segments of a path, cut at slashes and backslashes. -/
def segments (path : List Char) : List (List Char) :=
  path.splitOnP fun c => c == '/' || c == '\\'

/-- The segment for "here": a dot, plain or escaped in either case. -/
def isCurrent (segment : List Char) : Bool :=
  segment.map Char.toLower ∈ [".".toList, "%2e".toList]

/-- The segment for "one up": two dots, each plain or escaped in either case. -/
def isParent (segment : List Char) : Bool :=
  segment.map Char.toLower ∈ ["..".toList, ".%2e".toList, "%2e.".toList, "%2e%2e".toList]

/-! ## Resolution -/

/-- One segment walked, from the segments walked so far, the last of them first. -/
def walk (trail : List (List Char)) (segment : List Char) : List (List Char) :=
  if segment.isEmpty || isCurrent segment then trail
  else if isParent segment then trail.tail
  else segment :: trail

/-- The segments that are left of a path when all of it is walked. -/
def resolve (path : List Char) : List (List Char) :=
  ((segments path).foldl walk []).reverse

/-- A path that is written from its segments, each after a slash; the root is a slash alone. -/
def render : List (List Char) → List Char
  | [] => ['/']
  | s :: ss => (s :: ss).flatMap ('/' :: ·)

/-- The canonical form of a path. -/
def normalize (path : String) : String := String.ofList (render (resolve path.toList))

end Gatehouse.Route
