/-
The classes of a path: whether it belongs to the interface for programs, to the pages that anyone
may see, to the pages for those who are signed out, or to onboarding. Every class is a
case-sensitive match of the path's beginning, decided on its own; a path may be in several.
-/
namespace Gatehouse.Route

/-- The beginnings that put a path into each class. -/
structure RouteTable where
  api : String
  publicPages : List String
  authOnlyPages : List String
  onboarding : String
  deriving DecidableEq, Repr

/-- The classes a path is in. -/
structure PathClass where
  isPublic : Bool
  isAuthOnly : Bool
  isOnboarding : Bool
  isApi : Bool
  deriving DecidableEq, Repr

/-- The path begins with the given text. -/
def startsWith (path start : String) : Bool := start.toList.isPrefixOf path.toList

/-- The path begins with one of the given texts. -/
def startsWithAny (path : String) (starts : List String) : Bool := starts.any (startsWith path)

/-- The classes of a path, which is taken as it stands. -/
def RouteTable.classify (table : RouteTable) (path : String) : PathClass where
  isPublic := startsWithAny path table.publicPages
  isAuthOnly := startsWithAny path table.authOnlyPages
  isOnboarding := startsWith path table.onboarding
  isApi := startsWith path table.api

/-- The pages for those who are signed out. -/
def signedOutPages : List String := ["/login", "/register", "/forgot-password", "/reset-password"]

/-- The layout of the dashboard: its public pages are those for users who are signed out. -/
def RouteTable.reference : RouteTable where
  api := "/api"
  publicPages := signedOutPages
  authOnlyPages := signedOutPages
  onboarding := "/onboarding"

end Gatehouse.Route
