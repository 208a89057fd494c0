/-
Media types as a `Content-Type` names them: a type and a subtype, perhaps with a suffix after its last
plus, and parameters after semicolons. A body is JSON if its subtype or its suffix says so.
-/
namespace Gatehouse.Http

/-- A character of a name in a header field. -/
def isTokenChar (c : Char) : Bool := c.isAlphanum || "!#$%&'*+-.^_`|~".toList.contains c

/-! ## Parameters -/

/-- Where the reader of parameters stands. -/
inductive ParameterState where
  | beforeName
  | inName
  | beforeValue
  | inValue
  | beforeQuoted
  | inQuoted
  | afterQuoted
  deriving DecidableEq, Repr

/-- A character that may stand between quotes. -/
def isQuotedChar (c : Char) : Bool := c.toNat > 31 && c.toNat ≠ 127

/-- One character read. The first one between quotes never closes them. -/
def ParameterState.step (state : ParameterState) (c : Char) : Option ParameterState :=
  match state with
  | .beforeName => if c = ' ' then some .beforeName else if isTokenChar c then some .inName else none
  | .inName => if isTokenChar c then some .inName else if c = '=' then some .beforeValue else none
  | .beforeValue => if c = '"' then some .beforeQuoted else if isTokenChar c then some .inValue else none
  | .inValue => if isTokenChar c then some .inValue else if c = ';' then some .beforeName else none
  | .beforeQuoted => if isQuotedChar c then some .inQuoted else none
  | .inQuoted => if c = '"' then some .afterQuoted else if isQuotedChar c then some .inQuoted else none
  | .afterQuoted => if c = ';' then some .beforeName else if c = ' ' then some .afterQuoted else none

/-- The parameters may end here. -/
def ParameterState.mayEnd : ParameterState → Bool
  | .beforeName => true
  | .beforeValue => true
  | .inValue => true
  | .afterQuoted => true
  | .inName => false
  | .beforeQuoted => false
  | .inQuoted => false

/-- The characters are well-formed parameters. -/
def areParameters (cs : List Char) : Bool :=
  (cs.foldlM ParameterState.step ParameterState.beforeName).any ParameterState.mayEnd

/-! ## Types -/

/-- A media type in lower case. -/
structure MediaType where
  type : List Char
  subtype : List Char
  suffix : Option (List Char)
  deriving DecidableEq, Repr

/-- The subtype and the suffix after its last plus; a plus at the very beginning is no mark. -/
def splitSuffix (cs : List Char) : List Char × Option (List Char) :=
  let after := (cs.reverse.takeWhile (· != '+')).reverse
  if cs.length ≤ after.length + 1 then (cs, none)
  else (cs.take (cs.length - after.length - 1), some after)

/-- The media type that a text names. -/
def MediaType.parse? (cs : List Char) : Option MediaType :=
  let type := cs.takeWhile isTokenChar
  match cs.dropWhile isTokenChar with
  | '/' :: r =>
    let subtype := r.takeWhile isTokenChar
    let wellFormed :=
      match r.dropWhile isTokenChar with
      | [] => true
      | ';' :: parameters => !subtype.isEmpty && areParameters parameters
      | _ => false
    if type.isEmpty || !wellFormed then none
    else
      let (subtype, suffix) := splitSuffix (subtype.map Char.toLower)
      some ⟨type.map Char.toLower, subtype, suffix⟩
  | _ => none

/-- A media type of JSON texts. -/
def MediaType.isJson (m : MediaType) : Bool :=
  m.type = "application".toList && (m.subtype = "json".toList || m.suffix = some "json".toList)

/-- The text names a media type of JSON texts. -/
def namesJson (s : String) : Bool := (MediaType.parse? s.toList).any MediaType.isJson

end Gatehouse.Http
