/-
Instants and spans of time, counted in nanoseconds; an instant counts from the start of 1970. The
seconds of an instant are rounded down, also before 1970; those of a span are rounded toward zero.
-/
namespace Gatehouse.Time

/-- The nanoseconds of a second. -/
def nanosPerSecond : Int := 1000000000

/-- A point in time. -/
structure Instant where
  nanos : Int
  deriving DecidableEq, Repr

/-- A span of time, of either sign. -/
structure Span where
  nanos : Int
  deriving DecidableEq, Repr

instance : LE Instant := ⟨fun a b => a.nanos ≤ b.nanos⟩

instance : LT Instant := ⟨fun a b => a.nanos < b.nanos⟩

instance (a b : Instant) : Decidable (a ≤ b) := inferInstanceAs (Decidable (a.nanos ≤ b.nanos))

instance (a b : Instant) : Decidable (a < b) := inferInstanceAs (Decidable (a.nanos < b.nanos))

/-! ## Seconds -/

/-- The instant at a whole second. -/
def Instant.ofSeconds (s : Int) : Instant := ⟨s * nanosPerSecond⟩

/-- The whole seconds up to an instant. -/
def Instant.seconds (t : Instant) : Int := t.nanos / nanosPerSecond

/-- The nanoseconds after the last whole second. -/
def Instant.subsecond (t : Instant) : Nat := (t.nanos % nanosPerSecond).toNat

/-- The last whole second up to an instant. -/
def Instant.floor (t : Instant) : Instant := .ofSeconds t.seconds

/-- A span of whole seconds. -/
def Span.ofSeconds (s : Int) : Span := ⟨s * nanosPerSecond⟩

/-- The whole seconds of a span, rounded toward zero. -/
def Span.seconds (d : Span) : Int := d.nanos.tdiv nanosPerSecond

/-- A span without a part of a second. -/
def Span.isWhole (d : Span) : Bool := d.nanos % nanosPerSecond = 0

/-- The instant a span later. -/
def Instant.plus (t : Instant) (d : Span) : Instant := ⟨t.nanos + d.nanos⟩

@[simp] theorem seconds_ofSeconds (s : Int) : (Instant.ofSeconds s).seconds = s := by
  simp [Instant.ofSeconds, Instant.seconds, nanosPerSecond]

theorem floor_le (t : Instant) : t.floor ≤ t := by
  show t.nanos / nanosPerSecond * nanosPerSecond ≤ t.nanos
  simp only [nanosPerSecond]
  omega

/-! ## The range of dates -/

/-- The first second of the year -262143. -/
def minSeconds : Int := -8334601228800

/-- The last second of the year 262142. -/
def maxSeconds : Int := 8210266876799

/-- An instant that has a date. -/
def Instant.isRepresentable (t : Instant) : Bool :=
  decide (minSeconds ≤ t.seconds ∧ t.seconds ≤ maxSeconds)

/-- The whole second of a number, if it has a date. -/
def Instant.ofSeconds? (s : Int) : Option Instant :=
  if (Instant.ofSeconds s).isRepresentable then some (.ofSeconds s) else none

end Gatehouse.Time
