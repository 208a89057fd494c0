/-
Instants in their order, and whole seconds: an instant that is one is found again from its seconds,
and the last whole second up to a date is a date. The last instant that has a date ends the order.
-/
import Gatehouse.Time.Instant

namespace Gatehouse.Time

/-! ## The order -/

theorem Instant.not_le {a b : Instant} : ¬ a ≤ b ↔ b < a := Int.not_le

theorem Instant.not_lt {a b : Instant} : ¬ a < b ↔ b ≤ a := Int.not_lt

theorem Instant.lt_of_le_of_lt {a b c : Instant} (hab : a ≤ b) (hbc : b < c) : a < c := Int.lt_of_le_of_lt hab hbc

/-! ## Whole seconds -/

/-- A whole second that has a date. -/
def Instant.IsDatedSecond (t : Instant) : Prop := t.floor = t ∧ t.isRepresentable = true

instance (t : Instant) : Decidable t.IsDatedSecond := inferInstanceAs (Decidable (_ ∧ _))

theorem ofSeconds?_seconds {t : Instant} (h : t.IsDatedSecond) : Instant.ofSeconds? t.seconds = some t := by
  have hfloor : Instant.ofSeconds t.seconds = t := h.1
  rw [Instant.ofSeconds?, hfloor, if_pos h.2]

theorem seconds_bounds {t : Instant} (h : t.isRepresentable = true) :
    minSeconds ≤ t.seconds ∧ t.seconds ≤ maxSeconds := of_decide_eq_true h

theorem floor_floor (t : Instant) : t.floor.floor = t.floor := by
  rw [Instant.floor, Instant.floor, seconds_ofSeconds]

theorem seconds_floor (t : Instant) : t.floor.seconds = t.seconds := seconds_ofSeconds t.seconds

theorem isDatedSecond_floor {t : Instant} (h : t.isRepresentable = true) : t.floor.IsDatedSecond := by
  refine ⟨floor_floor t, ?_⟩
  rw [Instant.isRepresentable, seconds_floor]
  exact h

@[simp] theorem Span.seconds_ofSeconds (n : Int) : (Span.ofSeconds n).seconds = n :=
  Int.mul_tdiv_cancel n (by decide)

theorem isWhole_ofSeconds (n : Int) : (Span.ofSeconds n).isWhole = true :=
  decide_eq_true (Int.mul_emod_left n nanosPerSecond)

theorem seconds_plus_ofSeconds (t : Instant) (n : Int) : (t.plus (.ofSeconds n)).seconds = t.seconds + n :=
  Int.add_mul_ediv_right t.nanos n (by decide)

theorem floor_plus {t : Instant} (ht : t.floor = t) {d : Span} (hd : d.isWhole = true) :
    (t.plus d).floor = t.plus d := by
  obtain ⟨n⟩ := t
  obtain ⟨m⟩ := d
  have ht : n / nanosPerSecond * nanosPerSecond = n := congrArg Instant.nanos ht
  have hd : m % nanosPerSecond = 0 := of_decide_eq_true hd
  simp only [nanosPerSecond] at ht hd
  show Instant.mk ((n + m) / nanosPerSecond * nanosPerSecond) = Instant.mk (n + m)
  congr 1
  simp only [nanosPerSecond]
  omega

/-! ## The last instant -/

/-- The last nanosecond of the last second that has a date. -/
def lastInstant : Instant := ⟨maxSeconds * nanosPerSecond + (nanosPerSecond - 1)⟩

/-- No instant after it has a date, and none up to it is too late for one. -/
theorem le_lastInstant_iff {t : Instant} : t ≤ lastInstant ↔ t.seconds ≤ maxSeconds := by
  show t.nanos ≤ lastInstant.nanos ↔ t.nanos / nanosPerSecond ≤ maxSeconds
  simp only [lastInstant, nanosPerSecond, maxSeconds]
  omega

/-- From 1970 on, with 365 days left before the last instant. -/
def Instant.HasYearLeft (t : Instant) : Prop := 0 ≤ t.nanos ∧ t.plus (.ofSeconds (365 * 24 * 60 * 60)) ≤ lastInstant

instance (t : Instant) : Decidable t.HasYearLeft := inferInstanceAs (Decidable (_ ∧ _))

theorem Instant.HasYearLeft.isRepresentable_plus {t : Instant} (h : t.HasYearLeft) {n : Int} (hlo : 0 ≤ n)
    (hhi : n ≤ 365 * 24 * 60 * 60) : (t.floor.plus (.ofSeconds n)).isRepresentable = true := by
  obtain ⟨hsince, hyear⟩ := h
  rw [le_lastInstant_iff, seconds_plus_ofSeconds] at hyear
  have hseconds : 0 ≤ t.seconds := Int.ediv_nonneg hsince (by decide)
  -- the fraction of a second that the start is cut by only brings the end forward
  have hend : (t.floor.plus (.ofSeconds n)).seconds = t.seconds + n := by
    rw [seconds_plus_ofSeconds, seconds_floor]
  have hmin : minSeconds ≤ 0 := by decide
  refine decide_eq_true ?_
  rw [hend]
  constructor <;> omega

end Gatehouse.Time
