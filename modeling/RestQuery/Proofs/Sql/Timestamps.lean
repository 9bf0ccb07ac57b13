import RestQuery.Calendar.Reader
import RestQuery.Proofs.Calendar.Days
import RestQuery.Sql.Build
import RestQuery.Sql.Text

/-!
# The order of bound points of time

A point of time is bound as the microseconds since the start of the year 2000 in UTC, cut off
towards zero, in 64 bits.  These hold all points of time that there are, except leap seconds, and
keep their order; the offset at which a point is given plays no part.  So a range whose bounds are
in order has them in order where it is bound.

Main statement: `Sql.wire_timestamps`.
-/

namespace RestQuery

/-! ## Points of time -/

namespace Moment

/-- The nanoseconds from the start of the year 2000 in UTC to what the calendar and the clock show,
which is ahead of UTC by the offset. -/
def elapsed (moment : Moment) : Int :=
  (moment.date.number * 86400 + moment.clock.seconds - moment.offset) * 1000000000
    + moment.clock.nano

/-- What is shown says which instant it is. -/
theorem elapsed_eq (moment : Moment) :
    moment.elapsed = moment.instant.seconds * 1000000000 + moment.instant.nano := by
  have hclock : (moment.clock.seconds : Int) =
      (moment.instant.seconds + moment.offset) % 86400 := by
    simp only [clock, Clock.seconds]
    omega
  have hnano : moment.clock.nano = moment.instant.nano := rfl
  rw [elapsed, date, Date.number_ofNumber, hclock, hnano]
  omega

/-- Without leap seconds, what is shown is the same at the same instant only. -/
theorem instant_eq_of_elapsed {first second : Moment} (hfirst : first.clock.nano < 1000000000)
    (hsecond : second.clock.nano < 1000000000) (heq : first.elapsed = second.elapsed) :
    first.instant = second.instant := by
  have hfirst : first.instant.nano < 1000000000 := hfirst
  have hsecond : second.instant.nano < 1000000000 := hsecond
  rw [elapsed_eq, elapsed_eq, Instant.seconds, Instant.seconds] at heq
  have hclock := first.instant.second_lt
  have hother := second.instant.second_lt
  cases hinstant : first.instant
  cases hinstant' : second.instant
  simp only [hinstant, hinstant'] at *
  congr <;> omega

end Moment

/-- All instants are so near to the start of the year 2000 that 64 bits hold the microseconds. -/
theorem Instant.microseconds_mem (instant : Instant) (hnano : instant.nano < 1000000000) :
    -9223372036854775808 ≤ instant.microseconds ∧ instant.microseconds ≤ 9223372036854775807 := by
  have hfirst : -100000000 ≤ firstDay := by decide
  have hlast : lastDay ≤ 100000000 := by decide
  have hday := instant.day_mem
  have hsecond := instant.second_lt
  have hlow : -9000000000000000000000 ≤ instant.seconds * 1000000000 + instant.nano := by
    rw [seconds]
    omega
  have hhigh : instant.seconds * 1000000000 + instant.nano ≤ 9000000000000000000000 := by
    rw [seconds]
    omega
  have hpos : (0 : Int) < 1000 := by decide
  constructor
  · exact Int.le_trans (by decide) (Int.tdiv_le_tdiv hpos hlow)
  · exact Int.le_trans (Int.tdiv_le_tdiv hpos hhigh) (by decide)

namespace Sql

/-- The number that bytes write, the highest first. -/
def magnitude (bytes : List UInt8) : Nat := bytes.foldl (fun n byte => n * 256 + byte.toNat) 0

/-- The number that eight bytes write in two's complement. -/
def signed (bytes : List UInt8) : Int :=
  if magnitude bytes < 9223372036854775808 then magnitude bytes
  else magnitude bytes - 18446744073709551616

/-- Eight bytes write a number up to multiples of two to the power of 64. -/
theorem magnitude_bytes (n : Int) :
    magnitude (Value.bytes n) = (n % 18446744073709551616).toNat := by
  have hword : (n % 18446744073709551616).toNat < 18446744073709551616 := by omega
  have hsize : (UInt64.size : Int) = 18446744073709551616 := rfl
  rw [Value.bytes, hsize]
  generalize (n % 18446744073709551616).toNat = word at hword
  simp [magnitude, List.range_succ, Nat.shiftRight_eq_div_pow]
  omega

theorem length_bytes (n : Int) : (Value.bytes n).length = 8 := by
  rw [Value.bytes, List.length_map, List.length_reverse, List.length_range]

/-- Eight bytes write every number that 64 bits hold. -/
theorem signed_bytes {n : Int} (hlow : -9223372036854775808 ≤ n)
    (hhigh : n ≤ 9223372036854775807) : signed (Value.bytes n) = n := by
  rw [signed, magnitude_bytes]
  split <;> omega

/-- The wire form of a moment is read back as the microseconds that have passed. -/
theorem signed_wire {moment : Moment} (hnano : moment.clock.nano < 1000000000) :
    signed (Value.ofOperand (.datetime moment)).wire = moment.elapsed.tdiv 1000 := by
  obtain ⟨hlow, hhigh⟩ := moment.instant.microseconds_mem hnano
  rw [Moment.elapsed_eq]
  exact signed_bytes hlow hhigh

/-- The wire form keeps the order of moments. -/
theorem signed_wire_le {earlier later : Moment} (hearlier : earlier.clock.nano < 1000000000)
    (hlater : later.clock.nano < 1000000000) (hle : earlier.elapsed ≤ later.elapsed) :
    signed (Value.ofOperand (.datetime earlier)).wire ≤
      signed (Value.ofOperand (.datetime later)).wire := by
  rw [signed_wire hearlier, signed_wire hlater]
  exact Int.tdiv_le_tdiv (by decide) hle

/-- A range stands in a condition with its bounds in the order in which they were given. -/
theorem pieces_between (site : Site) (field : FieldRef) (low high : Operand) :
    (site.condition (.onField .between field [low, high])).pieces =
      (site.column field).pieces ++ [.text " BETWEEN ", .value (.ofOperand low), .text " AND ",
        .value (.ofOperand high)] := by
  simp [Clause.onField, Site.condition, Condition.pieces, checkPieces, operandPieces]

/-- A point of time that is no leap second is bound as eight bytes for the microseconds to what its
calendar and its clock show, whatever its offset.  Points that are the same are bound as the same
value with the same bytes, a later one never as a smaller number, and a range has its bounds where
they were given. -/
theorem wire_timestamps :
    (∀ moment : Moment, moment.clock.nano < 1000000000 →
      (-9223372036854775808 ≤ moment.elapsed.tdiv 1000 ∧
        moment.elapsed.tdiv 1000 ≤ 9223372036854775807) ∧
      (Value.ofOperand (.datetime moment)).wire.length = 8 ∧
      signed (Value.ofOperand (.datetime moment)).wire = moment.elapsed.tdiv 1000) ∧
    ∀ earlier later : Moment, earlier.clock.nano < 1000000000 → later.clock.nano < 1000000000 →
      (earlier.elapsed = later.elapsed →
        Value.ofOperand (.datetime earlier) = .ofOperand (.datetime later) ∧
        (Value.ofOperand (.datetime earlier)).wire = (Value.ofOperand (.datetime later)).wire) ∧
      (earlier.elapsed ≤ later.elapsed →
        signed (Value.ofOperand (.datetime earlier)).wire ≤
          signed (Value.ofOperand (.datetime later)).wire) ∧
      ∀ (site : Site) (field : FieldRef),
        (site.condition (.onField .between field [.datetime earlier, .datetime later])).pieces =
          (site.column field).pieces ++ [.text " BETWEEN ",
            .value (.ofOperand (.datetime earlier)), .text " AND ",
            .value (.ofOperand (.datetime later))] := by
  constructor
  · intro moment hnano
    refine ⟨?_, length_bytes _, signed_wire hnano⟩
    rw [Moment.elapsed_eq]
    exact moment.instant.microseconds_mem hnano
  · intro earlier later hearlier hlater
    refine ⟨fun heq => ?_, signed_wire_le hearlier hlater, fun site field =>
      pieces_between site field _ _⟩
    have hvalue : Value.ofOperand (.datetime earlier) = .ofOperand (.datetime later) :=
      congrArg Value.timestamp (Moment.instant_eq_of_elapsed hearlier hlater heq)
    exact ⟨hvalue, congrArg Value.wire hvalue⟩

/-- One point of time at two offsets, in two years; and two points within a microsecond of the start
of the year 2000, before it and after. -/
theorem wire_timestamps_midnight :
    (∃ first second, Calendar.read? "2024-01-01T01:30:00+02:00" = some first ∧
      Calendar.read? "2023-12-31T23:30:00Z" = some second ∧
      (Value.ofOperand (.datetime first)).wire = (Value.ofOperand (.datetime second)).wire) ∧
    ∃ before after, Calendar.read? "1999-12-31T23:59:59.999999500Z" = some before ∧
      Calendar.read? "2000-01-01T00:00:00.0000005Z" = some after ∧
      signed (Value.ofOperand (.datetime before)).wire ≤
        signed (Value.ofOperand (.datetime after)).wire := by
  have hread : ∀ {s : String} {nano : Nat} {elapsed : Int},
      (Calendar.read? s).map (fun moment => (moment.clock.nano, moment.elapsed)) =
        some (nano, elapsed) →
      ∃ moment, Calendar.read? s = some moment ∧ moment.clock.nano = nano ∧
        moment.elapsed = elapsed := by
    intro s nano elapsed hmap
    obtain ⟨moment, hmoment, hshown⟩ := Option.map_eq_some_iff.1 hmap
    exact ⟨moment, hmoment, Prod.mk.inj hshown⟩
  constructor
  · obtain ⟨first, hfirst, hnano, helapsed⟩ :=
      @hread "2024-01-01T01:30:00+02:00" 0 757380600000000000 (by decide +kernel)
    obtain ⟨second, hsecond, hnano', helapsed'⟩ :=
      @hread "2023-12-31T23:30:00Z" 0 757380600000000000 (by decide +kernel)
    obtain ⟨hsame, -, -⟩ := wire_timestamps.2 first second (by omega) (by omega)
    exact ⟨first, second, hfirst, hsecond, (hsame (helapsed.trans helapsed'.symm)).2⟩
  · obtain ⟨before, hbefore, hnano, helapsed⟩ :=
      @hread "1999-12-31T23:59:59.999999500Z" 999999500 (-500) (by decide +kernel)
    obtain ⟨after, hafter, hnano', helapsed'⟩ :=
      @hread "2000-01-01T00:00:00.0000005Z" 500 500 (by decide +kernel)
    obtain ⟨-, horder, -⟩ := wire_timestamps.2 before after (by omega) (by omega)
    exact ⟨before, after, hbefore, hafter, horder (by omega)⟩

end Sql

end RestQuery
