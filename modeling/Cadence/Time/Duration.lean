/-!
# Durations

A span of time as whole seconds and a nanosecond remainder below one second. Loop intervals
and deadlines are given in milliseconds; `Duration.ofMillis` splits a count into seconds and
nanoseconds and `Duration.toMillis` joins them again, so the count survives the round trip.

## Debug text

`Duration.debugText` picks the largest unit in which the span is at least one (seconds,
milliseconds, microseconds, else nanoseconds), writes the whole part in that unit and then, if
the rest is not zero, a point and the rest's digits with the trailing zeros dropped:
1500 ms is `1.5s`, 60000 ms is `60s`, 5 ms is `5ms` and the empty span is `0ns`.
-/
namespace Cadence

/-- A span of time: whole seconds and the nanoseconds below the next second. -/
structure Duration where
  secs : Nat
  nanos : Nat
  nanos_lt : nanos < 1000000000
  deriving Repr

namespace Duration

instance : BEq Duration where
  beq a b := a.secs == b.secs && a.nanos == b.nanos

/-- The empty span. -/
def zero : Duration := ⟨0, 0, by decide⟩

/-- A whole number of milliseconds. -/
def ofMillis (ms : Nat) : Duration :=
  ⟨ms / 1000, (ms % 1000) * 1000000, by omega⟩

/-- The whole milliseconds of a span; the nanoseconds below a millisecond are dropped. -/
def toMillis (d : Duration) : Nat :=
  d.secs * 1000 + d.nanos / 1000000

/-- The nanoseconds of a span. -/
def toNanos (d : Duration) : Nat := d.secs * 1000000000 + d.nanos

/-- A whole number of nanoseconds. -/
def ofNanos (n : Nat) : Duration := ⟨n / 1000000000, n % 1000000000, Nat.mod_lt _ (by decide)⟩

/-- A span divided by a whole divisor, rounded down to the nanosecond; dividing by zero gives
the empty span. -/
def divide (d : Duration) (k : Nat) : Duration := ofNanos (d.toNanos / k)

/-- A span multiplied by a whole factor. -/
def scale (d : Duration) (k : Nat) : Duration :=
  let total := (d.secs * 1000000000 + d.nanos) * k
  ⟨total / 1000000000, total % 1000000000, Nat.mod_lt _ (by decide)⟩

/-- The decimal digits of `n`, at least `width` of them, with leading zeros added. -/
def padded (n width : Nat) : List Char :=
  let ds := Nat.toDigits 10 n
  List.replicate (width - ds.length) '0' ++ ds

/-- `whole`, then a point and the `width` digits of `frac` without trailing zeros, unless
`frac` is zero. -/
def decimalText (whole frac width : Nat) : String :=
  if frac = 0 then toString whole
  else
    let digits := (padded frac width).reverse.dropWhile (· == '0') |>.reverse
    toString whole ++ "." ++ String.ofList digits

/-- The span in its largest unit of which it holds at least one. -/
def debugText (d : Duration) : String :=
  if d.secs > 0 then decimalText d.secs d.nanos 9 ++ "s"
  else if d.nanos ≥ 1000000 then decimalText (d.nanos / 1000000) (d.nanos % 1000000) 6 ++ "ms"
  else if d.nanos ≥ 1000 then decimalText (d.nanos / 1000) (d.nanos % 1000) 3 ++ "µs"
  else toString d.nanos ++ "ns"

theorem toMillis_ofMillis (ms : Nat) : (ofMillis ms).toMillis = ms := by
  simp only [ofMillis, toMillis]
  omega

end Duration

end Cadence
