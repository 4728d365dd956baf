import Cadence.Loop.Builder

/-!
# Cadence.Proofs.Intervals

Millisecond intervals are kept exactly.

An interval given as a count of milliseconds is stored as whole seconds and the nanoseconds of
the rest. Everything that reads it back joins the two again: the interval a strategy reports,
the milliseconds its text names, and the nanoseconds a wait lasts. Nothing is lost on the way
for any count, however large: the seconds take the thousands, and the nanoseconds take the
rest below a thousand scaled by a million, which stays below one second.

## Main results

* `Duration.toNanos_ofMillis`: a count of milliseconds lasts that many million nanoseconds.
* `Iteration.millis_interval_round_trip`: a throttled strategy of `n` milliseconds, given
  directly or through the default interval of a configuration, reports `n` as its interval and
  names `n` in its text.
-/

namespace Cadence

namespace Duration

/-- A count of milliseconds lasts that many million nanoseconds: the nanoseconds below the
whole seconds are the milliseconds below a thousand, scaled. -/
theorem toNanos_ofMillis (ms : Nat) : (ofMillis ms).toNanos = ms * 1000000 := by
  simp only [ofMillis, toNanos]
  omega

end Duration

namespace Builder

variable {γ σ α : Type}

/-- A pacing call that names no interval, made after a configuration, resolves to the
configuration's default interval. -/
theorem resolveIteration_after_config (b : Builder γ σ α) (c : Config) :
    ((b.apply (.withConfig c)).apply .throttled).resolveIteration = .throttled c.defaultInterval ∧
    ((b.apply (.withConfig c)).apply .reinterrupt).resolveIteration =
      .reinterrupt c.defaultInterval :=
  ⟨rfl, rfl⟩

end Builder

namespace Iteration

/-- **Millisecond intervals survive the round trip.** For every count `n` of milliseconds, the
interval `Duration.ofMillis n` lasts exactly `n` milliseconds; a throttled strategy and a
reinterrupt strategy at that interval report `n` as their interval and name `n` in their text;
and a builder that applies a configuration whose default interval is `n` and then asks for
either pacing without an interval builds exactly that strategy, whatever it held before. -/
theorem millis_interval_round_trip {γ σ α : Type} (n : Nat) :
    (Duration.ofMillis n).toNanos = n * 1000000 ∧
    (throttled (Duration.ofMillis n)).interval?.map Duration.toMillis = some n ∧
    (reinterrupt (Duration.ofMillis n)).interval?.map Duration.toMillis = some n ∧
    (throttled (Duration.ofMillis n)).describe = "throttled every " ++ toString n ++ "ms" ∧
    (reinterrupt (Duration.ofMillis n)).describe =
      "throttled every " ++ toString n ++ "ms (reinterrupt)" ∧
    ∀ (b : Builder γ σ α) (c : Config) (now : Nat),
      let c := { c with defaultIntervalMs := n }
      (((b.apply (.withConfig c)).apply .throttled).build now).iteration =
        throttled (Duration.ofMillis n) ∧
      (((b.apply (.withConfig c)).apply .reinterrupt).build now).iteration =
        reinterrupt (Duration.ofMillis n) := by
  have kept : (Duration.ofMillis n).toMillis = n := Duration.toMillis_ofMillis n
  refine ⟨Duration.toNanos_ofMillis n, ?_, ?_, ?_, ?_, ?_⟩
  · rw [interval?, Option.map_some, kept]
  · rw [interval?, Option.map_some, kept]
  -- the text is read off `describe` as it stands: rewriting with its equations is slow
  · show "throttled every " ++ toString (Duration.ofMillis n).toMillis ++ "ms" = _
    rw [kept]
  · show "throttled every " ++ toString (Duration.ofMillis n).toMillis ++ "ms (reinterrupt)" = _
    rw [kept]
  · intro b c now
    exact Builder.resolveIteration_after_config b { c with defaultIntervalMs := n }

/-- The largest interval a configuration can hold is printed whole. -/
example : (throttled (Duration.ofMillis 18446744073709551615)).describe =
    "throttled every 18446744073709551615ms" := by
  decide

end Iteration

end Cadence
