import Cadence.Loop.Builder

/-!
# Cadence.Proofs.LastCallWins

The last call wins.

A builder is a record of parts, and each builder call overwrites one or two of them and leaves
the rest alone. Applying calls in order therefore leaves every part as the last call that wrote
it left it, and the start value when no call wrote it. `build` only reads the parts, so the
handle it makes is a function of, for each part, the last call that wrote it: the order of calls
that write different parts does not matter, not even for the default interval, which a
configuration may set before or after the pacing call that uses it.

## Main results

* `Builder.applyAll_part`: a part that every call either overwrites with the value it picks or
  leaves alone ends up as the value the last picking call picked.
* `build_last_call_wins`: the handle built from a factory and any list of calls, part by part,
  in terms of the last call of each kind.
-/

namespace Cadence

variable {γ σ α β δ : Type}

/-- The value that the last of `calls` to pick one picks with `pick`, if any does. -/
def lastPick (pick : Call γ σ α → Option β) (calls : List (Call γ σ α)) : Option β :=
  (calls.filterMap pick).getLast?

namespace Call

/-- The pacing a call sets, with the interval it names. -/
def mode? : Call γ σ α → Option Mode
  | .busy => some .busy
  | .throttled => some (.throttled none)
  | .throttledAt d => some (.throttled (some d))
  | .reinterrupt => some (.reinterrupt none)
  | .reinterruptAt d => some (.reinterrupt (some d))
  | _ => none

/-- The configuration a call applies. -/
def config? : Call γ σ α → Option Config
  | .withConfig c => some c
  | _ => none

/-- The failure policy a call sets: its own, or its configuration's. -/
def policy? : Call γ σ α → Option FailurePolicy
  | .failurePolicy p => some p
  | .withConfig c => some c.failurePolicy
  | _ => none

/-- The hook a call sets. -/
def hook? : Call γ σ α → Option (Hook σ α)
  | .onFinish f => some (.effect f)
  | .onComplete f => some (.consumer f)
  | _ => none

/-- The terminator a call gives whole. -/
def terminator? : Call γ σ α → Option (Terminator γ)
  | .terminator t => some t
  | _ => none

/-- The condition a call gives. -/
def until? : Call γ σ α → Option (Terminator γ)
  | .until t => some t
  | _ => none

/-- The time limit a call gives. -/
def timeout? : Call γ σ α → Option Duration
  | .timeout d => some d
  | _ => none

end Call

/-- The calls a factory makes on a fresh builder. -/
def Factory.calls : Factory → List (Call γ σ α)
  | .plain => []
  | .hyper => [.busy]
  | .sleepy => [.throttled]
  | .sleepyAt d => [.throttledAt d]
  | .sleepyReinterruptAt d => [.reinterruptAt d]

/-! ### The last pick -/

section LastPick

variable (pick : Call γ σ α → Option β)

@[simp] theorem lastPick_nil : lastPick pick [] = none := rfl

/-- A call in front of the others picks only if none of them does. -/
theorem lastPick_cons (c : Call γ σ α) (calls : List (Call γ σ α)) :
    lastPick pick (c :: calls) = (lastPick pick calls).or (pick c) := by
  cases picked : pick c with
  | none => simp [lastPick, picked]
  | some b => simp [lastPick, picked, List.getLast?_cons]

/-- Picking a value and then looking at part of it is picking that part. -/
theorem lastPick_map (f : β → δ) (calls : List (Call γ σ α)) :
    lastPick (fun c => (pick c).map f) calls = (lastPick pick calls).map f := by
  rw [lastPick, lastPick, ← List.map_filterMap, List.getLast?_map]

end LastPick

/-! ### Parts of a builder -/

namespace Builder

/-- Applying calls one list after another is applying them all. -/
theorem applyAll_append (b : Builder γ σ α) (first second : List (Call γ σ α)) :
    b.applyAll (first ++ second) = (b.applyAll first).applyAll second := by
  rw [applyAll, applyAll, applyAll, List.foldl_append]

/-- **The last call wins.** A part of the builder that each call either overwrites with the
value it picks or leaves alone is, after a list of calls, the value that the last picking call
picked, or the value it started with if no call picks one. -/
theorem applyAll_part (part : Builder γ σ α → β) (pick : Call γ σ α → Option β)
    (writes : ∀ b c, part (b.apply c) = (pick c).getD (part b)) :
    ∀ (calls : List (Call γ σ α)) (b : Builder γ σ α),
      part (b.applyAll calls) = (lastPick pick calls).getD (part b)
  | [], _ => rfl
  | c :: calls, b => by
    have rest := applyAll_part part pick writes calls (b.apply c)
    rw [applyAll, List.foldl_cons, ← applyAll, rest, writes, lastPick_cons, Option.getD_or]

/-- The same for a part that holds an optional value, which calls only ever fill: it is the
value the last picking call picked, or the one it started with. -/
theorem applyAll_filled (part : Builder γ σ α → Option β) (pick : Call γ σ α → Option β)
    (fills : ∀ b c, part (b.apply c) = (pick c).or (part b)) (calls : List (Call γ σ α))
    (b : Builder γ σ α) : part (b.applyAll calls) = (lastPick pick calls).or (part b) := by
  have writes : ∀ b c, part (b.apply c) = ((pick c).map some).getD (part b) := by
    intro b c
    rw [fills]
    cases pick c <;> rfl
  rw [applyAll_part part _ writes, lastPick_map]
  cases lastPick pick calls <;> rfl

variable (calls : List (Call γ σ α)) (b : Builder γ σ α)

@[simp] theorem applyAll_work : (b.applyAll calls).work = b.work := by
  -- no call picks a unit of work
  have kept := applyAll_part work (fun _ => none) (fun _ c => by cases c <;> rfl) calls b
  rwa [lastPick, List.filterMap_eq_nil_iff.mpr fun _ _ => rfl] at kept

theorem applyAll_mode : (b.applyAll calls).mode = (lastPick Call.mode? calls).getD b.mode :=
  applyAll_part mode Call.mode? (fun _ c => by cases c <;> rfl) calls b

theorem applyAll_defaultInterval :
    (b.applyAll calls).defaultInterval =
      ((lastPick Call.config? calls).map Config.defaultInterval).getD b.defaultInterval := by
  rw [← lastPick_map]
  exact applyAll_part defaultInterval _ (fun _ c => by cases c <;> rfl) calls b

theorem applyAll_policy : (b.applyAll calls).policy = (lastPick Call.policy? calls).getD b.policy :=
  applyAll_part policy Call.policy? (fun _ c => by cases c <;> rfl) calls b

theorem applyAll_hook : (b.applyAll calls).hook = (lastPick Call.hook? calls).getD b.hook :=
  applyAll_part hook Call.hook? (fun _ c => by cases c <;> rfl) calls b

theorem applyAll_terminator :
    (b.applyAll calls).terminator = (lastPick Call.terminator? calls).or b.terminator :=
  applyAll_filled terminator Call.terminator? (fun _ c => by cases c <;> rfl) calls b

theorem applyAll_condition :
    (b.applyAll calls).condition = (lastPick Call.until? calls).or b.condition :=
  applyAll_filled condition Call.until? (fun _ c => by cases c <;> rfl) calls b

theorem applyAll_deadline :
    (b.applyAll calls).deadline = (lastPick Call.timeout? calls).or b.deadline :=
  applyAll_filled deadline Call.timeout? (fun _ c => by cases c <;> rfl) calls b

end Builder

/-- A factory's builder is a fresh builder after the factory's own calls. -/
theorem Factory.start_eq (f : Factory) (work : σ → Except Fault α × σ) :
    (f.start work : Builder γ σ α) = ({ work } : Builder γ σ α).applyAll f.calls := by
  cases f <;> rfl

/-! ### The handle a builder makes -/

/-- **Builder calls resolve to the last call of each kind.** Build a handle from a factory's
builder after any list of calls, and read `all` as the factory's own calls followed by them:

* the strategy is that of the last pacing call, `busy` if there is none; a throttled pacing that
  names no interval takes the default interval of the last configuration applied, before or
  after it, as it stands (zero included), and 1000 ms when no configuration was applied;
* the policy is that of the last policy call or configuration, `contain` if there is none;
* the hook is that of the last hook call, none if there is none;
* the terminator is the last one given whole; without one, it is built from the last condition
  and the last time limit: both give the deadline **and** the condition, one gives itself, and
  neither gives `never`. -/
theorem build_last_call_wins (f : Factory) (work : σ → Except Fault α × σ)
    (calls : List (Call γ σ α)) (now : Nat) :
    let all := f.calls ++ calls
    let h := ((f.start work).applyAll calls).build now
    let interval := match lastPick Call.config? all with
      | some c => Duration.ofMillis c.defaultIntervalMs
      | none => Duration.ofMillis 1000
    h.work = work ∧
    h.iteration = (match lastPick Call.mode? all with
      | none | some .busy => .busy
      | some (.throttled d) => .throttled (d.getD interval)
      | some (.reinterrupt d) => .reinterrupt (d.getD interval)) ∧
    h.policy = (lastPick Call.policy? all).getD .contain ∧
    h.hook = (lastPick Call.hook? all).getD .none ∧
    h.terminator = (match lastPick Call.terminator? all, lastPick Call.until? all,
        lastPick Call.timeout? all with
      | some t, _, _ => t
      | none, none, none => .never
      | none, some c, none => c
      | none, none, some d => .timeout ⟨now, d.toMillis⟩
      | none, some c, some d => .timeoutAnd c ⟨now, d.toMillis⟩) := by
  intro all h interval
  -- the factory's calls come first, so the handle is that of a fresh builder after `all`
  have fresh : (f.start work).applyAll calls = ({ work } : Builder γ σ α).applyAll all := by
    rw [Factory.start_eq, ← Builder.applyAll_append]
  refine ⟨?unit, ?pacing, ?policy, ?hook, ?ending⟩
  case unit => simp only [h, Builder.build, fresh, Builder.applyAll_work]
  case pacing =>
    have configured : (({ work } : Builder γ σ α).applyAll all).defaultInterval = interval := by
      simp only [Builder.applyAll_defaultInterval, interval]
      cases lastPick Call.config? all <;> rfl
    simp only [h, Builder.build, Builder.resolveIteration, fresh, Builder.applyAll_mode,
      configured]
    rcases lastPick Call.mode? all with _ | _ | _ | _ <;> rfl
  case policy => simp only [h, Builder.build, fresh, Builder.applyAll_policy]
  case hook => simp only [h, Builder.build, fresh, Builder.applyAll_hook]
  case ending =>
    simp only [h, Builder.build, Builder.resolveTerminator, fresh, Builder.applyAll_terminator,
      Builder.applyAll_condition, Builder.applyAll_deadline]
    rcases lastPick Call.terminator? all with _ | _ <;>
      rcases lastPick Call.until? all with _ | _ <;>
      rcases lastPick Call.timeout? all with _ | _ <;> rfl

/-- A throttled pacing that names no interval takes a configuration's interval even when the
configuration comes after it, and keeps a zero. -/
example :
    let b : Builder Unit Unit Nat := Factory.plain.start fun s => (.ok 0, s)
    ((b.applyAll [.throttledAt (Duration.ofMillis 5), .throttled,
      .withConfig { defaultIntervalMs := 0 }]).build 0).iteration.interval?.map Duration.toMillis =
      some 0 := by
  decide

end Cadence
