import Cadence.Config.Load

/-!
# Cadence.Proofs.ConfigLoading

Where a configuration comes from, and why it is always valid.

Loading a file goes through three stages, each with an error of its own: reading the file (an
I/O error), reading its text as a configuration (a YAML error) and checking what it says (an
invalid configuration). A path the user names must load, and its error is the answer. Without
one, the candidate files are tried in order, the one in the user's configuration directory and
then the one in the working directory; a candidate that is missing, or fails at any stage, is
passed over, and the defaults stand when no candidate is left.

## Main results

* `Config.loadFile_stages`: loading a file fails at the first stage that fails, with that
  stage's error.
* `Config.load_none_eq_ok_iff`: without a path, the configuration is that of the first candidate
  that stands and loads, else the defaults.
* `Config.load_valid`: every configuration that loading gives passes its check.
* `Config.load_chain`: the whole chain at once.
-/

namespace Cadence.Config

/-- The candidate files, in the order they are tried: `loopkit/loopkit.yml` in the user's
configuration directory, if there is one, then `loopkit.yml` in the working directory. -/
def candidates (places : Places) : List Files.Path :=
  (places.configDir.map fun d => d ++ ["loopkit", fileName]).toList ++ [places.cwd ++ [fileName]]

/-- What a candidate file gives: its configuration, if something stands there and it loads. -/
def found (t : Files.Tree) (p : Files.Path) : Option Config :=
  if t.has p then (loadFile t p).toOption else none

variable (t : Files.Tree)

/-! ### Loading one file -/

/-- Loading a file reads it, reads its text and checks its interval, and fails at the first of
the three stages that fails, with that stage's error. -/
theorem loadFile_stages (p : Files.Path) :
    loadFile t p =
      match t.read p with
      | .error e => .error (.io e)
      | .ok text =>
        match Decode.configOfYaml text with
        | .error e => .error (.yaml e)
        | .ok c =>
          if c.defaultIntervalMs = 0 then .error (.invalidConfig "default_interval_ms must be > 0")
          else .ok c := by
  unfold loadFile
  cases t.read p with
  | error e => rfl
  | ok text =>
    -- the text is bound again inside the block, so the decoding is rewritten, not split
    cases decoded : Decode.configOfYaml text with
    | error e => simp [decoded]; rfl
    | ok c =>
      by_cases zero : c.defaultIntervalMs = 0
      · simp [decoded, zero, validate]; rfl
      · simp [decoded, zero, validate]; rfl

/-- A file loads exactly when it can be read, its text is a configuration, and that
configuration's interval is not zero. -/
theorem loadFile_eq_ok_iff (p : Files.Path) (c : Config) :
    loadFile t p = .ok c ↔
      ∃ text, t.read p = .ok text ∧ Decode.configOfYaml text = .ok c ∧ c.defaultIntervalMs ≠ 0 := by
  rw [loadFile_stages]
  cases t.read p with
  | error e => simp
  | ok text =>
    cases decoded : Decode.configOfYaml text with
    | error e => simp [decoded]
    | ok c' =>
      by_cases zero : c'.defaultIntervalMs = 0
      · -- the check fails, and no configuration with a zero interval is given
        simp [decoded, zero]
        rintro rfl
        exact zero
      · simp [decoded, zero]
        rintro rfl
        exact zero

/-- A configuration passes its check exactly when its interval is not zero. -/
theorem validate_eq_ok_iff (c : Config) : c.validate = .ok () ↔ 0 < c.defaultIntervalMs := by
  by_cases zero : c.defaultIntervalMs = 0 <;> simp [validate, zero, Nat.pos_iff_ne_zero]

/-- A configuration that a file gives passes its check. -/
theorem valid_of_loadFile {p : Files.Path} {c : Config} (loaded : loadFile t p = .ok c) :
    c.validate = .ok () := by
  obtain ⟨-, -, -, nonzero⟩ := (loadFile_eq_ok_iff t p c).mp loaded
  exact (validate_eq_ok_iff c).mpr (Nat.pos_of_ne_zero nonzero)

/-- The defaults pass their check. -/
theorem validate_default : ({} : Config).validate = .ok () := rfl

/-! ### The chain of candidates -/

/-- A candidate gives a configuration exactly when something stands there and it loads. -/
theorem found_eq_some_iff (p : Files.Path) (c : Config) :
    found t p = some c ↔ t.has p ∧ loadFile t p = .ok c := by
  unfold found
  cases t.has p with
  | false => simp
  | true => cases loadFile t p <;> simp [Except.toOption]

/-- Without a path, loading gives the configuration of the first candidate that gives one, and
the defaults when none does. -/
theorem load_none_eq (places : Places) :
    load t places none = .ok (((candidates places).findSome? (found t)).getD {}) := by
  unfold load candidates
  cases places.configDir with
  | none => simp [found]
  | some d =>
    -- the candidate in the configuration directory comes first
    simp only [Option.bind_some, Option.map_some, Option.toList_some, List.cons_append,
      List.nil_append]
    rw [List.findSome?_cons, List.findSome?_singleton]
    split <;> simp_all [found]

/-- **The fallback chain.** Without a path, loading gives `c` exactly when `c` comes from a
candidate that gives a configuration while every candidate before it gives none (is missing, or
fails to load), or when no candidate gives one and `c` is the defaults. -/
theorem load_none_eq_ok_iff (places : Places) (c : Config) :
    load t places none = .ok c ↔
      (∃ pre p post, candidates places = pre ++ p :: post ∧ (∀ q ∈ pre, found t q = none) ∧
        found t p = some c) ∨
      ((∀ q ∈ candidates places, found t q = none) ∧ c = {}) := by
  rw [load_none_eq, Except.ok.injEq]
  cases first : (candidates places).findSome? (found t) with
  | none =>
    have nothing := List.findSome?_eq_none_iff.mp first
    constructor
    · rintro rfl
      exact .inr ⟨nothing, rfl⟩
    · rintro (⟨pre, p, post, split, -, gives⟩ | ⟨-, rfl⟩)
      · rw [nothing p (by simp [split])] at gives
        cases gives
      · rfl
  | some c' =>
    obtain ⟨pre, p, post, split, gives, before⟩ := List.findSome?_eq_some_iff.mp first
    constructor
    · rintro rfl
      exact .inl ⟨pre, p, post, split, before, gives⟩
    · rintro (⟨pre', p', post', split', before', gives'⟩ | ⟨nothing, -⟩)
      · -- both are the first candidate that gives one, so they are the same
        have again : (candidates places).findSome? (found t) = some c :=
          List.findSome?_eq_some_iff.mpr ⟨pre', p', post', split', gives', before'⟩
        rw [first] at again
        exact Option.some.inj again
      · rw [nothing p (by simp [split])] at gives
        cases gives

/-- With a path, loading locates it from the working directory and loads that file; no
candidate is tried. -/
theorem load_some_eq (places : Places) (text : String) :
    load t places (some text) = (t.locate places.cwd text).mapError .io >>= loadFile t := by
  simp only [load]
  cases t.locate places.cwd text <;> rfl

/-- **Loaded configurations are valid.** Whatever the files, every configuration that loading
gives, from a path or from the chain, passes its check. -/
theorem load_valid (places : Places) (explicit : Option String) (c : Config)
    (loaded : load t places explicit = .ok c) : c.validate = .ok () := by
  cases explicit with
  | some text =>
    rw [load_some_eq] at loaded
    -- a located path is loaded as it stands; a path that cannot be located gives no configuration
    cases located : t.locate places.cwd text with
    | error e =>
      rw [located] at loaded
      cases loaded
    | ok p =>
      rw [located] at loaded
      exact valid_of_loadFile t loaded
  | none =>
    rcases (load_none_eq_ok_iff t places c).mp loaded with ⟨-, p, -, -, -, gives⟩ | ⟨-, rfl⟩
    · exact valid_of_loadFile t ((found_eq_some_iff t p c).mp gives).2
    · exact validate_default

/-- **Configuration loading.** For every file tree and every place the program looks in:

* with a path, loading is loading the file the path leads to, and nothing else;
* loading a file fails at the first of its three stages that fails, with that stage's error
  (reading it, reading its text, checking that its interval is not zero), and succeeds exactly
  when all three do;
* without a path, loading never fails: it gives the configuration of the first candidate that
  stands and loads, every earlier one being missing or failing to load, and the defaults when
  there is none;
* every configuration that loading gives passes its check, so its interval is positive. -/
theorem load_chain (places : Places) :
    (∀ text, load t places (some text) = (t.locate places.cwd text).mapError .io >>= loadFile t) ∧
    (∀ p, loadFile t p =
      match t.read p with
      | .error e => .error (.io e)
      | .ok text =>
        match Decode.configOfYaml text with
        | .error e => .error (.yaml e)
        | .ok c =>
          if c.defaultIntervalMs = 0 then .error (.invalidConfig "default_interval_ms must be > 0")
          else .ok c) ∧
    (∀ p c, loadFile t p = .ok c ↔
      ∃ text, t.read p = .ok text ∧ Decode.configOfYaml text = .ok c ∧ c.defaultIntervalMs ≠ 0) ∧
    (∃ c, load t places none = .ok c) ∧
    (∀ c, load t places none = .ok c ↔
      (∃ pre p post, candidates places = pre ++ p :: post ∧ (∀ q ∈ pre, found t q = none) ∧
        found t p = some c) ∨
      ((∀ q ∈ candidates places, found t q = none) ∧ c = {})) ∧
    (∀ explicit c, load t places explicit = .ok c →
      c.validate = .ok () ∧ 0 < c.defaultIntervalMs) := by
  refine ⟨load_some_eq t places, loadFile_stages t, loadFile_eq_ok_iff t,
    ⟨_, load_none_eq t places⟩, load_none_eq_ok_iff t places, ?_⟩
  intro explicit c loaded
  have valid := load_valid t places explicit c loaded
  exact ⟨valid, (validate_eq_ok_iff c).mp valid⟩

end Cadence.Config
