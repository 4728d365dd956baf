import Cadence.Decode.Json
import Cadence.Proofs.Json.ReadBack
import Cadence.Proofs.Json.Views

/-!
# Cadence.Proofs.ExitEncoding

How a loop ended, as JSON: the encoding reads back, and the reader accepts exactly the spellings
of an ending.

An ending is written as an object tagged by `cause`, `terminated`, `cancelled` or `failed`; a
failure also writes its text under `message`. Reading accepts more than this canonical form. The
tag may be the variant's name or an object whose one member is the name with `null` under it,
keys may come in any order and unknown ones are ignored, an ending without a text may carry
`null` under `message`, and the whole may be a pair of the variant's name and its content. Each
accepted value spells one ending, and writing that ending gives its canonical form.

## Main results

* `Decode.exitOfJson_eq_ok_iff`: reading a value gives an ending exactly when the value spells it.
* `Decode.exitOfJson_toJson`: the canonical form of an ending reads back as the ending.
* `Exit.parse_compact_toJson`: the compact text of the canonical form parses back to it, for
  every failure text.
* `Exit.json_encoding_round_trips`: the whole contract: round trip, canonical texts, what reading
  accepts, and the text and level of each ending.

## Proof strategy

Reading an ending has two stages, the tag and the content, and each gets a lemma that says when
it succeeds (`unitVariantOfJson_eq_ok`, `exitWith_eq_ok`); the object and the pair forms are then
short case splits over those two. The text round trip comes from `Json.parse_compact_strings`,
since each canonical form is an object of strings under distinct keys.
-/

namespace Cadence

open Json (Number)

/-! ### What an accepted value says -/

/-- What an ending holds under `message`: a failure its text; the other endings nothing, which
may be written as `null`. -/
def Exit.Carries : Exit → Option Json → Prop
  | .failed m, content => content = some (.string m)
  | _, content => content = none ∨ content = some .null

/-- A tag that names the variant `name`: the name itself, or an object that, read as a map,
holds the name with `null` under it and nothing else. -/
def Decode.NamesVariant (tag : Json) (name : String) : Prop :=
  tag = .string name ∨ ∃ members, tag = .object members ∧ Json.entries members = [(name, .null)]

/-- The JSON values that spell an ending: an object whose last `cause` names the ending's
variant and whose last `message` holds what the ending holds, or a pair of the variant's name and
that content. -/
def Exit.SpelledBy (e : Exit) (j : Json) : Prop :=
  (∃ members tag, j = .object members ∧ j.field? "cause" = some tag ∧
      Decode.NamesVariant tag e.cause ∧ e.Carries (j.field? "message")) ∨
  (∃ content, j = .array [.string e.cause, content] ∧ e.Carries (some content))

theorem Exit.cause_mem_exitNames (e : Exit) : e.cause ∈ Decode.exitNames := by
  cases e <;> simp [Exit.cause, Decode.exitNames]

namespace Decode

theorem NamesVariant.unique {tag : Json} {a b : String} (first : NamesVariant tag a)
    (second : NamesVariant tag b) : a = b := by
  rcases first with rfl | ⟨members, rfl, single⟩ <;>
    rcases second with same | ⟨others, same, other⟩ <;> simp_all

/-! ### The two stages of reading an ending -/

/-- A unit variant's name is read when it is one of the names and the tag names it. -/
theorem unitVariantOfJson_eq_ok (names : List String) (tag : Json) (name : String) :
    unitVariantOfJson names tag = .ok name ↔ name ∈ names ∧ NamesVariant tag name := by
  cases tag with
  | string s =>
    by_cases known : s ∈ names <;> simp [unitVariantOfJson, NamesVariant, known] <;> grind
  | object members =>
    -- the map view of the tag holds no entry, one entry, or more
    rcases single : Json.entries members with _ | ⟨⟨n, content⟩, _ | _⟩
    · simp [unitVariantOfJson, NamesVariant, single]
    · by_cases known : n ∈ names <;> cases content <;>
        simp [unitVariantOfJson, NamesVariant, single, known, pure, Except.pure] <;> grind
    · simp [unitVariantOfJson, NamesVariant, single]
  | _ => simp [unitVariantOfJson, NamesVariant]

/-- Once the tag is known, the content gives the ending of that tag exactly when the ending
carries it. -/
theorem exitWith_eq_ok (tag : String) (known : tag ∈ exitNames) (content : Option Json)
    (e : Exit) :
    exitWith tag content = .ok e ↔ e.cause = tag ∧ e.Carries content := by
  simp only [exitNames, List.mem_cons, List.not_mem_nil, or_false] at known
  rcases known with rfl | rfl | rfl <;> cases e <;>
    rcases content with _ | (_ | _ | _ | _ | _ | _) <;>
    simp [exitWith, Exit.cause, Exit.Carries]

/-! ### Reading an ending -/

theorem exitOfJson_object_eq_ok (members : List (String × Json)) (e : Exit) :
    exitOfJson (.object members) = .ok e ↔
      ∃ tag, (Json.object members).field? "cause" = some tag ∧ NamesVariant tag e.cause ∧
        e.Carries ((Json.object members).field? "message") := by
  simp only [← Json.lookup_entries]
  rcases cause : (Json.entries members).lookup "cause" with _ | tag
  · simp [exitOfJson, cause]
  · rcases named : unitVariantOfJson exitNames tag with failure | name
    · -- a tag that is not read names no variant at all
      have unnamed : ¬NamesVariant tag e.cause := by
        intro names
        have accepted := (unitVariantOfJson_eq_ok _ _ _).2 ⟨e.cause_mem_exitNames, names⟩
        rw [named] at accepted
        cases accepted
      simp [exitOfJson, cause, named, bind, Except.bind, unnamed]
    · obtain ⟨known, names⟩ := (unitVariantOfJson_eq_ok _ _ _).1 named
      simp only [exitOfJson, cause, named, bind, Except.bind, exitWith_eq_ok name known]
      constructor
      · rintro ⟨rfl, carries⟩
        exact ⟨tag, rfl, names, carries⟩
      · rintro ⟨_, same, names', carries⟩
        cases same
        exact ⟨NamesVariant.unique names' names, carries⟩

theorem exitOfJson_array_eq_ok (items : List Json) (e : Exit) :
    exitOfJson (.array items) = .ok e ↔
      ∃ content, items = [.string e.cause, content] ∧ e.Carries (some content) := by
  rcases items with _ | ⟨first, rest⟩
  · simp [exitOfJson]
  cases first with
  | string tag =>
    by_cases known : tag ∈ exitNames
    · -- a pair is read; a single name or a longer sequence is refused
      rcases rest with _ | ⟨content, _ | ⟨extra, more⟩⟩
      · simp [exitOfJson, known]
      · have read : exitOfJson (.array [.string tag, content]) = exitWith tag (some content) := by
          simp [exitOfJson, known]
        rw [read, exitWith_eq_ok tag known]
        constructor
        · rintro ⟨same, carries⟩
          exact ⟨content, by rw [same], carries⟩
        · rintro ⟨_, same, carries⟩
          simp only [List.cons.injEq, Json.string.injEq, and_true] at same
          obtain ⟨rfl, rfl⟩ := same
          exact ⟨rfl, carries⟩
      · rcases read : exitWith tag (some content) with failure | ending <;>
          simp [exitOfJson, known, bind, Except.bind, read]
    · have unnamed : tag ≠ e.cause := fun same => known (same ▸ e.cause_mem_exitNames)
      simp [exitOfJson, known, unnamed]
  | _ => simp [exitOfJson]

/-- **What reading accepts.** Reading a value gives an ending exactly when the value spells it. -/
theorem exitOfJson_eq_ok_iff (j : Json) (e : Exit) : exitOfJson j = .ok e ↔ e.SpelledBy j := by
  cases j with
  | object members => simp [Exit.SpelledBy, exitOfJson_object_eq_ok]
  | array items => simp [Exit.SpelledBy, exitOfJson_array_eq_ok]
  | _ => simp [exitOfJson, Exit.SpelledBy]

/-- The keys of a failure may come in either order. -/
example : exitOfJson (.object [("message", .string "boom"), ("cause", .string "failed")]) =
    .ok (.failed "boom") := by
  cbv

end Decode

/-! ### The canonical form -/

namespace Exit

/-- The canonical form of an ending spells it. -/
theorem spelledBy_toJson (e : Exit) : e.SpelledBy e.toJson := by
  -- the tag is written as the variant's name, which is what `cause` names
  cases e <;>
    exact Or.inl ⟨_, .string _, rfl, by simp [toJson, Json.field?, cause], Or.inl rfl,
      by simp [toJson, Json.field?, Carries]⟩

/-- Each canonical form is an object of strings under distinct keys, so its compact text parses
back to it, whatever the failure's text holds. -/
theorem parse_compact_toJson (e : Exit) : Json.parse (Json.compact e.toJson) = .ok e.toJson := by
  cases e with
  | terminated => exact Json.parse_compact_strings [("cause", "terminated")] (by simp)
  | cancelled => exact Json.parse_compact_strings [("cause", "cancelled")] (by simp)
  | failed m => exact Json.parse_compact_strings [("cause", "failed"), ("message", m)] (by simp)

/-- The compact text of a failure's canonical form. -/
theorem compact_failed_toJson (m : String) :
    Json.compact (failed m).toJson =
      "\x7b\"cause\":\"failed\",\"message\":" ++ Json.quote m ++ "\x7d" := by
  have cause : Json.quote "cause" = "\"cause\"" := by decide
  have failed : Json.quote "failed" = "\"failed\"" := by decide
  have message : Json.quote "message" = "\"message\"" := by decide
  simp only [toJson, Json.compact.eq_6]
  rw [Json.compactMembers.eq_3 _ _ (by simp), Json.compactMembers.eq_2]
  simp only [Json.compactMember, Json.compact.eq_4, cause, failed, message, ← String.append_assoc]
  congr 2

end Exit

theorem Decode.exitOfJson_toJson (e : Exit) : exitOfJson e.toJson = .ok e :=
  (exitOfJson_eq_ok_iff _ _).2 e.spelledBy_toJson

/-- **Endings round-trip through JSON.** Writing an ending and reading the text back gives the
ending, whatever a failure's text holds. The canonical texts are `{"cause":"terminated"}`,
`{"cause":"cancelled"}` and `{"cause":"failed","message":m}` with `m` written as a JSON string.
A value is read as an ending exactly when it spells that ending, so writing what was read gives
the canonical form of the variant and content the value names. The text and the level of an
ending follow its variant. -/
theorem Exit.json_encoding_round_trips :
    (∀ e : Exit, Json.parse (Json.compact e.toJson) = .ok e.toJson ∧
      Decode.exitOfJson e.toJson = .ok e) ∧
    Json.compact Exit.terminated.toJson = "\x7b\"cause\":\"terminated\"\x7d" ∧
    Json.compact Exit.cancelled.toJson = "\x7b\"cause\":\"cancelled\"\x7d" ∧
    (∀ m, Json.compact (Exit.failed m).toJson =
      "\x7b\"cause\":\"failed\",\"message\":" ++ Json.quote m ++ "\x7d") ∧
    (∀ j e, Decode.exitOfJson j = .ok e ↔ e.SpelledBy j) ∧
    (Exit.terminated.describe = "terminated" ∧ Exit.terminated.level.name = "DEBUG") ∧
    (Exit.cancelled.describe = "cancelled" ∧ Exit.cancelled.level.name = "WARN") ∧
    (∀ m, (Exit.failed m).describe = "failed: " ++ m ∧ (Exit.failed m).level.name = "ERROR") :=
  ⟨fun e => ⟨e.parse_compact_toJson, Decode.exitOfJson_toJson e⟩, by decide, by decide,
    Exit.compact_failed_toJson, Decode.exitOfJson_eq_ok_iff, ⟨rfl, rfl⟩, ⟨rfl, rfl⟩,
    fun _ => ⟨rfl, rfl⟩⟩

end Cadence
