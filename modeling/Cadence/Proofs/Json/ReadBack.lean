import Cadence.Json.Read
import Cadence.Json.Write

/-!
# Cadence.Proofs.Json.ReadBack

The reader reads back what the writer writes.

A string is written with its quote and backslash escaped and its control characters spelled as
`\b`, `\f`, `\n`, `\r`, `\t` or `\u00xx`; every other character, non-ASCII text included, is
written as itself. Reading such a body gives the string back, whatever it holds, and stops right
after the closing quote. An object whose members are strings under distinct keys is then read back
member by member, in its own order.

## Main results

* `Json.readString_escaped`: the body of a written string reads back as the string.
* `Json.readValue_quote`: a written string reads back as a string value.
* `Json.parse_compact_strings`: the compact text of an object of strings under distinct keys
  parses back to the object.

## Proof strategy

One character at a time: each escape the writer produces is a case of the reader that puts the
character back (`readString_escapeChar`), and an induction over the string carries this to the
whole body. Objects follow the same pattern one level up: `readMembers_member` reads one member
after its separator, and an induction over the members, with the members already read as the
accumulator, reads the rest. The reader's recursion budget is what the members need: one unit per
member and one for the closing brace.
-/

namespace Cadence.Json

/-! ### Strings -/

theorem hexValue_hexDigit : ∀ n, n < 16 → hexValue (hexDigit n) = some n := by decide

/-- The four digits of a control character's escape, `00` and its two hexadecimal digits. -/
theorem hex4_control (c : Char) (control : c.toNat < 0x20) :
    hex4 '0' '0' (hexDigit (c.toNat / 16)) (hexDigit (c.toNat % 16)) = some c.toNat := by
  have zero : hexValue '0' = some 0 := by decide
  have high := hexValue_hexDigit (c.toNat / 16) (by omega)
  have low := hexValue_hexDigit (c.toNat % 16) (by omega)
  simp only [hex4, zero, high, low, Option.bind_eq_bind, Option.bind_some, Option.pure_def]
  congr 1
  omega

/-- A control character's `\u00xx` escape reads back as the character: its value is neither
half of a surrogate pair. -/
theorem readString_control (total : Nat) (c : Char) (acc : List Char) (index : Nat)
    (cs : List Char) (control : c.toNat < 0x20) :
    readString total acc index
        (['\\', 'u', '0', '0', hexDigit (c.toNat / 16), hexDigit (c.toNat % 16)] ++ cs) =
      readString total (c :: acc) (index + 6) cs := by
  have notTrailing : isTrailing c.toNat = false := by
    simp only [isTrailing, Bool.and_eq_false_iff, decide_eq_false_iff_not]
    omega
  have notLeading : isLeading c.toNat = false := by
    simp only [isLeading, Bool.and_eq_false_iff, decide_eq_false_iff_not]
    omega
  simp only [List.cons_append, List.nil_append, readString.eq_3, hex4_control c control,
    notTrailing, notLeading, Bool.not_false, Bool.false_eq_true, if_false, if_true,
    Char.ofNat_toNat]

/-- A character written as itself is read as itself. -/
theorem readString_plain (total : Nat) (c : Char) (acc : List Char) (index : Nat)
    (cs : List Char) (quote : c ≠ '"') (backslash : c ≠ '\\') (printable : ¬c.toNat < 0x20) :
    readString total acc index (c :: cs) =
      readString total (c :: acc) (index + c.utf8Size) cs := by
  rw [readString.eq_15 total acc index c cs quote (fun _ _ _ _ _ h _ => backslash h)
    (fun _ h _ => backslash h) (fun _ _ h _ => backslash h) (fun h _ => backslash h),
    if_neg printable]

/-- Reading one written character puts it back, whichever of the escapes the writer chose. -/
theorem readString_escapeChar (total : Nat) (c : Char) (acc : List Char) (index : Nat)
    (cs : List Char) :
    ∃ next, readString total acc index (escapeChar c ++ cs) =
      readString total (c :: acc) next cs := by
  unfold escapeChar
  split
  · exact ⟨index + 2, readString.eq_5 ..⟩
  · exact ⟨index + 2, readString.eq_6 ..⟩
  · exact ⟨index + 2, readString.eq_10 ..⟩
  · exact ⟨index + 2, readString.eq_11 ..⟩
  · exact ⟨index + 2, readString.eq_12 ..⟩
  · exact ⟨index + 2, readString.eq_8 ..⟩
  · exact ⟨index + 2, readString.eq_9 ..⟩
  · -- no short escape: a control character takes `\u00xx`, anything else stands as itself
    rename_i quote backslash _ _ _ _ _
    split
    · exact ⟨index + 6, readString_control total c acc index cs ‹_›⟩
    · exact ⟨_, readString_plain total c acc index cs quote backslash ‹_›⟩

/-- The body of a written string, with its closing quote, reads back as the string, and the
reader stops right after the quote. -/
theorem readString_escaped (total : Nat) (s acc : List Char) (index : Nat) (rest : List Char) :
    ∃ next, readString total acc index (s.flatMap escapeChar ++ '"' :: rest) =
      .ok (String.ofList (acc.reverse ++ s), next, rest) := by
  induction s generalizing acc index with
  | nil => exact ⟨index + 1, by simp [readString.eq_2]⟩
  | cons c s ih =>
    obtain ⟨next, step⟩ :=
      readString_escapeChar total c acc index (s.flatMap escapeChar ++ '"' :: rest)
    obtain ⟨last, read⟩ := ih (c :: acc) next
    refine ⟨last, ?_⟩
    rw [List.flatMap_cons, List.append_assoc, step, read]
    simp

theorem quote_toList (s : String) :
    (quote s).toList = '"' :: (s.toList.flatMap escapeChar ++ ['"']) := by
  simp [quote]

theorem skipBlanks_cons (index : Nat) (c : Char) (cs : List Char) (solid : isBlank c = false) :
    skipBlanks index (c :: cs) = (index, c :: cs) := by
  simp [skipBlanks, solid]

/-- A written string reads back as a string value. -/
theorem readValue_quote (total depth budget index : Nat) (s : String) (rest : List Char) :
    ∃ next, readValue total depth (budget + 1) index ((quote s).toList ++ rest) =
      .ok (.string s, next, rest) := by
  obtain ⟨next, read⟩ := readString_escaped total s.toList [] (index + 1) rest
  refine ⟨next, ?_⟩
  rw [readValue.eq_2, quote_toList, List.cons_append, skipBlanks_cons index '"' _ rfl]
  simp only [List.append_assoc, List.cons_append, List.nil_append, read]
  simp [Except.map]

/-! ### Objects of strings -/

/-- A member under a new key is added at the end. -/
theorem addMember_fresh (members : List (String × Json)) (key : String) (value : Json)
    (fresh : key ∉ members.map (·.1)) :
    addMember members key value = members ++ [(key, value)] := by
  have absent : members.any (·.1 == key) = false := by
    rw [List.any_eq_false]
    intro m member same
    exact fresh (List.mem_map.2 ⟨m, member, beq_iff_eq.1 same⟩)
  simp [addMember, absent]

theorem compactMember_toList (key : String) (value : Json) :
    (compactMember (key, value)).toList = (quote key).toList ++ ':' :: (compact value).toList := by
  simp [compactMember]

/-- The text of the members after the first, each after its comma. -/
def laterMembers (members : List (String × Json)) : List Char :=
  members.flatMap fun m => ',' :: (compactMember m).toList

@[simp] theorem laterMembers_nil : laterMembers [] = [] := rfl

@[simp] theorem laterMembers_cons (m : String × Json) (rest : List (String × Json)) :
    laterMembers (m :: rest) = ',' :: ((compactMember m).toList ++ laterMembers rest) := by
  simp [laterMembers]

theorem compactMembers_toList (m : String × Json) (rest : List (String × Json)) :
    (compactMembers (m :: rest)).toList = (compactMember m).toList ++ laterMembers rest := by
  induction rest generalizing m with
  | nil => simp [compactMembers.eq_2]
  | cons n rest ih =>
    rw [compactMembers.eq_3 m (n :: rest) (by simp)]
    simp [ih]

/-- Reads one member whose value is a string, after the comma that precedes it unless it is the
first: the member is added and the reader goes on with one unit less of its budget. -/
theorem readMembers_member (total depth budget index : Nat) (first : Bool)
    (acc : List (String × Json)) (key text : String) (more : List Char) :
    ∃ next, readMembers total depth (budget + 2) first acc index
        ((if first then [] else [',']) ++ (compactMember (key, .string text)).toList ++ more) =
      readMembers total depth (budget + 1) false (addMember acc key (.string text)) next more := by
  -- after a comma the key starts one byte further on
  obtain ⟨afterKey, readKey⟩ := readString_escaped total key.toList []
    (index + 1 + if first then 0 else 1) (':' :: ((quote text).toList ++ more))
  simp only [List.reverse_nil, List.nil_append, String.ofList_toList] at readKey
  obtain ⟨afterText, readText⟩ := readValue_quote total depth budget (afterKey + 1) text more
  refine ⟨afterText, ?_⟩
  rw [readMembers.eq_2]
  cases first <;> simp only [Bool.false_eq_true, if_true, if_false, Nat.add_zero] at readKey <;>
  simp [compactMember_toList, compact.eq_4, quote_toList key, skipBlanks_cons, isBlank, bind,
    Except.bind, readKey, readText]

theorem readMembers_close (total depth budget index : Nat) (first : Bool)
    (acc : List (String × Json)) (rest : List Char) :
    readMembers total depth (budget + 1) first acc index ('}' :: rest) =
      .ok (.object acc, index + 1, rest) := by
  rw [readMembers.eq_2, skipBlanks_cons _ '}' _ rfl]
  rfl

/-- The members after the first are read in order, after those already read, as long as no key
repeats and the budget has a unit for each of them and one for the closing brace. -/
theorem readMembers_strings (total depth : Nat) (members : List (String × String)) :
    ∀ (budget index : Nat) (acc : List (String × Json)) (rest : List Char),
      (acc.map (·.1) ++ members.map (·.1)).Nodup → members.length < budget →
      ∃ next, readMembers total depth budget false acc index
          (laterMembers (members.map fun m => (m.1, .string m.2)) ++ '}' :: rest) =
        .ok (.object (acc ++ members.map fun m => (m.1, .string m.2)), next, rest) := by
  induction members with
  | nil =>
    intro budget index acc rest _ enough
    obtain ⟨budget, rfl⟩ : ∃ b, budget = b + 1 := ⟨budget - 1, by simp at enough; omega⟩
    exact ⟨index + 1, by simp [readMembers_close]⟩
  | cons m members ih =>
    intro budget index acc rest distinct enough
    obtain ⟨budget, rfl⟩ : ∃ b, budget = b + 2 := ⟨budget - 2, by simp at enough; omega⟩
    obtain ⟨next, step⟩ := readMembers_member total depth budget index false acc m.1 m.2
      (laterMembers (members.map fun m => (m.1, .string m.2)) ++ '}' :: rest)
    have fresh : m.1 ∉ acc.map (·.1) := by
      intro old
      simp only [List.map_cons, List.nodup_append] at distinct
      exact distinct.2.2 m.1 old m.1 (by simp) rfl
    have distinct' :
        ((acc ++ [(m.1, Json.string m.2)]).map (·.1) ++ members.map (·.1)).Nodup := by
      simpa using distinct
    obtain ⟨last, read⟩ := ih (budget + 1) next (acc ++ [(m.1, .string m.2)]) rest distinct'
      (by simp at enough; omega)
    refine ⟨last, ?_⟩
    simp only [Bool.false_eq_true, if_false, List.cons_append, List.nil_append] at step
    rw [List.map_cons, laterMembers_cons, List.cons_append, List.append_assoc, step,
      addMember_fresh acc m.1 _ fresh]
    simpa using read

theorem length_le_laterMembers (members : List (String × Json)) :
    members.length ≤ (laterMembers members).length := by
  induction members with
  | nil => simp
  | cons m members ih =>
    simp only [laterMembers_cons, List.length_cons, List.length_append]
    omega

theorem length_le_compactMembers (members : List (String × Json)) :
    members.length ≤ (compactMembers members).toList.length + 1 := by
  cases members with
  | nil => simp
  | cons m members =>
    have later := length_le_laterMembers members
    simp only [compactMembers_toList, List.length_cons, List.length_append]
    omega

/-- An object of strings under distinct keys reads back, wherever containers may still open. -/
theorem readValue_strings (total depth budget index : Nat) (members : List (String × String))
    (rest : List Char) (distinct : (members.map (·.1)).Nodup)
    (enough : members.length ≤ budget + 1) :
    ∃ next, readValue total (depth + 2) (budget + 3) index
        ('{' :: ((compactMembers (members.map fun m => (m.1, .string m.2))).toList ++
          '}' :: rest)) =
      .ok (.object (members.map fun m => (m.1, .string m.2)), next, rest) := by
  cases members with
  | nil =>
    refine ⟨index + 2, ?_⟩
    rw [readValue.eq_2, skipBlanks_cons _ '{' _ rfl]
    simp [compactMembers.eq_1, readMembers_close]
  | cons m members =>
    obtain ⟨next, first⟩ := readMembers_member total (depth + 1) budget (index + 1) true [] m.1
      m.2 (laterMembers (members.map fun m => (m.1, .string m.2)) ++ '}' :: rest)
    have single : addMember [] m.1 (.string m.2) = [(m.1, .string m.2)] :=
      addMember_fresh [] m.1 _ List.not_mem_nil
    obtain ⟨last, later⟩ := readMembers_strings total (depth + 1) members (budget + 1) next
      [(m.1, .string m.2)] rest (by simpa using distinct) (by simp at enough; omega)
    refine ⟨last, ?_⟩
    rw [readValue.eq_2, skipBlanks_cons _ '{' _ rfl]
    simp only [if_true, List.nil_append, single] at first
    simp [compactMembers_toList, first, later]

/-- **Objects of strings read back.** The compact text of an object whose members are strings
under distinct keys parses back to the object, members in their order. -/
theorem parse_compact_strings (members : List (String × String))
    (distinct : (members.map (·.1)).Nodup) :
    parse (compact (.object (members.map fun m => (m.1, .string m.2)))) =
      .ok (.object (members.map fun m => (m.1, .string m.2))) := by
  have text : (compact (.object (members.map fun m => (m.1, .string m.2)))).toList =
      '{' :: ((compactMembers (members.map fun m => (m.1, .string m.2))).toList ++ ['}']) := by
    simp [compact.eq_6]
  have bound := length_le_compactMembers (members.map fun m => (m.1, .string m.2))
  -- the budget of the whole text, twice its length, leaves a unit for every member
  obtain ⟨budget, sized, enough⟩ : ∃ budget,
      2 * (compact (.object (members.map fun m => (m.1, .string m.2)))).toList.length + 2 =
        budget + 3 ∧ members.length ≤ budget + 1 := by
    refine ⟨2 * (compact (.object (members.map fun m => (m.1, .string m.2)))).toList.length - 1,
      ?_, ?_⟩ <;>
    simp only [text, List.length_cons, List.length_append, List.length_map] at bound ⊢ <;>
    omega
  obtain ⟨next, read⟩ := readValue_strings
    (compact (.object (members.map fun m => (m.1, .string m.2)))).utf8ByteSize 126 budget 0
    members [] distinct enough
  simp only [parse, sized]
  rw [text, read]
  rfl

end Cadence.Json
