import Cadence.Json.Basic

/-!
# Cadence.Proofs.Json.Views

The two views of an object agree on what a key names.

An object's members are kept in document order and may repeat a key. `Json.field?` answers the
last member a key names; `Json.entries` is the object as a map holds it, sorted by key with the
repeats dropped, which is what typed readers look keys up in. Both answer the same member for
every key: dropping the repeats keeps each key's last member, and sorting a list whose keys are
distinct changes no lookup.

## Main results

* `Json.lookup_lastWins`: with the repeats dropped, a key names its last member.
* `Json.lookup_entries`: looking a key up in the map view answers `field?`.
-/

namespace Cadence.Json

/-- Reordering a list whose keys are distinct changes no lookup. -/
theorem lookup_perm {members others : List (String × Json)} (perm : members.Perm others)
    (distinct : (members.map (·.1)).Nodup) (key : String) :
    members.lookup key = others.lookup key := by
  induction perm with
  | nil => rfl
  | cons m _ ih =>
    obtain ⟨k, v⟩ := m
    simp only [List.map_cons, List.nodup_cons] at distinct
    simp [List.lookup_cons, ih distinct.2]
  | swap m n rest =>
    -- two members trade places: their keys differ, so at most one of them answers the key
    obtain ⟨a, x⟩ := m
    obtain ⟨b, y⟩ := n
    simp only [List.map_cons, List.nodup_cons, List.mem_cons, not_or] at distinct
    cases onA : key == a <;> cases onB : key == b <;> simp only [List.lookup_cons, onA, onB]
    exact absurd ((beq_iff_eq.1 onB).symm.trans (beq_iff_eq.1 onA)) distinct.1.1
  | trans first _ ih ih' =>
    exact (ih distinct).trans (ih' ((first.map _).nodup_iff.1 distinct))

theorem lastWins_keys (members : List (String × Json)) :
    ∀ key ∈ (lastWins members).map (·.1), key ∈ members.map (·.1) := by
  induction members with
  | nil => simp [lastWins]
  | cons m rest ih =>
    intro key kept
    cases later : rest.any (·.1 == m.1) <;>
      simp only [lastWins, later, Bool.false_eq_true, if_true, if_false] at kept
    · simp only [List.map_cons, List.mem_cons] at kept ⊢
      exact kept.imp_right (ih key)
    · exact List.mem_cons_of_mem _ (ih key kept)

/-- Dropping the repeats leaves one member per key. -/
theorem lastWins_nodup (members : List (String × Json)) :
    ((lastWins members).map (·.1)).Nodup := by
  induction members with
  | nil => simp [lastWins]
  | cons m rest ih =>
    cases later : rest.any (·.1 == m.1) <;>
      simp only [lastWins, later, Bool.false_eq_true, if_true, if_false]
    · refine List.nodup_cons.2 ⟨fun kept => ?_, ih⟩
      obtain ⟨n, member, same⟩ := List.mem_map.1 (lastWins_keys rest m.1 kept)
      have found : rest.any (·.1 == m.1) = true :=
        List.any_eq_true.2 ⟨n, member, beq_iff_eq.2 same⟩
      rw [later] at found
      cases found
    · exact ih

/-- With the repeats dropped, a key names the last member written under it. -/
theorem lookup_lastWins (members : List (String × Json)) (key : String) :
    (lastWins members).lookup key = (members.reverse.find? (·.1 == key)).map (·.2) := by
  induction members with
  | nil => simp [lastWins]
  | cons m rest ih =>
    obtain ⟨k, v⟩ := m
    cases later : rest.any (·.1 == k) <;>
      simp only [lastWins, later, Bool.false_eq_true, if_true, if_false]
    · -- the member is kept: it answers its own key, since nothing later repeats it
      by_cases same : k = key
      · have absent : rest.reverse.find? (·.1 == key) = none := by
          rw [List.find?_eq_none]
          intro n member hit
          have found : rest.any (·.1 == k) = true :=
            List.any_eq_true.2 ⟨n, List.mem_reverse.1 member, by rw [same]; exact hit⟩
          rw [later] at found
          cases found
        simp [List.find?_append, same, absent]
      · have other : (key == k) = false := beq_false_of_ne (Ne.symm same)
        simp [List.lookup_cons, List.find?_append, other, ih, same]
    · -- the member is dropped: a later one answers its key first in the reversed list
      by_cases same : k = key
      · obtain ⟨n, member, hit⟩ := List.any_eq_true.1 later
        have present : (rest.reverse.find? (·.1 == key)).isSome := by
          rw [List.find?_isSome]
          exact ⟨n, List.mem_reverse.2 member, by rw [← same]; exact hit⟩
        obtain ⟨first, found⟩ := Option.isSome_iff_exists.1 present
        simp [List.find?_append, ih, found]
      · simp [List.find?_append, ih, same]

/-- **The map view answers the last member.** Looking a key up in an object's entries gives
the member `field?` gives. -/
theorem lookup_entries (members : List (String × Json)) (key : String) :
    (entries members).lookup key = (Json.object members).field? key := by
  rw [entries, ← lookup_perm (List.mergeSort_perm _ _).symm (lastWins_nodup members), field?,
    lookup_lastWins]

end Cadence.Json
