import Mathlib.Data.Finset.Dedup
import Mathlib.Data.Finset.Card
import Mathlib.Data.List.Induction
import Mathlib.Data.List.Nodup

/-!
# The first entry of every key

Where a key is written twice, the first entry stands for both. `firsts` are the entries that
stand: every key has one of them (`mem_keys_firsts`, `nodup_keys_firsts`), and who looks for a
key among them finds what is found among all (`find?_firsts`).

Whatever keeps first entries grows at its end, entry by entry. `firsts_concat` says what one
more entry does, and the laws follow from it by induction from the end.
-/

namespace Interlink

variable {α κ : Type} [DecidableEq κ]

/-- The entries whose key no earlier entry has, in their order. -/
def firsts (key : α → κ) (l : List α) : List α := l.eraseDupsBy fun a b => key a == key b

variable {key : α → κ} {l : List α} {a : α} {k : κ}

private theorem firsts_concat_any : firsts key (l ++ [a]) =
    if (firsts key l).any (key a == key ·) then firsts key l else firsts key l ++ [a] := by
  let loop := List.eraseDupsBy.loop fun a b => key a == key b
  have onward (l : List α) : ∀ kept, loop (l ++ [a]) kept =
      if (loop l kept).any (key a == key ·) then loop l kept else loop l kept ++ [a] := by
    induction l with
    | nil =>
      intro kept
      simp only [loop, List.nil_append, List.eraseDupsBy.loop, List.any_reverse]
      cases kept.any (key a == key ·) <;> simp
    | cons b l ih =>
      intro kept
      simp only [loop, List.cons_append, List.eraseDupsBy.loop]
      split <;> exact ih _
  exact onward l []

theorem mem_keys_firsts : k ∈ (firsts key l).map key ↔ k ∈ l.map key := by
  induction l using List.reverseRecOn with
  | nil => rfl
  | append_singleton l a ih =>
    rw [firsts_concat_any, List.map_append, List.map_singleton, List.mem_append,
      List.mem_singleton, ← ih]
    split
    · next known =>
      obtain ⟨b, hb, same⟩ := List.any_eq_true.mp known
      rw [beq_iff_eq.mp same]
      exact ⟨.inl, fun | .inl old => old | .inr again => again ▸ List.mem_map_of_mem hb⟩
    · rw [List.map_append, List.map_singleton, List.mem_append, List.mem_singleton]

/-- One more entry is kept if its key is new. -/
theorem firsts_concat : firsts key (l ++ [a]) =
    if key a ∈ l.map key then firsts key l else firsts key l ++ [a] := by
  have known : (firsts key l).any (key a == key ·) = true ↔ key a ∈ l.map key := by
    rw [List.any_eq_true, ← mem_keys_firsts, List.mem_map]
    simp only [beq_iff_eq, @eq_comm _ (key a)]
  simp only [firsts_concat_any, known]

theorem nodup_keys_firsts : ((firsts key l).map key).Nodup := by
  induction l using List.reverseRecOn with
  | nil => exact List.nodup_nil
  | append_singleton l a ih =>
    rw [firsts_concat]
    split
    · exact ih
    · next new =>
      rw [List.map_append, List.map_singleton, ← List.concat_eq_append]
      exact ih.concat fun old => new (mem_keys_firsts.mp old)

theorem firsts_sublist : (firsts key l).Sublist l := by
  induction l using List.reverseRecOn with
  | nil => exact List.Sublist.refl _
  | append_singleton l a ih =>
    rw [firsts_concat]
    split
    · exact ih.trans (List.sublist_append_left l [a])
    · exact ih.append (List.Sublist.refl [a])

/-- There are as many first entries as there are keys. -/
theorem length_firsts : (firsts key l).length = (l.map key).toFinset.card := by
  have same : (l.map key).toFinset = ((firsts key l).map key).toFinset := by
    ext k
    rw [List.mem_toFinset, List.mem_toFinset, mem_keys_firsts]
  rw [same, List.toFinset_card_of_nodup nodup_keys_firsts, List.length_map]

/-- Who looks for a key finds its first entry. -/
theorem find?_firsts : (firsts key l).find? (key · == k) = l.find? (key · == k) := by
  induction l using List.reverseRecOn with
  | nil => rfl
  | append_singleton l a ih =>
    rw [firsts_concat, List.find?_append]
    split
    · next known =>
      rw [ih]
      by_cases same : key a = k
      · -- the key of the last entry is found before it
        obtain ⟨b, hb, there⟩ := List.mem_map.mp known
        have found : (l.find? (key · == k)).isSome :=
          List.find?_isSome.mpr ⟨b, hb, beq_iff_eq.mpr (there.trans same)⟩
        rw [Option.or_of_isSome found]
      · simp [same]
    · rw [List.find?_append, ih]

/-- An entry stands if it is what is found for its key. -/
theorem mem_firsts : a ∈ firsts key l ↔ l.find? (key · == key a) = some a := by
  rw [← find?_firsts]
  refine ⟨fun ha => ?_, List.mem_of_find?_eq_some⟩
  cases found : (firsts key l).find? (key · == key a) with
  | none => exact absurd (beq_self_eq_true (key a)) (List.find?_eq_none.mp found a ha)
  | some b =>
    have same : key b = key a := by simpa using List.find?_some found
    rw [List.inj_on_of_nodup_map nodup_keys_firsts (List.mem_of_find?_eq_some found) ha same]

/-- Entries of different keys all stand. -/
theorem firsts_of_nodup (distinct : (l.map key).Nodup) : firsts key l = l := by
  induction l using List.reverseRecOn with
  | nil => rfl
  | append_singleton l a ih =>
    rw [List.map_append, List.map_singleton, List.nodup_append] at distinct
    have new : key a ∉ l.map key := fun old =>
      distinct.2.2 _ old _ (List.mem_singleton_self _) rfl
    rw [firsts_concat, if_neg new, ih distinct.1]

/-! ## Entries that are their own keys -/

theorem mem_firsts_id {l : List κ} : k ∈ firsts id l ↔ k ∈ l := by
  rw [← List.map_id (firsts id l), mem_keys_firsts, List.map_id]

theorem nodup_firsts_id {l : List κ} : (firsts id l).Nodup := by
  rw [← List.map_id (firsts id l)]
  exact nodup_keys_firsts

theorem firsts_id_concat {l : List κ} :
    firsts id (l ++ [k]) = if k ∈ l then firsts id l else firsts id l ++ [k] := by
  rw [firsts_concat, List.map_id, id]

end Interlink
