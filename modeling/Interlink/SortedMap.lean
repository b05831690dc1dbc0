/-!
# Sorted maps — text keys in code point order

A unit's maps are printed, compared between runs and walked in key order, so
the order of a map is part of its value. `SortedMap` keeps its entries as a
list whose keys strictly ascend, and carries that fact as a field: a map is
its list of entries, two maps with the same entries are equal, and no
operation can produce a repeated key.

The order is the one of `String`, which compares code points.

## What is proved

`get?_insert` says what an insertion does to a lookup, and `get?_empty` that a
new map holds nothing. `perm_insertEntry` says what the insertion of a new key
does to the entries, and `mem_entries` that these are what lookups answer.
`nodup_keys` is the field `ascending` read as "no key occurs twice", and by
`ext_get?` and `ext_contains` the lookups of a map determine it.
-/

namespace Interlink

/-- A finite map from text to `α`, listed in ascending key order. -/
structure SortedMap (α : Type) where
  /-- The entries, in ascending key order. -/
  entries : List (String × α)
  /-- Keys strictly ascend, so each occurs once. -/
  ascending : entries.Pairwise (fun a b => a.1 < b.1)

namespace SortedMap

variable {α β : Type}

/-- Two maps with the same entries are the same map. -/
theorem ext_entries : ∀ {a b : SortedMap α}, a.entries = b.entries → a = b
  | ⟨_, _⟩, ⟨_, _⟩, rfl => rfl

instance [DecidableEq α] : DecidableEq (SortedMap α) := fun a b =>
  if h : a.entries = b.entries then isTrue (ext_entries h)
  else isFalse fun e => h (e ▸ rfl)

instance [Repr α] : Repr (SortedMap α) where
  reprPrec m n := reprPrec m.entries n

/-- The map with no entry. -/
def empty : SortedMap α := ⟨[], List.Pairwise.nil⟩

instance : Inhabited (SortedMap α) := ⟨empty⟩

instance : EmptyCollection (SortedMap α) := ⟨empty⟩

/-- The keys, ascending. -/
def keys (m : SortedMap α) : List String := m.entries.map (·.1)

/-- The values, in the order of their keys. -/
def values (m : SortedMap α) : List α := m.entries.map (·.2)

/-- The number of entries. -/
def size (m : SortedMap α) : Nat := m.entries.length

/-- Whether there is no entry. -/
def isEmpty (m : SortedMap α) : Bool := m.entries.isEmpty

/-- The value of a key, if the map has the key. -/
def get? (m : SortedMap α) (k : String) : Option α := m.entries.lookup k

/-- Whether the map has the key. -/
def contains (m : SortedMap α) (k : String) : Bool := (m.get? k).isSome

/-! ## Insertion -/

/-- Put an entry in its place, replacing the entry of the same key. -/
def insertEntry (k : String) (v : α) : List (String × α) → List (String × α)
  | [] => [(k, v)]
  | (k', v') :: rest =>
    if k < k' then (k, v) :: (k', v') :: rest
    else if k = k' then (k, v) :: rest
    else (k', v') :: insertEntry k v rest

/-- Inserting adds the new entry and nothing else. -/
theorem mem_insertEntry {k : String} {v : α} {e : String × α} :
    ∀ {l : List (String × α)}, e ∈ insertEntry k v l → e = (k, v) ∨ e ∈ l
  | [], h => by simpa [insertEntry] using h
  | (k', v') :: rest, h => by
    unfold insertEntry at h
    split at h
    · simpa using h
    · split at h
      · rcases List.mem_cons.mp h with h | h
        · exact .inl h
        · exact .inr (List.mem_cons_of_mem _ h)
      · rcases List.mem_cons.mp h with h | h
        · exact .inr (h ▸ List.mem_cons_self ..)
        · rcases mem_insertEntry h with h | h
          · exact .inl h
          · exact .inr (List.mem_cons_of_mem _ h)

/-- Insertion keeps the keys ascending. -/
theorem pairwise_insertEntry (k : String) (v : α) :
    ∀ {l : List (String × α)}, l.Pairwise (fun a b => a.1 < b.1) →
      (insertEntry k v l).Pairwise (fun a b => a.1 < b.1)
  | [], _ => by simp [insertEntry]
  | (k', v') :: rest, h => by
    obtain ⟨hhead, hrest⟩ := List.pairwise_cons.mp h
    unfold insertEntry
    split
    · next hlt =>
      refine List.pairwise_cons.mpr ⟨fun e he => ?_, h⟩
      rcases List.mem_cons.mp he with rfl | he
      · exact hlt
      · exact String.lt_trans hlt (hhead e he)
    · next hnlt =>
      split
      · next heq => subst heq; exact List.pairwise_cons.mpr ⟨hhead, hrest⟩
      · next hne =>
        refine List.pairwise_cons.mpr ⟨fun e he => ?_, pairwise_insertEntry k v hrest⟩
        rcases mem_insertEntry he with rfl | he
        · exact Decidable.byContradiction fun hn =>
            hne (String.le_antisymm hn hnlt)
        · exact hhead e he

/-- The map with `k` bound to `v`, whatever it was bound to before. -/
def insert (m : SortedMap α) (k : String) (v : α) : SortedMap α :=
  ⟨insertEntry k v m.entries, pairwise_insertEntry k v m.ascending⟩

/-- The map of a list of bindings; of two bindings of one key the later wins. -/
def ofList (l : List (String × α)) : SortedMap α :=
  l.foldl (fun m e => m.insert e.1 e.2) empty

/-! ## Selection -/

/-- The entries that satisfy a test. -/
def filter (p : String → α → Bool) (m : SortedMap α) : SortedMap α :=
  ⟨m.entries.filter (fun e => p e.1 e.2), m.ascending.filter _⟩

/-! ## Laws -/

@[simp] theorem get?_empty (k : String) : (empty : SortedMap α).get? k = none := rfl

theorem lookup_insertEntry (k j : String) (v : α) :
    ∀ {l : List (String × α)}, l.Pairwise (fun a b => a.1 < b.1) →
      (insertEntry k v l).lookup j = if j = k then some v else l.lookup j
  | [], _ => by
    by_cases h : j = k
    · simp [insertEntry, h]
    · simp [insertEntry, List.lookup_cons, beq_eq_false_iff_ne.mpr h, h]
  | (k', v') :: rest, h => by
    obtain ⟨hhead, hrest⟩ := List.pairwise_cons.mp h
    unfold insertEntry
    split
    · by_cases hj : j = k
      · simp [hj]
      · simp [List.lookup_cons, beq_eq_false_iff_ne.mpr hj, hj]
    · split
      · next heq =>
        subst heq
        by_cases hj : j = k
        · simp [hj]
        · simp [List.lookup_cons, beq_eq_false_iff_ne.mpr hj, hj]
      · next hne =>
        by_cases hj : j = k'
        · subst hj
          have : ¬ j = k := fun e => hne e.symm
          simp [this]
        · simp only [List.lookup_cons, beq_eq_false_iff_ne.mpr hj]
          exact lookup_insertEntry k j v hrest

/-- An insertion answers for its own key and leaves every other key alone. -/
theorem get?_insert (m : SortedMap α) (k j : String) (v : α) :
    (m.insert k v).get? j = if j = k then some v else m.get? j :=
  lookup_insertEntry k j v m.ascending

@[simp] theorem get?_insert_self (m : SortedMap α) (k : String) (v : α) :
    (m.insert k v).get? k = some v := by simp [get?_insert]

/-- After an insertion the map has the new key and the keys that it had. -/
theorem contains_insert (m : SortedMap α) (k j : String) (v : α) :
    (m.insert k v).contains j ↔ j = k ∨ m.contains j := by
  unfold contains
  rw [get?_insert]
  by_cases h : j = k <;> simp [h]

/-- The entry of a new key comes in addition to the others. -/
theorem perm_insertEntry {k : String} {v : α} :
    ∀ {l : List (String × α)}, l.lookup k = none → (insertEntry k v l).Perm ((k, v) :: l)
  | [], _ => .refl _
  | (k', v') :: rest, h => by
    have hne : k ≠ k' := by
      rintro rfl
      simp at h
    have hrest : rest.lookup k = none := by
      simpa [List.lookup_cons, beq_eq_false_iff_ne.mpr hne] using h
    rw [insertEntry, if_neg hne]
    split
    · exact .refl _
    · exact ((perm_insertEntry hrest).cons _).trans (.swap ..)

/-- The entries of a map are what its lookups answer. -/
theorem mem_entries {m : SortedMap α} {k : String} {v : α} :
    (k, v) ∈ m.entries ↔ m.get? k = some v := by
  constructor
  · intro h
    obtain ⟨before, after, split⟩ := List.append_of_mem h
    have ascending := m.ascending
    rw [split, List.pairwise_append] at ascending
    have none : before.lookup k = none := by
      refine List.lookup_eq_none_iff.mpr fun e he => ?_
      have lt := ascending.2.2 e he (k, v) List.mem_cons_self
      refine bne_iff_ne.mpr ?_
      rintro rfl
      exact String.lt_irrefl _ lt
    unfold get?
    rw [split, List.lookup_append, none, Option.none_or, List.lookup_cons_self]
  · intro h
    obtain ⟨before, after, split, -⟩ := List.lookup_eq_some_iff.mp h
    rw [split]
    exact List.mem_append_right _ List.mem_cons_self

/-- The keys of a map are those that lookups answer for. -/
theorem mem_keys {m : SortedMap α} {k : String} : k ∈ m.keys ↔ m.contains k := by
  unfold keys contains
  simp only [List.mem_map, Prod.exists, exists_and_right, exists_eq_right, mem_entries,
    Option.isSome_iff_exists]

/-- Maps that answer all lookups alike are equal. -/
theorem ext_get? {a b : SortedMap α} (same : ∀ k, a.get? k = b.get? k) : a = b := by
  have distinct (m : SortedMap α) : m.entries.Nodup := by
    refine List.nodup_iff_pairwise_ne.mpr (m.ascending.imp fun {x y} lt equal => ?_)
    rw [equal] at lt
    exact String.lt_irrefl _ lt
  have perm : a.entries.Perm b.entries := by
    rw [List.perm_ext_iff_of_nodup (distinct a) (distinct b)]
    rintro ⟨k, v⟩
    rw [mem_entries, mem_entries, same]
  refine ext_entries (perm.eq_of_pairwise ?_ a.ascending b.ascending)
  intro x y _ _ lt gt
  exact absurd (String.lt_trans lt gt) (String.lt_irrefl x.1)

/-- Maps that have the same keys and do not differ in the value of any are equal. -/
theorem ext_contains {a b : SortedMap α} (keys : ∀ k, a.contains k ↔ b.contains k)
    (values : ∀ k x y, a.get? k = some x → b.get? k = some y → x = y) : a = b := by
  apply ext_get?
  intro k
  have both := keys k
  unfold contains at both
  cases here : a.get? k with
  | none =>
    rw [here] at both
    exact (Option.not_isSome_iff_eq_none.mp fun there => nomatch both.mpr there).symm
  | some x =>
    rw [here] at both
    obtain ⟨y, there⟩ := Option.isSome_iff_exists.mp (both.mp rfl)
    rw [there, values k x y here there]

/-- Keys strictly ascend. -/
theorem pairwise_keys (m : SortedMap α) : m.keys.Pairwise (· < ·) :=
  List.pairwise_map.mpr m.ascending

/-- No key occurs twice. -/
theorem nodup_keys (m : SortedMap α) : m.keys.Nodup := by
  refine m.pairwise_keys.imp fun {a b} h e => ?_
  rw [e] at h
  exact String.lt_irrefl _ h

end SortedMap

/-! ## Sets of names -/

/-- A finite set of names, listed in ascending order. -/
abbrev NameSet := SortedMap Unit

namespace NameSet

/-- The set with one more name. -/
def add (s : NameSet) (name : String) : NameSet := s.insert name ()

/-- The set of the names in a list. -/
def ofNames (names : List String) : NameSet := names.foldl add .empty

theorem contains_add (s : NameSet) (added name : String) :
    (s.add added).contains name ↔ name = added ∨ s.contains name :=
  s.contains_insert added name ()

theorem contains_ofNames {names : List String} {name : String} :
    (ofNames names).contains name ↔ name ∈ names := by
  have onward : ∀ (rest : List String) (s : NameSet),
      (rest.foldl add s).contains name ↔ s.contains name ∨ name ∈ rest := by
    intro rest
    induction rest with
    | nil => simp
    | cons next rest ih =>
      intro s
      rw [List.foldl_cons, ih, contains_add, List.mem_cons, or_comm (a := name = next), or_assoc]
  rw [ofNames, onward]
  simp [SortedMap.contains]

end NameSet

end Interlink
