/-!
# Memos — maps that are written once

A memo keeps the first value that was recorded for a key. Recording another
value for the key changes nothing, so what a memo once answered it answers for
ever.

## What is proved

`get?_record` says what recording does to a lookup.
-/

namespace Interlink

/-- A map from `κ` to `α` in which a key keeps its first value. -/
structure Memo (κ α : Type) where
  /-- The recorded values, in the order in which their keys were first used. -/
  entries : List (κ × α) := []
deriving DecidableEq, Repr, Inhabited

namespace Memo

variable {κ α : Type} [BEq κ]

/-- The value of a key, if one has been recorded. -/
def get? (m : Memo κ α) (k : κ) : Option α := m.entries.lookup k

/-- The number of keys. -/
def size (m : Memo κ α) : Nat := m.entries.length

/-- Whether nothing has been recorded. -/
def isEmpty (m : Memo κ α) : Bool := m.entries.isEmpty

/-- Record a value, unless the key has one already. -/
def record (m : Memo κ α) (k : κ) (a : α) : Memo κ α :=
  match m.get? k with
  | some _ => m
  | none => ⟨m.entries ++ [(k, a)]⟩

/-- Record a value and answer the one that the key has now. -/
def remember (m : Memo κ α) (k : κ) (a : α) : α × Memo κ α :=
  match m.get? k with
  | some first => (first, m)
  | none => (a, m.record k a)

theorem record_of_known {m : Memo κ α} {k : κ} {first : α} (known : m.get? k = some first)
    (a : α) : m.record k a = m := by
  rw [record, known]

/-- Remembering answers the value that the key has, or else the given one, and records it. -/
theorem remember_eq (m : Memo κ α) (k : κ) (a : α) :
    m.remember k a = ((m.get? k).getD a, m.record k a) := by
  unfold remember record
  cases m.get? k <;> rfl

/-- A key keeps the value it has; a new key gets the recorded one. -/
theorem get?_record [LawfulBEq κ] (m : Memo κ α) (k j : κ) (a : α) :
    (m.record k a).get? j = (m.get? j).or (if j == k then some a else none) := by
  unfold record
  split
  · next first h =>
    by_cases hj : j == k
    · rw [LawfulBEq.eq_of_beq hj, h]
      rfl
    · simp [hj]
  · simp only [get?, List.lookup_append]
    by_cases hj : j == k
    · simp [hj, List.lookup_cons]
    · simp [hj, List.lookup_cons]

/-- `remember` answers what the memo holds afterwards. -/
theorem get?_remember [LawfulBEq κ] (m : Memo κ α) (k : κ) (a : α) :
    (m.remember k a).2.get? k = some (m.remember k a).1 := by
  rw [remember_eq, get?_record, beq_self_eq_true, if_pos rfl]
  cases m.get? k <;> rfl

end Memo

end Interlink
