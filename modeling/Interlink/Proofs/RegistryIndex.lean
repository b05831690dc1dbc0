import Interlink.Proofs.FirstEntries
import Interlink.Resolver

/-!
# The index of the registry

The registry keeps a list of accounts and an index beside it, and grows both at once. Whatever
is added, they fit (`Registry.Fits.add`): the index has the position of every account under its
name, and nothing else. So the position of a name that is indexed can be used as it is, and what
stands there is what a search of the accounts would find (`Registry.Fits.get?_eq`).

A name that is there already is skipped. What the registry of a description has is therefore the
first entry of every name, in the order of the description (`Registry.accounts_ofAccounts`), and
to ask the registry is to search the description (`Registry.answers_ofAccounts`).
-/

namespace Interlink

namespace Registry

variable {r : Registry} {a : Account} {name : String}

/-! ## One more account -/

/-- An account that is added has a position, and all others keep theirs. -/
theorem lookup_add (r : Registry) (a : Account) (name : String) :
    (r.add a).index.lookup name =
      (r.index.lookup name).or (if name == a.name then some r.accounts.length else none) := by
  unfold Registry.add
  cases found : r.index.lookup a.name with
  | some i =>
    by_cases same : name = a.name
    · rw [same, found]
      rfl
    · simp [same]
  | none =>
    rw [List.lookup_append, List.lookup_cons, List.lookup_nil]
    cases name == a.name <;> rfl

/-- An account is added behind the others, or it is known. -/
theorem accounts_add (r : Registry) (a : Account) :
    (r.add a).accounts = if (r.index.lookup a.name).isSome then r.accounts
      else r.accounts ++ [a] := by
  unfold Registry.add
  cases r.index.lookup a.name <;> rfl

/-- An account whose name is known adds nothing. -/
theorem add_of_known (known : (r.index.lookup a.name).isSome = true) : r.add a = r := by
  obtain ⟨i, found⟩ := Option.isSome_iff_exists.mp known
  rw [add, found]

theorem ofAccounts_concat (accounts : List Account) (a : Account) :
    ofAccounts (accounts ++ [a]) = (ofAccounts accounts).add a := by
  rw [ofAccounts, List.foldl_append]
  rfl

/-! ## Accounts and their index -/

/-- The accounts and the index of a registry fit. -/
structure Fits (r : Registry) : Prop where
  /-- An index is in bounds and is the position of an account of the name, and every account is
  indexed at its position. -/
  located : ∀ {name : String} {i : Nat}, r.index.lookup name = some i ↔
    ∃ inBounds : i < r.accounts.length, r.accounts[i].name = name
  /-- No name is indexed twice, and no two accounts have one name. -/
  names : r.index.map (·.1) = r.accounts.map (·.name)
  distinct : (r.accounts.map (·.name)).Nodup

theorem fits_empty : Fits {} where
  located := by simp
  names := rfl
  distinct := List.nodup_nil

/-- A name is indexed if and only if an account has it. -/
theorem Fits.indexed_iff (h : r.Fits) :
    (r.index.lookup name).isSome = true ↔ name ∈ r.accounts.map (·.name) := by
  rw [← h.names, List.lookup_isSome_iff, List.mem_map]
  simp only [beq_iff_eq, @eq_comm _ name]

theorem Fits.add (h : r.Fits) (a : Account) : (r.add a).Fits := by
  by_cases known : (r.index.lookup a.name).isSome = true
  · rwa [add_of_known known]
  have unknown := Option.not_isSome_iff_eq_none.mp known
  have grown : r.add a = ⟨r.accounts ++ [a], r.index ++ [(a.name, r.accounts.length)]⟩ := by
    rw [Registry.add, unknown]
  constructor
  · intro name i
    rw [lookup_add, Option.or_eq_some_iff]
    simp only [grown]
    constructor
    · rintro (old | ⟨-, last⟩)
      · obtain ⟨inBounds, named⟩ := h.located.mp old
        refine ⟨Nat.lt_of_lt_of_le inBounds (List.length_append ▸ Nat.le_add_right _ _), ?_⟩
        rwa [List.getElem_append_left inBounds]
      · split at last
        · next same =>
          cases last
          exact ⟨by simp, by simpa using (beq_iff_eq.mp same).symm⟩
        · exact nomatch last
    · rintro ⟨inBounds, named⟩
      by_cases old : i < r.accounts.length
      · rw [List.getElem_append_left old] at named
        exact .inl (h.located.mpr ⟨old, named⟩)
      · rw [List.getElem_append_right (Nat.le_of_not_lt old), List.getElem_singleton] at named
        have last : i = r.accounts.length := by
          rw [List.length_append, List.length_singleton] at inBounds
          omega
        exact .inr ⟨named ▸ unknown, by rw [last, named, beq_self_eq_true, if_pos rfl]⟩
  · rw [grown, List.map_append, List.map_append, h.names]
    rfl
  · rw [grown, List.map_append, List.map_singleton, ← List.concat_eq_append]
    exact h.distinct.concat fun there => known (h.indexed_iff.mpr there)

theorem fits_ofAccounts (accounts : List Account) : (ofAccounts accounts).Fits := by
  induction accounts using List.reverseRecOn with
  | nil => exact fits_empty
  | append_singleton accounts a ih =>
    rw [ofAccounts_concat]
    exact ih.add a

/-- A registry has the first entry of every name, in the order of the entries. -/
theorem accounts_ofAccounts (accounts : List Account) :
    (ofAccounts accounts).accounts = firsts (·.name) accounts := by
  induction accounts using List.reverseRecOn with
  | nil => rfl
  | append_singleton accounts a ih =>
    rw [ofAccounts_concat, accounts_add, firsts_concat, ih]
    simp only [(fits_ofAccounts accounts).indexed_iff, ih, mem_keys_firsts]

/-! ## Asking for a name -/

/-- To go by the index is to search the accounts. -/
theorem Fits.get?_eq (h : r.Fits) (name : String) :
    r.get? name = r.accounts.find? (·.name == name) := by
  unfold get?
  cases found : r.index.lookup name with
  | none =>
    refine (List.find?_eq_none.mpr fun a ha same => ?_).symm
    have there : name ∈ r.accounts.map (·.name) :=
      beq_iff_eq.mp same ▸ List.mem_map_of_mem ha
    rw [← h.indexed_iff, found] at there
    exact nomatch there
  | some i =>
    obtain ⟨inBounds, named⟩ := h.located.mp found
    show r.accounts[i]? = _
    rw [List.getElem?_eq_getElem inBounds, eq_comm, List.find?_eq_some_iff_getElem]
    refine ⟨beq_iff_eq.mpr named, i, inBounds, rfl, fun j before => ?_⟩
    -- an account of the name further in front would be indexed in its place
    simp only [Bool.not_eq_true', beq_eq_false_iff_ne]
    intro same
    have there := h.located.mpr ⟨Nat.lt_trans before inBounds, same⟩
    rw [found] at there
    exact Nat.lt_irrefl j (Option.some.inj there ▸ before)

/-- The account of a name is the first entry of the name. -/
theorem get?_ofAccounts_eq (accounts : List Account) (name : String) :
    (ofAccounts accounts).get? name = accounts.find? (·.name == name) := by
  rw [(fits_ofAccounts accounts).get?_eq, accounts_ofAccounts, find?_firsts]

/-- What a registry answers for a name, if this is the account that the name stands for. -/
structure Answers (r : Registry) (name : String) (first : Option Account) : Prop where
  account : r.get? name = first
  /-- The position of a name that is indexed is never out of bounds. -/
  inBounds : (r.get? name).isSome = (r.index.lookup name).isSome
  id : r.accountId? name = first.map (·.id)
  /-- An account that has to be known is a configuration error if it is not. -/
  required : ∀ scope, Vantage.requireId r name scope =
    match first with
    | some a => .ok a.id
    | none => .error (.misconfigured (.unknownAccount name) scope)

theorem answers_ofAccounts (accounts : List Account) (name : String) :
    (ofAccounts accounts).Answers name (accounts.find? (·.name == name)) where
  account := get?_ofAccounts_eq accounts name
  inBounds := by
    have fits := fits_ofAccounts accounts
    rw [Bool.eq_iff_iff, fits.get?_eq, fits.indexed_iff, List.find?_isSome, List.mem_map]
    simp only [beq_iff_eq]
  id := by rw [accountId?, get?_ofAccounts_eq]
  required scope := by
    rw [Vantage.requireId, accountId?, get?_ofAccounts_eq]
    cases accounts.find? (·.name == name) <;> rfl

end Registry

/-- However often a name is listed, the index of the registry fits its accounts, the accounts are
the first entries of their names in the order of the list, and what is answered for a name is what
the first entry of the name says, if there is one. -/
theorem registry_keeps_first_entries (accounts : List Account) :
    (Registry.ofAccounts accounts).Fits ∧
    (Registry.ofAccounts accounts).accounts = firsts (·.name) accounts ∧
    ∀ name, (Registry.ofAccounts accounts).Answers name
      (accounts.find? (·.name == name)) :=
  ⟨Registry.fits_ofAccounts accounts, Registry.accounts_ofAccounts accounts,
    Registry.answers_ofAccounts accounts⟩

/-- The second entry of a name is skipped, with its id. -/
example :
    let r := Registry.ofAccounts
      [⟨"Dev", "222222222222", none⟩, ⟨"Prod", "333333333333", none⟩, ⟨"Dev", "444444444444", none⟩]
    r.accounts.map (·.id) = ["222222222222", "333333333333"] ∧
      r.index = [("Dev", 0), ("Prod", 1)] ∧ r.accountId? "Dev" = some "222222222222" ∧
      (Vantage.requireId r "Test" ⟨"Dev", "us-east-1"⟩).toOption = none := by decide

end Interlink
