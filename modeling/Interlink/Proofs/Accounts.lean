import Interlink.Proofs.References

/-!
# The accounts of a valid organization

Validation keeps the names of accounts apart, and their ids. So the registry has
every account of the description, in its order, and finds each by its name; no two
accounts have one id, and all ids have one length.
-/

namespace Interlink

namespace Registry

variable {r : Registry} {accounts : List Account} {name : String}

/-- A registry has some accounts in their order, and every position is that of an account of
the name. -/
structure Indexes (r : Registry) (accounts : List Account) : Prop where
  kept : r.accounts = accounts
  found : ∀ {name : String} {i : Nat}, r.index.lookup name = some i →
    ∃ a, accounts[i]? = some a ∧ a.name = name

/-- Accounts of different names are indexed as they stand. -/
theorem indexes_ofAccounts (distinct : (accounts.map (·.name)).Nodup) :
    (ofAccounts accounts).Indexes accounts := by
  have kept : (ofAccounts accounts).accounts = accounts := by
    rw [accounts_ofAccounts, firsts_of_nodup distinct]
  refine ⟨kept, fun {name i} found => ?_⟩
  obtain ⟨inBounds, named⟩ := (fits_ofAccounts accounts).located.mp found
  have there : ∃ a, (ofAccounts accounts).accounts[i]? = some a ∧ a.name = name :=
    ⟨_, List.getElem?_eq_getElem inBounds, named⟩
  rwa [kept] at there

/-- The account of a name is the one that has it. -/
theorem get?_ofAccounts (distinct : (accounts.map (·.name)).Nodup) {a : Account} :
    (ofAccounts accounts).get? name = some a ↔ a ∈ accounts ∧ a.name = name := by
  have stand : a ∈ accounts ↔ accounts.find? (·.name == a.name) = some a := by
    rw [← mem_firsts, firsts_of_nodup distinct]
  rw [get?_ofAccounts_eq]
  constructor
  · intro found
    exact ⟨List.mem_of_find?_eq_some found, by simpa using List.find?_some found⟩
  · rintro ⟨listed, rfl⟩
    exact stand.mp listed

theorem accountId?_ofAccounts (distinct : (accounts.map (·.name)).Nodup) {id : String} :
    (ofAccounts accounts).accountId? name = some id ↔
      ∃ a ∈ accounts, a.name = name ∧ a.id = id := by
  unfold accountId?
  simp only [Option.map_eq_some_iff, get?_ofAccounts distinct, and_assoc]

end Registry

namespace Topology.Faultless

variable {t : Topology} {name name' id : String}

theorem account_names_nodup (h : t.Faultless) : (t.accounts.map (·.name)).Nodup :=
  (accountFaults_eq_nil_iff.mp h.accounts).1.1

theorem account_ids_nodup (h : t.Faultless) : (t.accounts.map (·.id)).Nodup :=
  (accountFaults_eq_nil_iff.mp h.accounts).1.2

/-- The ids of accounts have one length. -/
theorem length_of_accountId (h : t.Faultless) (known : t.registry.accountId? name = some id) :
    id.toList.length = 12 := by
  obtain ⟨a, ha, -, rfl⟩ := (Registry.accountId?_ofAccounts h.account_names_nodup).mp known
  have wellFormed := ((accountFaults_eq_nil_iff.mp h.accounts).2 a ha).2
  simp only [isAccountId, Bool.and_eq_true, beq_iff_eq] at wellFormed
  exact wellFormed.1

/-- An account is determined by its id. -/
theorem accountId?_injective (h : t.Faultless) (known : t.registry.accountId? name = some id)
    (known' : t.registry.accountId? name' = some id) : name = name' := by
  obtain ⟨a, ha, rfl, rfl⟩ := (Registry.accountId?_ofAccounts h.account_names_nodup).mp known
  obtain ⟨b, hb, rfl, same⟩ := (Registry.accountId?_ofAccounts h.account_names_nodup).mp known'
  rw [List.inj_on_of_nodup_map h.account_ids_nodup ha hb same.symm]

end Topology.Faultless

end Interlink
