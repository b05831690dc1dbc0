import Interlink.Proofs.Validity

/-!
# Which lists of accounts are accepted

A list of accounts has no faults if and only if it is well formed: every account has a
name, every id is twelve digits, and neither names nor ids repeat
(`Topology.wellFormed_iff`). A name or an id that repeats is reported at the later of the
two accounts, if there is no other fault before it; for the condition this makes no
difference.

What a digit is, is a parameter of `WellFormedAccounts`, as there are two answers. The ids
of accounts are written in ASCII, and the validator takes the decimal digits of every
script. The two agree on ASCII text (`DecimalDigit.isDigit_and_ascii`). So a list is well
formed with ASCII digits if and only if it is accepted and its ids are ASCII text
(`accounts_accepted_iff`); `foreign_digits_accepted` has a list that is accepted and is
not.
-/

namespace Interlink

/-! ## Digits -/

namespace DecimalDigit

/-- The digits of other scripts stand far behind ASCII. -/
theorem zero_ascii_or_far : ∀ first ∈ zeros, first = 0x30 ∨ 0x660 ≤ first := by decide

/-- The digits of ASCII are the only ones among its characters. -/
theorem isDigit_and_ascii {c : Char} : isDigit c = true ∧ c.toNat < 128 ↔ c.isDigit = true := by
  rw [Char.isDigit_iff_toNat]
  show _ ↔ 0x30 ≤ c.toNat ∧ c.toNat ≤ 0x39
  constructor
  · rintro ⟨digit, ascii⟩
    obtain ⟨first, listed, range⟩ := List.any_eq_true.mp digit
    simp only [Bool.and_eq_true, decide_eq_true_eq] at range
    rcases zero_ascii_or_far first listed with rfl | far <;> omega
  · rintro ⟨low, high⟩
    exact ⟨isDigit_of_ascii low high, by omega⟩

end DecimalDigit

/-! ## Accounts -/

/-- A list of accounts as it should be, if these characters are digits. -/
structure WellFormedAccounts (digit : Char → Bool) (accounts : List Account) : Prop where
  named : ∀ a ∈ accounts, a.name ≠ ""
  /-- An id is exactly twelve digits. -/
  twelve : ∀ a ∈ accounts, a.id.toList.length = 12 ∧ ∀ c ∈ a.id.toList, digit c = true
  names : (accounts.map (·.name)).Nodup
  ids : (accounts.map (·.id)).Nodup

namespace Topology

theorem isAccountId_iff {id : String} : isAccountId id = true ↔
    id.toList.length = 12 ∧ ∀ c ∈ id.toList, DecimalDigit.isDigit c = true := by
  rw [isAccountId, Bool.and_eq_true, beq_iff_eq, List.all_eq_true]

/-- A list of accounts is accepted if and only if it is well formed, with the digits of any
script. -/
theorem wellFormed_iff {accounts : List Account} :
    accountFaults accounts = [] ↔ WellFormedAccounts DecimalDigit.isDigit accounts := by
  simp only [accountFaults_eq_nil_iff, isAccountId_iff]
  constructor
  · rintro ⟨⟨names, ids⟩, each⟩
    exact ⟨fun a ha => (each a ha).1, fun a ha => (each a ha).2, names, ids⟩
  · rintro ⟨named, twelve, names, ids⟩
    exact ⟨⟨names, ids⟩, fun a ha => ⟨named a ha, twelve a ha⟩⟩

end Topology

/-- A list of accounts is accepted if and only if no name is empty, every id is twelve decimal
digits of whatever script, and neither names nor ids repeat. It is well formed with the digits of
ASCII if and only if besides its ids are ASCII text. -/
theorem accounts_accepted_iff (accounts : List Account) :
    (Topology.accountFaults accounts = [] ↔
      WellFormedAccounts DecimalDigit.isDigit accounts) ∧
    (WellFormedAccounts Char.isDigit accounts ↔
      Topology.accountFaults accounts = [] ∧
        ∀ a ∈ accounts, ∀ c ∈ a.id.toList, c.toNat < 128) := by
  refine ⟨Topology.wellFormed_iff, ?_⟩
  rw [Topology.wellFormed_iff]
  constructor
  · rintro ⟨named, twelve, names, ids⟩
    refine ⟨⟨named, fun a ha => ⟨(twelve a ha).1, fun c hc => ?_⟩, names, ids⟩, fun a ha c hc => ?_⟩
    · exact (DecimalDigit.isDigit_and_ascii.mpr ((twelve a ha).2 c hc)).1
    · exact (DecimalDigit.isDigit_and_ascii.mpr ((twelve a ha).2 c hc)).2
  · rintro ⟨⟨named, twelve, names, ids⟩, ascii⟩
    refine ⟨named, fun a ha => ⟨(twelve a ha).1, fun c hc => ?_⟩, names, ids⟩
    exact DecimalDigit.isDigit_and_ascii.mp ⟨(twelve a ha).2 c hc, ascii a ha c hc⟩

/-- One account, whose id is written in digits of another script. -/
def Account.sampleForeign : Account :=
  { name := "Network", id := "١١١١١١١١١١١١", organizationalUnit := none }

/-- The account is accepted, and its id is no twelve digits of ASCII. -/
theorem foreign_digits_accepted :
    Topology.accountFaults [.sampleForeign] = [] ∧
      ¬ WellFormedAccounts Char.isDigit [.sampleForeign] := by
  refine ⟨by decide +kernel, fun wellFormed => ?_⟩
  have ascii : '١'.isDigit = true :=
    (wellFormed.twelve _ List.mem_cons_self).2 '١' (by decide +kernel)
  exact absurd ascii (by decide)

end Interlink
