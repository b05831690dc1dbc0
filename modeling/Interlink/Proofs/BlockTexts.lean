import Interlink.Cidr
import Interlink.Proofs.AddressTexts
import Mathlib.Logic.Basic

/-!
# Which texts are blocks

A block is an address, a slash and a prefix length. The length is a decimal number that is
no larger than the address is long, and it may have leading zeros. The reader takes a plus
sign before it as well, since that is how numbers are read elsewhere; no notation for blocks
has one. So there are two sorts of lengths here, `IsLength` without a sign and
`IsSignedLength` with one.

`blocks_accepted_iff` says which texts are accepted: for either version those with a
signed length, and so those with a plain length are the accepted ones without a plus sign.
A text that is accepted is of exactly one version. `signed_length_accepted` has a text that
is accepted and has a sign.
-/

namespace Interlink.Cidr

open Address

variable {cs before after : List Char} {max : Nat} {s : String}

/-! ## The parts of a block -/

/-- A text is split at its first slash. -/
theorem splitSlash_eq_some_iff :
    splitSlash cs = some (before, after) ↔ cs = before ++ '/' :: after ∧ '/' ∉ before := by
  induction cs generalizing before with
  | nil => simp [splitSlash]
  | cons c cs ih =>
    unfold splitSlash
    by_cases slash : c = '/'
    · rw [if_pos slash, slash]
      constructor
      · intro same
        cases same
        exact ⟨rfl, fun h => nomatch h⟩
      · rintro ⟨same, first⟩
        cases before with
        | nil => rw [(List.cons.inj same).2]
        | cons b before => exact absurd (List.mem_cons.mpr (.inl (List.cons.inj same).1)) first
    · rw [if_neg slash, Option.map_eq_some_iff]
      constructor
      · rintro ⟨⟨before', after'⟩, split, same⟩
        cases same
        obtain ⟨rfl, first⟩ := ih.mp split
        refine ⟨rfl, fun there => ?_⟩
        rcases List.mem_cons.mp there with here | later
        · exact slash here.symm
        · exact first later
      · rintro ⟨same, first⟩
        cases before with
        | nil => exact absurd (List.cons.inj same).1 slash
        | cons b before =>
          obtain ⟨rfl, rfl⟩ := List.cons.inj same
          exact ⟨(before, after), ih.mpr ⟨rfl, fun h => first (List.mem_cons_of_mem _ h)⟩, rfl⟩

/-- A prefix length: decimal digits, which write a number that is not too large. -/
structure IsLength (max : Nat) (cs : List Char) : Prop where
  digits : cs ≠ [] ∧ ∀ c ∈ cs, c.isDigit = true
  bounded : Nat.ofDigitChars 10 cs 0 ≤ max

/-- A prefix length that may have a plus sign. -/
def IsSignedLength (max : Nat) (cs : List Char) : Prop :=
  ∃ ds, IsLength max ds ∧ (cs = ds ∨ cs = '+' :: ds)

/-- A text is a number if it has digits and nothing else. -/
theorem natural?_ten {n : Nat} : Digit.natural? 10 cs = some n ↔
    (cs ≠ [] ∧ ∀ c ∈ cs, c.isDigit = true) ∧ n = Nat.ofDigitChars 10 cs 0 := by
  obtain ⟨ds, rest, rfl, digits, ends⟩ := Digit.exists_split 10 cs
  have length := Digit.length_values digits
  unfold Digit.natural?
  rw [Digit.span_append digits ends]
  cases rest with
  | cons c rest =>
    have other : ¬ c.isDigit = true := by
      rw [← Digit.value?_isSome_ten, ends c rfl]
      exact Bool.false_ne_true
    constructor
    · intro h
      split at h
      · next same => exact nomatch (Prod.mk.inj same).2
      · exact nomatch h
    · rintro ⟨⟨-, all⟩, -⟩
      exact absurd (all c (by simp)) other
  | nil =>
    rw [List.append_nil, ← Digit.toNat_values (Digit.all_ten_iff.mp digits)]
    cases values : Digit.values 10 ds with
    | nil =>
      rw [values] at length
      rw [List.length_eq_zero_iff.mp length.symm]
      simp
    | cons v vs =>
      have nonempty : ds ≠ [] := by
        rintro rfl
        rw [values] at length
        exact nomatch length
      show some _ = some n ↔ _
      rw [Option.some.injEq]
      exact ⟨fun same => ⟨⟨nonempty, Digit.all_ten_iff.mp digits⟩, same.symm⟩,
        fun h => h.2.symm⟩

/-- What is read as a length is a length, with or without a sign. -/
theorem prefixLength?_iff (small : max < 256) :
    (∃ n, prefixLength? cs = some n ∧ n ≤ max) ↔ IsSignedLength max cs := by
  have number {ds : List Char} :
      (∃ n, (Digit.natural? 10 ds).filter (· < 256) = some n ∧ n ≤ max) ↔ IsLength max ds := by
    constructor
    · rintro ⟨n, read, bounded⟩
      obtain ⟨digits, rfl⟩ := natural?_ten.mp (Option.filter_eq_some_iff.mp read).1
      exact ⟨digits, bounded⟩
    · rintro ⟨digits, bounded⟩
      refine ⟨_, Option.filter_eq_some_iff.mpr ⟨natural?_ten.mpr ⟨digits, rfl⟩, ?_⟩, bounded⟩
      exact decide_eq_true (by omega)
  unfold prefixLength?
  constructor
  · intro read
    split at read
    · next rest => exact ⟨rest, number.mp read, .inr rfl⟩
    · exact ⟨cs, number.mp read, .inl rfl⟩
  · rintro ⟨ds, length, rfl | rfl⟩
    · split
      · next rest =>
        have sign := length.digits.2 '+' List.mem_cons_self
        exact absurd sign (by decide)
      · exact number.mpr length
    · exact number.mpr length

/-! ## Blocks -/

/-- A block, if these are the addresses and the lengths that it may have. -/
def IsBlock (address length : List Char → Prop) (s : String) : Prop :=
  ∃ a l, s.toList = a ++ '/' :: l ∧ address a ∧ length l

/-- What is read as a block of one version is one. Of addresses it is enough to know which texts
are read as some address of that version, and that they have no slash. -/
theorem parse?_iff {version : Type} (ofVersion : version → Address) {address : List Char → Prop}
    (longest : ∀ v, maxLength (ofVersion v) = max) (small : max < 256)
    (reads : ∀ cs, (∃ v, Address.parse? cs = some (ofVersion v)) ↔ address cs)
    (slashless : ∀ cs, address cs → '/' ∉ cs) :
    (∃ v n, Cidr.parse? s = some (ofVersion v, n)) ↔ IsBlock address (IsSignedLength max) s := by
  constructor
  · rintro ⟨v, n, read⟩
    simp only [Cidr.parse?, Option.bind_eq_bind, Option.bind_eq_some_iff, Prod.exists] at read
    obtain ⟨before, after, split, a, readAddress, n', readLength, last⟩ := read
    split at last
    · next fits =>
      cases last
      rw [longest v] at fits
      exact ⟨before, after, (splitSlash_eq_some_iff.mp split).1,
        (reads before).mp ⟨v, readAddress⟩, (prefixLength?_iff small).mp ⟨n, readLength, fits⟩⟩
    · exact nomatch last
  · rintro ⟨before, after, same, isAddress, isLength⟩
    obtain ⟨v, readAddress⟩ := (reads before).mpr isAddress
    obtain ⟨n, readLength, fits⟩ := (prefixLength?_iff small).mpr isLength
    have split := splitSlash_eq_some_iff.mpr ⟨same, slashless before isAddress⟩
    rw [← longest v] at fits
    exact ⟨v, n, by simp [Cidr.parse?, split, readAddress, readLength, fits]⟩

/-- Characters that no address and no length has: a slash, and a sign. -/
def Foreign (c : Char) : Prop := c = '/' ∨ c = '+'

theorem not_mem_of_isV4 {c : Char} (foreign : Foreign c) (h : IsV4 cs) : c ∉ cs := by
  intro hc
  obtain rfl | rfl := foreign
  · exact absurd (h.mem hc) (by decide)
  · exact absurd (h.mem hc) (by decide)

theorem not_mem_of_isV6 {c : Char} (foreign : Foreign c) (h : IsV6 cs) : c ∉ cs := by
  intro hc
  obtain rfl | rfl := foreign
  · exact absurd (h.mem hc) (by decide)
  · exact absurd (h.mem hc) (by decide)

theorem validV4_iff : validV4 s = true ↔ IsBlock IsV4 (IsSignedLength 32) s := by
  rw [← parse?_iff .v4 (fun _ => rfl) (by decide) (fun _ => parse?_v4_iff)
    fun _ => not_mem_of_isV4 (.inl rfl)]
  unfold validV4
  split
  · next v n read => exact iff_of_true rfl ⟨v, n, read⟩
  · next other => exact iff_of_false nofun fun ⟨v, n, read⟩ => other v n read

theorem validV6_iff : validV6 s = true ↔ IsBlock IsV6 (IsSignedLength 128) s := by
  rw [← parse?_iff .v6 (fun _ => rfl) (by decide) (fun _ => parse?_v6_iff)
    fun _ => not_mem_of_isV6 (.inl rfl)]
  unfold validV6
  split
  · next v n read => exact iff_of_true rfl ⟨v, n, read⟩
  · next other => exact iff_of_false nofun fun ⟨v, n, read⟩ => other v n read

/-- The blocks whose length has no sign are those without a plus sign. -/
theorem unsigned_iff {address : List Char → Prop} (plain : ∀ cs, address cs → '+' ∉ cs) :
    IsBlock address (IsLength max) s ↔
      IsBlock address (IsSignedLength max) s ∧ '+' ∉ s.toList := by
  constructor
  · rintro ⟨a, l, same, isAddress, isLength⟩
    refine ⟨⟨a, l, same, isAddress, l, isLength, .inl rfl⟩, fun sign => ?_⟩
    rw [same, List.mem_append, List.mem_cons] at sign
    rcases sign with inAddress | slash | inLength
    · exact plain a isAddress inAddress
    · exact absurd slash (by decide)
    · exact absurd (isLength.digits.2 _ inLength) (by decide)
  · rintro ⟨⟨a, l, same, isAddress, ds, isLength, rfl | rfl⟩, unsigned⟩
    · exact ⟨a, l, same, isAddress, isLength⟩
    · exact absurd (by rw [same]; simp) unsigned

/-- A text is accepted as a block of a version if and only if it is an address of that version, a
slash, and a prefix length that may have a plus sign. So the blocks in the usual notation are the
accepted texts without one. What is accepted at all is a block of one version and not of the
other. -/
theorem blocks_accepted_iff (s : String) :
    (validV4 s = true ↔ IsBlock IsV4 (IsSignedLength 32) s) ∧
    (validV6 s = true ↔ IsBlock IsV6 (IsSignedLength 128) s) ∧
    (IsBlock IsV4 (IsLength 32) s ↔ validV4 s = true ∧ '+' ∉ s.toList) ∧
    (IsBlock IsV6 (IsLength 128) s ↔ validV6 s = true ∧ '+' ∉ s.toList) ∧
    (valid s = true ↔ Xor (validV4 s = true) (validV6 s = true)) := by
  refine ⟨validV4_iff, validV6_iff, ?_, ?_, ?_⟩
  · rw [validV4_iff]
    exact unsigned_iff fun _ => not_mem_of_isV4 (.inr rfl)
  · rw [validV6_iff]
    exact unsigned_iff fun _ => not_mem_of_isV6 (.inr rfl)
  · rw [valid_eq]
    cases validV4 s <;> cases validV6 s <;> simp [Xor]

/-- A block with a sign in front of its length is accepted. -/
theorem signed_length_accepted :
    validV4 "10.0.0.0/+8" = true ∧ ¬ IsBlock IsV4 (IsLength 32) "10.0.0.0/+8" := by
  refine ⟨by decide +kernel, fun block => ?_⟩
  exact ((unsigned_iff fun _ => not_mem_of_isV4 (.inr rfl)).mp block).2 (by decide)

end Interlink.Cidr
