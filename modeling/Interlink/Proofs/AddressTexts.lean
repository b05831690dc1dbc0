import Interlink.Address
import Mathlib.Data.List.Basic

/-!
# Which texts are addresses

The texts of addresses are described by a grammar that knows nothing of the reader: an
address of version 4 is four octets with dots between them (`IsV4`), and one of version 6
is eight groups with colons between them, where two colons may stand for a run of zero
groups and the last two groups may be written as an address of version 4 (`IsV6`).

The reader takes exactly these texts (`Address.parse?_v4_iff`, `Address.parse?_v6_iff`). It
reads ahead as far as it can and never goes back, so it has to be shown that this loses
nothing: a digit that follows always belongs to what is being read, and what starts as a
group and has no dot behind its digits is no address of version 4. Both come from one
fact about splitting off the digits at the front, that there is one way to do it
(`Digit.span_append`).
-/

namespace Interlink

/-! ## Digits -/

namespace Digit

variable {base : Nat} {c : Char} {ds rest : List Char}

theorem char_le_iff {a b : Char} : a ≤ b ↔ a.toNat ≤ b.toNat := UInt32.le_iff_toNat_le

theorem isDigit_iff : c.isDigit = true ↔ '0' ≤ c ∧ c ≤ '9' := by
  rw [Char.isDigit_iff_toNat, char_le_iff, char_le_iff]

/-- A digit of ASCII has the same value in all bases that have it. -/
theorem value?_of_isDigit (digit : c.isDigit = true) (large : 10 ≤ base) :
    value? base c = some (c.toNat - '0'.toNat) := by
  have range := isDigit_iff.mp digit
  have high : c.toNat ≤ 57 := char_le_iff.mp range.2
  rw [value?, if_pos range]
  refine Option.filter_some_pos (decide_eq_true ?_)
  show c.toNat - 48 < base
  omega

theorem value?_isSome_ten : (value? 10 c).isSome = true ↔ c.isDigit = true := by
  refine ⟨fun some => ?_, fun digit => by rw [value?_of_isDigit digit (Nat.le_refl 10)]; rfl⟩
  obtain ⟨d, value⟩ := Option.isSome_iff_exists.mp some
  rw [isDigit_iff]
  by_contra other
  rw [value?, if_neg other, Option.filter_eq_some_iff, decide_eq_true_eq] at value
  obtain ⟨read, small⟩ := value
  -- the value of a letter is ten at least
  split at read
  · cases read
    omega
  · split at read
    · cases read
      omega
    · exact nomatch read

/-- A digit of base sixteen as it is written in ASCII, in either case. -/
def IsHex (c : Char) : Prop :=
  c.isDigit = true ∨ ('a' ≤ c ∧ c ≤ 'f') ∨ ('A' ≤ c ∧ c ≤ 'F')

instance : DecidablePred IsHex := fun c =>
  inferInstanceAs (Decidable (c.isDigit = true ∨ ('a' ≤ c ∧ c ≤ 'f') ∨ ('A' ≤ c ∧ c ≤ 'F')))

theorem value?_isSome_sixteen : (value? 16 c).isSome = true ↔ IsHex c := by
  unfold IsHex
  by_cases digit : c.isDigit = true
  · have high : c.toNat ≤ 57 := char_le_iff.mp (isDigit_iff.mp digit).2
    simp [value?_of_isDigit digit (show 10 ≤ 16 by decide), digit]
  · rw [isDigit_iff] at digit
    rw [value?, if_neg digit]
    have letter {first last : Char} (range : first ≤ c ∧ c ≤ last)
        (near : last.toNat = first.toNat + 5) :
        ((some (c.toNat - first.toNat + 10)).filter (· < 16)).isSome = true := by
      have high := char_le_iff.mp range.2
      have small : c.toNat - first.toNat + 10 < 16 := by omega
      rw [Option.filter_some, if_pos (decide_eq_true small)]
      rfl
    by_cases lower : 'a' ≤ c ∧ c ≤ 'f'
    · rw [if_pos lower]
      exact iff_of_true (letter lower rfl) (.inr (.inl lower))
    · rw [if_neg lower]
      by_cases upper : 'A' ≤ c ∧ c ≤ 'F'
      · rw [if_pos upper]
        exact iff_of_true (letter upper rfl) (.inr (.inr upper))
      · rw [if_neg upper, isDigit_iff]
        simp [digit, lower, upper]

/-! ## Digits at the front -/

/-- A text of digits alone. -/
def All (base : Nat) (cs : List Char) : Prop := ∀ c ∈ cs, (value? base c).isSome = true

/-- No digit stands at the front. -/
def Ends (base : Nat) (cs : List Char) : Prop := ∀ c ∈ cs.head?, value? base c = none

/-- The values of the digits of a text. -/
def values (base : Nat) (cs : List Char) : List Nat := cs.filterMap (value? base)

theorem ends_nil : Ends base [] := fun _ h => nomatch h

theorem ends_cons (none : value? base c = none) : Ends base (c :: rest) := by
  rintro _ ⟨⟩
  exact none

theorem span_append (digits : All base ds) (ends : Ends base rest) :
    span base (ds ++ rest) = (values base ds, rest) := by
  induction ds with
  | nil =>
    cases rest with
    | nil => rfl
    | cons c rest => simp [span, values, ends c rfl]
  | cons d ds ih =>
    obtain ⟨first, others⟩ := List.forall_mem_cons.mp digits
    obtain ⟨n, value⟩ := Option.isSome_iff_exists.mp first
    simp [span, values, value, ih others]

/-- Every text has its digits at the front, and then something else. -/
theorem exists_split (base : Nat) : ∀ cs : List Char,
    ∃ ds rest, cs = ds ++ rest ∧ All base ds ∧ Ends base rest
  | [] => ⟨[], [], rfl, (fun _ h => nomatch h), ends_nil⟩
  | c :: cs => by
    cases value : value? base c with
    | none => exact ⟨[], c :: cs, rfl, (fun _ h => nomatch h), ends_cons value⟩
    | some n =>
      obtain ⟨ds, rest, rfl, digits, ends⟩ := exists_split base cs
      refine ⟨c :: ds, rest, rfl, ?_, ends⟩
      exact List.forall_mem_cons.mpr ⟨by rw [value]; rfl, digits⟩

/-- There is one way to split the digits off. -/
theorem split_unique {ds' rest' : List Char} (digits : All base ds) (ends : Ends base rest)
    (digits' : All base ds') (ends' : Ends base rest') (same : ds ++ rest = ds' ++ rest') :
    ds = ds' ∧ rest = rest' := by
  have spans := congrArg (span base) same
  rw [span_append digits ends, span_append digits' ends'] at spans
  obtain rfl := (Prod.mk.inj spans).2
  exact ⟨List.append_cancel_right same, rfl⟩

theorem length_values (digits : All base ds) : (values base ds).length = ds.length := by
  induction ds with
  | nil => rfl
  | cons d ds ih =>
    obtain ⟨first, others⟩ := List.forall_mem_cons.mp digits
    obtain ⟨n, value⟩ := Option.isSome_iff_exists.mp first
    simpa [values, value] using ih others

theorem all_ten_iff {cs : List Char} : All 10 cs ↔ ∀ c ∈ cs, c.isDigit = true := by
  simp only [All, value?_isSome_ten]

/-- The number that a text of decimal digits writes. -/
theorem toNat_values (digits : ∀ c ∈ ds, c.isDigit = true) :
    toNat 10 (values 10 ds) = Nat.ofDigitChars 10 ds 0 := by
  have onward : ∀ (ds : List Char) (n : Nat), (∀ c ∈ ds, c.isDigit = true) →
      (values 10 ds).foldl (fun n d => n * 10 + d) n = Nat.ofDigitChars 10 ds n := by
    intro ds
    induction ds with
    | nil =>
      intro n _
      rfl
    | cons d ds ih =>
      intro n digits
      obtain ⟨first, others⟩ := List.forall_mem_cons.mp digits
      rw [values, List.filterMap_cons, value?_of_isDigit first (Nat.le_refl 10),
        Nat.ofDigitChars_cons, Nat.mul_comm 10 n]
      exact ih _ others
  exact onward ds 0 digits

end Digit

/-! ## Version 4 -/

namespace Address

/-- A decimal octet, without leading zeros. -/
structure IsOctet (cs : List Char) : Prop where
  digits : cs ≠ [] ∧ ∀ c ∈ cs, c.isDigit = true
  plain : cs.head? = some '0' → cs = ['0']
  bounded : Nat.ofDigitChars 10 cs 0 ≤ 255

/-- An address of version 4: four octets with dots between them. -/
def IsV4 (cs : List Char) : Prop :=
  ∃ a b c d, IsOctet a ∧ IsOctet b ∧ IsOctet c ∧ IsOctet d ∧
    cs = a ++ '.' :: (b ++ '.' :: (c ++ '.' :: d))

variable {c : Char} {cs ds rest : List Char}

/-- Without leading zeros there are three digits at most. -/
theorem IsOctet.length_lt (h : IsOctet (c :: cs)) : cs.length < 3 := by
  by_cases zero : c = '0'
  · have alone := h.plain (by rw [zero]; rfl)
    rw [(List.cons.inj alone).2]
    decide
  · have low : 48 ≤ c.toNat :=
      (Char.isDigit_iff_toNat.mp (h.digits.2 c List.mem_cons_self)).1
    have other : c.toNat ≠ 48 := fun same => zero (Char.toNat_inj.mp same)
    have bounded := h.bounded
    rw [Nat.ofDigitChars_cons, Nat.ofDigitChars_eq_ofDigitChars_zero] at bounded
    have power : 10 ^ cs.length ≤ 10 ^ cs.length * (10 * 0 + (c.toNat - '0'.toNat)) :=
      Nat.le_mul_of_pos_right _ (show 0 < 10 * 0 + (c.toNat - 48) by omega)
    by_contra long
    have large : 10 ^ 3 ≤ 10 ^ cs.length := Nat.pow_le_pow_right (by decide) (by omega)
    omega

/-- Of the digits at the front all are read, and they have to be an octet. -/
theorem octet_append (digits : ∀ c ∈ ds, c.isDigit = true) (ends : Digit.Ends 10 rest)
    {n : UInt8} {after : List Char} :
    octet (ds ++ rest) = some (n, after) ↔
      IsOctet ds ∧ n = UInt8.ofNat (Nat.ofDigitChars 10 ds 0) ∧ after = rest := by
  have all : Digit.All 10 ds := Digit.all_ten_iff.mpr digits
  unfold octet
  rw [Digit.span_append all ends]
  cases ds with
  | nil =>
    constructor
    · exact fun none => nomatch none
    · exact fun h => absurd rfl h.1.digits.1
  | cons c cs =>
    obtain ⟨first, others⟩ := List.forall_mem_cons.mp digits
    have low : 48 ≤ c.toNat := (Char.isDigit_iff_toNat.mp first).1
    have value := Digit.toNat_values digits
    have length := Digit.length_values (Digit.all_ten_iff.mpr others)
    have values : Digit.values 10 (c :: cs) = (c.toNat - 48) :: Digit.values 10 cs := by
      rw [Digit.values, List.filterMap_cons, Digit.value?_of_isDigit first (Nat.le_refl 10)]
      rfl
    have zero : c.toNat - 48 = 0 ↔ c = '0' := by
      rw [← Char.toNat_inj]
      show _ ↔ c.toNat = 48
      omega
    have none_left : Digit.values 10 cs = [] ↔ cs = [] := by
      rw [← List.length_eq_zero_iff, length, List.length_eq_zero_iff]
    have accepted : (Digit.values 10 cs).length < 3 ∧
        (c.toNat - 48 = 0 → Digit.values 10 cs = []) ∧
          Nat.ofDigitChars 10 (c :: cs) 0 < 256 ↔ IsOctet (c :: cs) := by
      rw [length, zero, none_left]
      constructor
      · rintro ⟨-, plain, bounded⟩
        refine ⟨⟨List.cons_ne_nil _ _, digits⟩, fun head => ?_, Nat.le_of_lt_succ bounded⟩
        have same : c = '0' := Option.some.inj head
        rw [same, plain same]
      · intro octet_
        exact ⟨octet_.length_lt, fun same => (List.cons.inj (octet_.plain (by rw [same]; rfl))).2,
          Nat.lt_succ_of_le octet_.bounded⟩
    rw [values] at value ⊢
    dsimp only
    rw [value]
    split
    · next ok =>
      simp only [accepted.mp ok, true_and, Option.some.injEq, Prod.mk.injEq]
      rw [eq_comm, @eq_comm _ rest]
    · next refused =>
      simp only [mt accepted.mpr refused, false_and]
      simp

/-- An octet and what follows it, at the front of a text. -/
theorem octet_some {n : UInt8} (h : octet cs = some (n, rest)) :
    ∃ ds, cs = ds ++ rest ∧ IsOctet ds ∧ Digit.Ends 10 rest := by
  obtain ⟨ds, after, rfl, digits, ends⟩ := Digit.exists_split 10 cs
  obtain ⟨octet_, -, rfl⟩ := (octet_append (Digit.all_ten_iff.mp digits) ends).mp h
  exact ⟨ds, rfl, octet_, ends⟩

theorem exists_octet (octet_ : IsOctet ds) (ends : Digit.Ends 10 rest) :
    ∃ n, octet (ds ++ rest) = some (n, rest) :=
  ⟨_, (octet_append octet_.digits.2 ends).mpr ⟨octet_, rfl, rfl⟩⟩

theorem expect_eq_some_iff : expect c cs = some rest ↔ cs = c :: rest := by
  cases cs with
  | nil => simp [expect]
  | cons d ds =>
    unfold expect
    by_cases same : d = c
    · simp [same]
    · simp [same]

theorem ends_dot : Digit.Ends 10 ('.' :: rest) := Digit.ends_cons (by decide)

/-- What is read as version 4 is an address of version 4, and no digit follows. -/
theorem V4.read_some {v : V4} (h : V4.read cs = some (v, rest)) :
    ∃ q, IsV4 q ∧ cs = q ++ rest ∧ Digit.Ends 10 rest := by
  simp only [V4.read, Option.bind_eq_bind, Option.bind_eq_some_iff, Prod.exists] at h
  obtain ⟨a, cs₁, first, cs₂, dot, b, cs₃, second, cs₄, dot', c, cs₅, third, cs₆, dot'', d, cs₇,
    fourth, same⟩ := h
  obtain ⟨p, rfl, isP, -⟩ := octet_some first
  obtain rfl := expect_eq_some_iff.mp dot
  obtain ⟨q, rfl, isQ, -⟩ := octet_some second
  obtain rfl := expect_eq_some_iff.mp dot'
  obtain ⟨r, rfl, isR, -⟩ := octet_some third
  obtain rfl := expect_eq_some_iff.mp dot''
  obtain ⟨u, rfl, isU, ends⟩ := octet_some fourth
  cases same
  exact ⟨_, ⟨p, q, r, u, isP, isQ, isR, isU, rfl⟩, by simp, ends⟩

/-- An address of version 4 is read where no digit follows. -/
theorem V4.exists_read {q : List Char} (address : IsV4 q) (ends : Digit.Ends 10 rest) :
    ∃ v, V4.read (q ++ rest) = some (v, rest) := by
  obtain ⟨a, b, c, d, isA, isB, isC, isD, rfl⟩ := address
  have dotted {octet_ : List Char} (isOctet : IsOctet octet_) (after : List Char) :
      ∃ n, octet (octet_ ++ '.' :: after) = some (n, '.' :: after) :=
    exists_octet isOctet ends_dot
  obtain ⟨k, first⟩ := dotted isA (b ++ '.' :: (c ++ '.' :: (d ++ rest)))
  obtain ⟨l, second⟩ := dotted isB (c ++ '.' :: (d ++ rest))
  obtain ⟨m, third⟩ := dotted isC (d ++ rest)
  obtain ⟨n, fourth⟩ := exists_octet isD ends
  refine ⟨⟨k, l, m, n⟩, ?_⟩
  simp [V4.read, first, second, third, fourth, expect]

/-! ## Version 6 -/

/-- A group: one to four digits of base sixteen. -/
structure IsGroup (cs : List Char) : Prop where
  some : cs ≠ []
  short : cs.length ≤ 4
  digits : ∀ c ∈ cs, Digit.IsHex c

/-- A run of groups, with their number: the texts that are joined by colons. The last one may be
an address of version 4, which is embedded in place of two groups. -/
inductive IsRun : Bool → Nat → List (List Char) → Prop
  | nil : IsRun false 0 []
  | embedded {q : List Char} (address : IsV4 q) : IsRun true 2 [q]
  | group {e : Bool} {n : Nat} {g : List Char} {gs : List (List Char)} (first : IsGroup g)
      (others : IsRun e n gs) : IsRun e (n + 1) (g :: gs)

/-- An address of version 6: eight groups with colons between them, or fewer, where two colons
stand for all that are left out, and for one at least. -/
inductive IsV6 : List Char → Prop
  | full {e : Bool} {gs : List (List Char)} (all : IsRun e 8 gs) : IsV6 (List.intercalate [':'] gs)
  | compressed {e : Bool} {m n : Nat} {front back : List (List Char)}
      (before : IsRun false m front) (behind : IsRun e n back) (room : m + n ≤ 7) :
      IsV6 (List.intercalate [':'] front ++ ':' :: ':' :: List.intercalate [':'] back)

theorem all_sixteen_iff : Digit.All 16 cs ↔ ∀ c ∈ cs, Digit.IsHex c := by
  simp only [Digit.All, Digit.value?_isSome_sixteen]

/-- Of the digits at the front all are read, and they have to be a group. -/
theorem group_append (digits : Digit.All 16 ds) (ends : Digit.Ends 16 rest)
    {after : List Char} :
    (∃ n, group (ds ++ rest) = some (n, after)) ↔ IsGroup ds ∧ after = rest := by
  unfold group
  rw [Digit.span_append digits ends]
  have length := Digit.length_values digits
  cases values : Digit.values 16 ds with
  | nil =>
    rw [values] at length
    have none : ds = [] := List.length_eq_zero_iff.mp length.symm
    constructor
    · rintro ⟨n, h⟩
      exact nomatch h
    · exact fun h => absurd none h.1.some
  | cons v vs =>
    rw [values, List.length_cons] at length
    constructor
    · rintro ⟨n, h⟩
      dsimp only at h
      split at h
      · next short =>
        cases h
        refine ⟨⟨fun none => ?_, by omega, all_sixteen_iff.mp digits⟩, rfl⟩
        rw [none] at length
        exact nomatch length
      · exact nomatch h
    · rintro ⟨isGroup, rfl⟩
      have short := isGroup.short
      exact ⟨_, if_pos (show vs.length < 4 by omega)⟩

/-- A group and what follows it, at the front of a text. -/
theorem group_some {n : UInt16} (h : group cs = some (n, rest)) :
    ∃ g, cs = g ++ rest ∧ IsGroup g := by
  obtain ⟨ds, after, rfl, digits, ends⟩ := Digit.exists_split 16 cs
  obtain ⟨isGroup, rfl⟩ := (group_append digits ends).mp ⟨n, h⟩
  exact ⟨ds, rfl, isGroup⟩

/-- Where digits end with something else than a dot, there is no address of version 4. -/
theorem V4.read_eq_none (digits : Digit.All 16 ds) (ends : Digit.Ends 16 rest)
    (other : ∀ more, rest ≠ '.' :: more) : V4.read (ds ++ rest) = none := by
  by_contra read
  obtain ⟨⟨v, after⟩, read⟩ := Option.ne_none_iff_exists'.mp read
  obtain ⟨q, ⟨a, b, c, d, isA, -, -, -, rfl⟩, same, -⟩ := V4.read_some read
  rw [List.append_assoc] at same
  have first : Digit.All 16 a :=
    all_sixteen_iff.mpr fun c hc => .inl (isA.digits.2 c hc)
  exact other _ (Digit.split_unique digits ends first (Digit.ends_cons (by decide)) same).2

/-- Runs are joined by colons; behind other groups there is a colon before them as well. -/
def chain (first : Bool) (gs : List (List Char)) : List Char :=
  if first then List.intercalate [':'] gs else gs.flatMap (':' :: ·)

theorem chain_nil (first : Bool) : chain first [] = [] := by cases first <;> rfl

theorem chain_cons (first : Bool) (g : List Char) (gs : List (List Char)) :
    chain first (g :: gs) = (if first then g else ':' :: g) ++ chain false gs := by
  cases first with
  | false => rfl
  | true =>
    show List.intercalate [':'] (g :: gs) = g ++ gs.flatMap (':' :: ·)
    induction gs generalizing g with
    | nil => simp
    | cons g' gs ih =>
      rw [List.intercalate_cons_cons, ih]
      simp

theorem separator_eq_some_iff {first : Bool} :
    separator first cs = some rest ↔ cs = (if first then [] else [':']) ++ rest := by
  cases first with
  | true => simp [separator]
  | false => exact expect_eq_some_iff

/-- What is read as a run of groups is one. -/
theorem readGroups_reads (first : Bool) (room : Nat) (cs : List Char) :
    ∃ gs, cs = chain first gs ++ (readGroups first room cs).rest ∧
      IsRun (readGroups first room cs).embedded (readGroups first room cs).groups.length gs ∧
      (readGroups first room cs).groups.length ≤ room := by
  induction room generalizing first cs with
  | zero => exact ⟨[], by rw [chain_nil]; rfl, .nil, Nat.le_refl 0⟩
  | succ room ih =>
    unfold readGroups
    dsimp only
    split
    · next v rest found =>
      split at found
      · exact nomatch found
      · next room_left =>
        obtain ⟨cs', separated, read⟩ := Option.bind_eq_some_iff.mp found
        obtain ⟨q, address, rfl, -⟩ := V4.read_some read
        refine ⟨[q], ?_, .embedded address, ?_⟩
        · rw [separator_eq_some_iff.mp separated, chain_cons, chain_nil]
          cases first <;> simp
        · show 2 ≤ room + 1
          omega
    · split
      · next n rest found =>
        obtain ⟨cs', separated, read⟩ := Option.bind_eq_some_iff.mp found
        obtain ⟨g, rfl, isGroup⟩ := group_some read
        obtain ⟨gs, same, run, within⟩ := ih false rest
        refine ⟨g :: gs, ?_, .group isGroup run, Nat.succ_le_succ within⟩
        rw [separator_eq_some_iff.mp separated, chain_cons]
        conv_lhs => rw [same]
        cases first <;> simp
      · exact ⟨[], by rw [chain_nil]; rfl, .nil, Nat.zero_le _⟩

/-- Nothing stands here, or a colon. -/
def Breaks (cs : List Char) : Prop := cs = [] ∨ ∃ more, cs = ':' :: more

theorem Breaks.ends (h : Breaks cs) : Digit.Ends 16 cs ∧ Digit.Ends 10 cs := by
  obtain rfl | ⟨more, rfl⟩ := h
  · exact ⟨Digit.ends_nil, Digit.ends_nil⟩
  · exact ⟨Digit.ends_cons (by decide), Digit.ends_cons (by decide)⟩

theorem Breaks.ne_dot (h : Breaks cs) (more : List Char) : cs ≠ '.' :: more := by
  obtain rfl | ⟨more', rfl⟩ := h
  · exact fun same => nomatch same
  · exact fun same => absurd (List.cons.inj same).1 (by decide)

/-- A run of groups ends here: with the text, or with two colons. -/
def Closes (cs : List Char) : Prop := cs = [] ∨ ∃ more, cs = ':' :: ':' :: more

theorem Closes.breaks (h : Closes cs) : Breaks cs := by
  obtain rfl | ⟨more, rfl⟩ := h
  · exact .inl rfl
  · exact .inr ⟨_, rfl⟩

/-- Behind a group there is a colon, or the run ends. -/
theorem breaks_chain (closes : Closes rest) (gs : List (List Char)) :
    Breaks (chain false gs ++ rest) := by
  cases gs with
  | nil => exact closes.breaks
  | cons g gs => exact .inr ⟨g ++ (chain false gs ++ rest), by simp [chain]⟩

/-- Where a run ends no group is read. -/
theorem readGroups_closed (closes : Closes rest) (first : Bool) (room : Nat) :
    readGroups first room rest = ⟨[], false, rest⟩ := by
  have none_read {cs : List Char} (breaks : Breaks cs) : V4.read cs = none ∧ group cs = none := by
    have noDigits : Digit.All 16 [] := fun _ h => nomatch h
    refine ⟨V4.read_eq_none noDigits breaks.ends.1 breaks.ne_dot, ?_⟩
    by_contra read
    obtain ⟨⟨n, after⟩, read⟩ := Option.ne_none_iff_exists'.mp read
    exact ((group_append noDigits breaks.ends.1).mp ⟨n, read⟩).1.some rfl
  have none_separated : (separator first rest).bind V4.read = none ∧
      (separator first rest).bind group = none := by
    cases separated : separator first rest with
    | none => exact ⟨rfl, rfl⟩
    | some cs =>
      apply none_read
      rw [separator_eq_some_iff] at separated
      cases first with
      | true =>
        obtain rfl : rest = cs := by simpa using separated
        exact closes.breaks
      | false =>
        obtain rfl | ⟨more, rfl⟩ := closes
        · exact nomatch separated
        · exact .inr ⟨more, (List.cons.inj separated).2.symm⟩
  cases room with
  | zero => rfl
  | succ room =>
    unfold readGroups
    rw [none_separated.1, none_separated.2]
    simp

/-- A run of groups for which there is room is read to its end. -/
theorem readGroups_run {e : Bool} {n : Nat} {gs : List (List Char)} (run : IsRun e n gs)
    (closes : Closes rest) : ∀ (first : Bool) {room : Nat}, n ≤ room →
      ∃ ns, readGroups first room (chain first gs ++ rest) = ⟨ns, e, rest⟩ ∧ ns.length = n := by
  induction run with
  | nil =>
    intro first room _
    rw [chain_nil]
    exact ⟨[], readGroups_closed closes first room, rfl⟩
  | @embedded q address =>
    intro first room fits
    obtain ⟨room, rfl⟩ : ∃ r, room = r + 2 := ⟨room - 2, by omega⟩
    obtain ⟨v, read⟩ := V4.exists_read address closes.breaks.ends.2
    have separated : separator first (chain first [q] ++ rest) = some (q ++ rest) := by
      rw [separator_eq_some_iff, chain_cons, chain_nil]
      cases first <;> simp
    refine ⟨v.groups, ?_, rfl⟩
    unfold readGroups
    simp [separated, read]
  | @group e n g gs isGroup others ih =>
    intro first room fits
    obtain ⟨room, rfl⟩ : ∃ r, room = r + 1 := ⟨room - 1, by omega⟩
    have breaks := breaks_chain closes gs
    have digits : Digit.All 16 g := all_sixteen_iff.mpr isGroup.digits
    have separated : separator first (chain first (g :: gs) ++ rest) =
        some (g ++ (chain false gs ++ rest)) := by
      rw [separator_eq_some_iff, chain_cons]
      cases first <;> simp
    obtain ⟨k, read⟩ := (group_append digits breaks.ends.1).mpr ⟨isGroup, rfl⟩
    have noAddress := V4.read_eq_none digits breaks.ends.1 breaks.ne_dot
    obtain ⟨ns, more, length⟩ := ih false (Nat.le_of_succ_le_succ fits)
    refine ⟨k :: ns, ?_, by rw [List.length_cons, length]⟩
    unfold readGroups
    simp [separated, read, noAddress, more]

/-- The reader of version 6 takes a text to its end if and only if the text is an address of
version 6. -/
theorem V6.read_iff : (∃ v, V6.read cs = some (v, [])) ↔ IsV6 cs := by
  constructor
  · rintro ⟨v, h⟩
    obtain ⟨gs, same, run, within⟩ := readGroups_reads true 8 cs
    unfold V6.read at h
    dsimp only at h
    generalize readGroups true 8 cs = head at *
    split at h
    · next full =>
      rw [full] at run
      obtain ⟨-, last⟩ := Prod.mk.inj (Option.some.inj h)
      rw [last, List.append_nil] at same
      exact same ▸ .full run
    · split at h
      · exact nomatch h
      · next short plain =>
        simp only [Option.bind_eq_bind, Option.bind_eq_some_iff, expect_eq_some_iff] at h
        obtain ⟨_, colon, cs', colon', h⟩ := h
        rw [Bool.not_eq_true] at plain
        obtain ⟨gs', same', run', within'⟩ := readGroups_reads true (7 - head.groups.length) cs'
        generalize readGroups true (7 - head.groups.length) cs' = tail at *
        obtain ⟨-, last⟩ := Prod.mk.inj (Option.some.inj h)
        rw [last, List.append_nil] at same'
        rw [plain] at run
        rw [same, colon, colon', same']
        exact .compressed run run' (by omega)
  · intro address
    cases address with
    | @full e gs all =>
      obtain ⟨ns, read, length⟩ := readGroups_run all (.inl rfl) true (Nat.le_refl 8)
      have read : readGroups true 8 (List.intercalate [':'] gs) = ⟨ns, e, []⟩ := by
        rwa [List.append_nil] at read
      refine ⟨⟨ns⟩, ?_⟩
      unfold V6.read
      simp [read, length]
    | @compressed e m n front back before behind room =>
      obtain ⟨ns, read, length⟩ := readGroups_run before
        (.inr ⟨List.intercalate [':'] back, rfl⟩) true (show m ≤ 8 by omega)
      obtain ⟨ns', read', length'⟩ := readGroups_run behind (.inl rfl) true
        (show n ≤ 7 - m by omega)
      have read : readGroups true 8
          (List.intercalate [':'] front ++ ':' :: ':' :: List.intercalate [':'] back) =
            ⟨ns, false, ':' :: ':' :: List.intercalate [':'] back⟩ := read
      have read' : readGroups true (7 - m) (List.intercalate [':'] back) = ⟨ns', e, []⟩ := by
        rwa [List.append_nil] at read'
      refine ⟨⟨ns ++ List.replicate (8 - m - n) 0 ++ ns'⟩, ?_⟩
      unfold V6.read
      simp [read, read', length, length', expect, show m ≠ 8 by omega]

/-! ## Either version -/

/-- The characters of an address of version 4. -/
theorem IsV4.mem (h : IsV4 cs) (hc : c ∈ cs) : c.isDigit = true ∨ c = '.' := by
  obtain ⟨p, q, r, u, isP, isQ, isR, isU, rfl⟩ := h
  simp only [List.mem_append, List.mem_cons] at hc
  rcases hc with hc | dot | hc | dot | hc | dot | hc
  · exact .inl (isP.digits.2 c hc)
  · exact .inr dot
  · exact .inl (isQ.digits.2 c hc)
  · exact .inr dot
  · exact .inl (isR.digits.2 c hc)
  · exact .inr dot
  · exact .inl (isU.digits.2 c hc)

theorem IsRun.mem {e : Bool} {n : Nat} {gs : List (List Char)} (run : IsRun e n gs)
    (first : Bool) (hc : c ∈ chain first gs) : Digit.IsHex c ∨ c = '.' ∨ c = ':' := by
  induction run generalizing first with
  | nil =>
    rw [chain_nil] at hc
    exact nomatch hc
  | embedded address =>
    rw [chain_cons, chain_nil, List.append_nil] at hc
    have ofAddress (hc : c ∈ _) : Digit.IsHex c ∨ c = '.' ∨ c = ':' :=
      (address.mem hc).elim (fun digit => .inl (.inl digit)) fun dot => .inr (.inl dot)
    split at hc
    · exact ofAddress hc
    · exact (List.mem_cons.mp hc).elim (fun colon => .inr (.inr colon)) ofAddress
  | group isGroup others ih =>
    rw [chain_cons] at hc
    rcases List.mem_append.mp hc with hc | hc
    · split at hc
      · exact .inl (isGroup.digits c hc)
      · exact (List.mem_cons.mp hc).elim (fun colon => .inr (.inr colon)) fun hc =>
          .inl (isGroup.digits c hc)
    · exact ih false hc

/-- The characters of an address of version 6. -/
theorem IsV6.mem (h : IsV6 cs) (hc : c ∈ cs) : Digit.IsHex c ∨ c = '.' ∨ c = ':' := by
  cases h with
  | full all => exact all.mem true hc
  | compressed before behind room =>
    rcases List.mem_append.mp hc with hc | hc
    · exact before.mem true hc
    · rcases List.mem_cons.mp hc with colon | hc
      · exact .inr (.inr colon)
      · exact (List.mem_cons.mp hc).elim (fun colon => .inr (.inr colon)) (behind.mem true)

/-- Before the first colon of an address of version 6 there are digits only. -/
theorem IsV6.colon (h : IsV6 cs) : ∃ g more, cs = g ++ ':' :: more ∧ ∀ c ∈ g, Digit.IsHex c := by
  cases h with
  | full all =>
    cases all with
    | @group e n g gs isGroup others =>
      cases others with
      | @group e n g' gs isGroup' others =>
        exact ⟨g, _, chain_cons true g (g' :: gs), isGroup.digits⟩
  | @compressed e m n front back before behind room =>
    cases before with
    | nil => exact ⟨[], _, rfl, fun _ h => nomatch h⟩
    | @group e n g gs isGroup others =>
      refine ⟨g, ?_⟩
      rw [show List.intercalate [':'] (g :: gs) = g ++ chain false gs from chain_cons true g gs,
        List.append_assoc]
      obtain none | ⟨more, same⟩ := breaks_chain (.inr ⟨List.intercalate [':'] back, rfl⟩) gs
      · exact absurd none (by simp)
      · exact ⟨more, by rw [same], isGroup.digits⟩

/-- A text is read as version 4 if and only if it is an address of version 4. -/
theorem parse?_v4_iff : (∃ a, Address.parse? cs = some (.v4 a)) ↔ IsV4 cs := by
  unfold Address.parse?
  constructor
  · rintro ⟨a, h⟩
    split at h
    · next v read =>
      obtain ⟨q, address, rfl, -⟩ := V4.read_some read
      rwa [List.append_nil]
    · exact nomatch h
    · split at h
      · exact nomatch h
      · exact nomatch h
  · intro address
    obtain ⟨v, read⟩ := V4.exists_read address Digit.ends_nil
    rw [List.append_nil] at read
    exact ⟨v, by rw [read]⟩

/-- A text is read as version 6 if and only if it is an address of version 6: none of these
starts as an address of version 4. -/
theorem parse?_v6_iff : (∃ a, Address.parse? cs = some (.v6 a)) ↔ IsV6 cs := by
  unfold Address.parse?
  constructor
  · rintro ⟨a, h⟩
    split at h
    · exact nomatch h
    · exact nomatch h
    · split at h
      · next v read => exact V6.read_iff.mp ⟨v, read⟩
      · exact nomatch h
  · intro address
    obtain ⟨g, more, rfl, digits⟩ := address.colon
    have breaks : Breaks (':' :: more) := .inr ⟨more, rfl⟩
    obtain ⟨v, read⟩ := V6.read_iff.mpr address
    rw [V4.read_eq_none (all_sixteen_iff.mpr digits) breaks.ends.1 breaks.ne_dot, read]
    exact ⟨v, rfl⟩

end Address
end Interlink
