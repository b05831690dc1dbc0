import Interlink.Proofs.Sources

/-!
# What a run will learn

If answers are fixed, then what a unit learns is settled before it asks: a value that is
remembered stays, and any other one is what the answers give for it. `Vantage.foreseen`
reads this off a run, for whatever owners do not share. No request changes it
(`learn_foreseen`), because a value is remembered as it was foreseen, and an identity is
kept as it would have been made. So what requests come to does not depend on their order.

Of the run nothing is presumed. The values that it remembers may be others than the
answers give, and the identities that it keeps may be others than would be made now.
-/

namespace Interlink

namespace Vantage

variable {v : Vantage} {answer : Query → Answer} {s : Run} {owner : Scope}

/-- The identity under which a unit reads in an owner's store, given the id of the
owner's account: the one that is kept, or the one that is made. -/
def reader (v : Vantage) (s : Run) (owner : Scope) (id : String) : Identity :=
  (s.helpers.get? ⟨.parameterShare, owner.account, owner.region⟩).getD
    ⟨owner.account, id, owner.region, v.roleFor .parameterShare owner⟩

/-- What the answers give for a value of an owner that is not shared. -/
def stored (v : Vantage) (answer : Query → Answer) (s : Run) (key : RecallKey) : Option String :=
  if key.owner = v.caller then (answer (.localValue key.owner key.path)).value?
  else
    (v.accounts.accountId? key.owner.account).bind fun id =>
      (answer (.remoteValue (v.reader s key.owner id) key.path)).value?

/-- What is learned under a key, now or later: what is remembered, or else what the answers
give. -/
def foreseen (v : Vantage) (answer : Query → Answer) (s : Run) (key : RecallKey) :
    Option String :=
  (s.values.values.get? key).or (v.stored answer s key)

theorem foreseen_of_knows {key : RecallKey} {value : String} (known : s.Knows key value) :
    v.foreseen answer s key = some value := by
  rw [foreseen, show s.values.values.get? key = some value from known, Option.some_or]

section Enlisted

variable {id : String} (member : v.accounts.accountId? owner.account = some id)
  (new : s.helpers.get? ⟨.parameterShare, owner.account, owner.region⟩ = none)
include member new

/-- To keep the identity that would be made for an owner leaves those for all owners. -/
theorem reader_enlist {other : Scope} {id' : String}
    (member' : v.accounts.accountId? other.account = some id') :
    v.reader
        (s.enlist ⟨.parameterShare, owner.account, owner.region⟩
          ⟨owner.account, id, owner.region, v.roleFor .parameterShare owner⟩) other id' =
      v.reader s other id' := by
  unfold reader
  show ((s.helpers.record _ _).get? _).getD _ = _
  rw [Memo.get?_record]
  by_cases same : other = owner
  · subst same
    obtain rfl := Option.some.inj (member.symm.trans member')
    simp [new]
  · have apart : ((⟨.parameterShare, other.account, other.region⟩ : HelperKey) ==
        ⟨.parameterShare, owner.account, owner.region⟩) = false := by
      rw [beq_eq_false_iff_ne]
      intro kept
      obtain ⟨-, account, region⟩ := HelperKey.mk.inj kept
      exact same (Scope.eq_iff.mpr ⟨beq_iff_eq.mpr account, beq_iff_eq.mpr region⟩)
    simp [apart]

/-- It leaves what is foreseen as well. -/
theorem foreseen_enlist :
    v.foreseen answer
        (s.enlist ⟨.parameterShare, owner.account, owner.region⟩
          ⟨owner.account, id, owner.region, v.roleFor .parameterShare owner⟩) =
      v.foreseen answer s := by
  funext key
  refine congrArg (Option.or _) ?_
  unfold stored
  split
  · rfl
  · exact Option.bind_congr fun id' member' => by rw [reader_enlist member new member']

end Enlisted

/-- To remember a value as it was foreseen leaves what is foreseen. -/
theorem foreseen_remember {key : RecallKey} {value : String}
    (expected : v.foreseen answer s key = some value) :
    v.foreseen answer (s.remember key value) = v.foreseen answer s := by
  funext k
  show ((s.remember key value).values.values.get? k).or (v.stored answer s k) =
    v.foreseen answer s k
  rw [Run.get?_remember, Option.or_assoc]
  by_cases same : k = key
  · subst same
    rw [beq_self_eq_true, if_pos rfl, Option.some_or, expected]
    cases known : s.values.values.get? k with
    | none => rfl
    | some earlier =>
      rw [foreseen_of_knows known] at expected
      exact expected
  · rw [if_neg (by simpa using same), Option.none_or]
    rfl

/-! ## Learning -/

open Lookup

section Fixed

variable {F : RecallKey → Option String} {value? : Option String}
  (fixed : v.backend = .fixed answer)
include fixed

/-- What is read in another owner's store is what the answers give for it. -/
theorem readRemote_stored {r : Reference} (other : owner ≠ v.caller) :
    Meets (fun s => v.stored answer s ⟨r.path, owner⟩ = value? ∧ v.foreseen answer s = F)
      (v.readRemote r owner (v.roleFor .parameterShare owner))
      (fun found s => value? = found ∧ v.foreseen answer s = F)
      fun s => value? = none ∧ v.foreseen answer s = F := by
  have identity : Meets
      (fun s => v.stored answer s ⟨r.path, owner⟩ = value? ∧ v.foreseen answer s = F)
      (v.identity .parameterShare owner (v.roleFor .parameterShare owner))
      (fun i s => (answer (.remoteValue i r.path)).value? = value? ∧ v.foreseen answer s = F)
      fun s => value? = none ∧ v.foreseen answer s = F := by
    apply meets_identity
    case kept =>
      rintro s i id ⟨rfl, hs⟩ member kept
      refine ⟨?_, hs⟩
      rw [stored, if_neg other, member, Option.bind_some, reader, kept, Option.getD_some]
    case made =>
      rintro s id ⟨rfl, hs⟩ member new
      refine ⟨?_, (foreseen_enlist member new).trans hs⟩
      rw [stored, if_neg other, member, Option.bind_some, reader, new, Option.getD_none]
    case unknown =>
      rintro s ⟨rfl, hs⟩ unknown
      refine ⟨?_, hs⟩
      rw [stored, if_neg other, unknown, Option.bind_none]
  refine identity.bind _ fun i => Meets.assuming fun answered => ?_
  rw [← answered]
  exact askFor_value (J := fun s => v.foreseen answer s = F) (fun _ _ hs => hs) fixed

/-- What is fetched, and never shared, is what the answers give for it. -/
theorem fetch_stored {r : Reference} (alone : r.kind.shareable = false) :
    Meets (fun s => v.stored answer s ⟨r.path, owner⟩ = value? ∧ v.foreseen answer s = F)
      (v.fetch r owner) (fun found s => value? = found ∧ v.foreseen answer s = F)
      fun s => value? = none ∧ v.foreseen answer s = F := by
  rw [fetch_eq]
  by_cases mine : owner = v.caller
  · have own (s : Run) : v.stored answer s ⟨r.path, owner⟩ =
        (answer (.localValue owner r.path)).value? := if_pos mine
    simp only [if_pos mine, own]
    refine Meets.assuming fun answered => ?_
    rw [← answered]
    exact askFor_value (J := fun s => v.foreseen answer s = F) (fun _ _ hs => hs) fixed
  · have unshared : v.looksInShare r.kind owner = false := by simp [looksInShare, alone]
    rw [if_neg mine, unshared, if_neg Bool.false_ne_true]
    exact readRemote_stored fixed mine

/-- What is learned, of what is never shared, is what was foreseen, and afterwards the same is
foreseen of everything. It fails if nothing was foreseen. -/
theorem learn_foreseen {p : Published} (alone : p.kind.shareable = false) :
    Meets (fun s => v.foreseen answer s = F) (v.learn p owner)
      (fun value s => F ⟨p.path v.pathPrefix, owner⟩ = some value ∧ v.foreseen answer s = F)
      fun s => F ⟨p.path v.pathPrefix, owner⟩ = none ∧ v.foreseen answer s = F := by
  have fetched : Meets
      (fun s => v.foreseen answer s = F ∧
        s.values.values.get? ⟨p.path v.pathPrefix, owner⟩ = none)
      (v.fetch (p.reference v.pathPrefix) owner)
      (fun found s => F ⟨p.path v.pathPrefix, owner⟩ = found ∧ v.foreseen answer s = F)
      fun s => F ⟨p.path v.pathPrefix, owner⟩ = none ∧ v.foreseen answer s = F := by
    refine (fetch_stored fixed alone).weaken ?_ (fun _ _ hs => hs) fun _ hs => hs
    rintro s ⟨rfl, unknown⟩
    refine ⟨?_, rfl⟩
    rw [foreseen, unknown, Option.none_or]
    rfl
  have remembered : Meets (fun s => v.foreseen answer s = F) (v.learn p owner)
      (fun value s => v.foreseen answer s = F ∧ s.Knows ⟨p.path v.pathPrefix, owner⟩ value)
      fun s => F ⟨p.path v.pathPrefix, owner⟩ = none ∧ v.foreseen answer s = F := by
    refine meets_recalled_of_unknown (fun _ hs => hs) (fun _ hs => hs) fetched ?_ fun _ hs => hs
    rintro s value ⟨expected, rfl⟩
    exact foreseen_remember expected
  refine remembered.mono ?_
  rintro value s ⟨rfl, known⟩
  exact ⟨foreseen_of_knows known, rfl⟩

end Fixed

end Vantage

end Interlink
