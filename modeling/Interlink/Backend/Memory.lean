import Interlink.Backend.Snapshot

/-!
# A backend in memory

The backend answers from a snapshot. It counts what it is asked, lists the
roles that were assumed in the order of the questions, and can be told to deny
the roles of an account. Its answers do not depend on the past, so `answer` is a
function of the question, and `serve` is `answer` with the books kept.
-/

namespace Interlink

/-- A snapshot, the accounts whose roles are denied, and the books. -/
structure Memory where
  snapshot : Snapshot := {}
  denied : NameSet := .empty
  counts : CallCounts := {}
  /-- The roles assumed so far, denied ones included, in the order of the
  questions. -/
  assumedRoles : List String := []
deriving DecidableEq, Repr, Inhabited

namespace Memory

/-- Whether an identity may ask: only an assumed role can be denied. -/
def access (m : Memory) (i : Identity) : Except LookupError Unit :=
  match i.roleName with
  | some role =>
    if m.denied.contains i.account then .error (.accessDenied i.accountId role) else .ok ()
  | none => .ok ()

/-- An answer for an identity, if it may ask. -/
def answerFor (m : Memory) (i : Identity) (value : Option String) : Answer :=
  match m.access i with
  | .error e => .failed e
  | .ok () => .ofOption value

/-- The answer to a question. -/
def answer (m : Memory) : Query → Answer
  | .localValue scope path => .ofOption (m.snapshot.value? scope path)
  | .remoteValue i path => m.answerFor i (m.snapshot.value? i.scope path)
  | .share kind name ownerId region => .ofOption (m.snapshot.share? kind name ownerId region)
  | .attachment i gatewayId name => m.answerFor i (m.snapshot.attachment? i.scope gatewayId name)

/-- The role that a question assumes. -/
def assumed : Query → Option String
  | .remoteValue i _ => i.roleName
  | .attachment i _ _ => i.roleName
  | _ => none

/-- The backend after a question. -/
def note (m : Memory) (q : Query) : Memory :=
  { m with
    counts := m.counts.bump q
    assumedRoles := m.assumedRoles ++ (assumed q).toList }

/-- Answer a question and keep the books. -/
def serve (m : Memory) (q : Query) : Answer × Memory := (m.answer q, m.note q)

/-- The memory as a backend. -/
def backend (m : Memory) : Backend := .fixed m.answer

/-- Deny the roles of an account. -/
def deny (m : Memory) (account : String) : Memory := { m with denied := m.denied.add account }

/-- Publish a value. It is never refused. -/
def publish (m : Memory) (c : PublishCall) : Memory :=
  { m with snapshot := m.snapshot.publish c.scope c.path c.value }

/-- The memory as a publisher. -/
def publisher : Publisher := fun _ _ => .ok ()

end Memory

end Interlink
