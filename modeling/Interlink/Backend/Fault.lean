import Interlink.Backend

/-!
# Faults to order

A backend can be made to fail for chosen questions, to see what a unit does
then. A fault names a sort of call and the path or name that the call is about.
The backend behind it is not asked.
-/

namespace Interlink

/-- The sorts of calls. -/
inductive CallKind
  | localRead
  | remoteRead
  | share
  | provider
  | publish
deriving DecidableEq, Repr, Inhabited

/-- An order to fail. -/
structure Fault where
  on : CallKind
  /-- The path or name of the call. -/
  subject : String
  error : LookupError
deriving DecidableEq, Repr, Inhabited

/-- The sort of a question, and what it is about. -/
def Query.subject : Query → CallKind × String
  | .localValue _ path => (.localRead, path)
  | .remoteValue _ path => (.remoteRead, path)
  | .share _ name _ _ => (.share, name)
  | .attachment _ _ name => (.provider, name)

namespace Fault

/-- The failure of a call, by the first fault that matches. -/
def failure? (faults : List Fault) (kind : CallKind) (subject : String) : Option LookupError :=
  (faults.find? fun f => f.on == kind && f.subject == subject).map (·.error)

/-- The failure of a question. -/
def ofQuery? (faults : List Fault) (q : Query) : Option LookupError :=
  failure? faults q.subject.1 q.subject.2

end Fault

/-- A backend behind faults. -/
def Backend.withFaults (b : Backend) (faults : List Fault) : Backend := fun past q =>
  match Fault.ofQuery? faults q with
  | some e => .failed e
  | none => b past q

/-- A publisher behind faults. -/
def Publisher.withFaults (p : Publisher) (faults : List Fault) : Publisher := fun past c =>
  match Fault.failure? faults .publish c.path with
  | some e => .error e
  | none => p past c

end Interlink
