import Interlink.Data
import Interlink.SortedMap

/-!
# Encoding values as data

The members of a record are given in the order in which they are written, each
as a list of no or one member, so that a member without a value is left out by
being no member.
-/

namespace Interlink.Encode

/-- Members of a record. -/
abbrev Members := List (String × Data)

/-- A member that is always written. -/
def field (name : String) (d : Data) : Members := [(name, d)]

/-- A text. -/
def text (name : String) (s : String) : Members := [(name, .text s)]

/-- A member that is left out when there is no value. -/
def optional {α : Type} (encode : α → Data) (name : String) (a : Option α) : Members :=
  match a with
  | some a => [(name, encode a)]
  | none => []

/-- A list, written even when it is empty. -/
def list {α : Type} (encode : α → Data) (name : String) (as : List α) : Members :=
  [(name, .list (as.map encode))]

/-- A map of values. -/
def mapData {α : Type} (encode : α → Data) (m : SortedMap α) : Data :=
  .record (m.entries.map fun e => (e.1, encode e.2))

/-- A record of members. -/
def struct (members : List Members) : Data := .record members.flatten

end Interlink.Encode
