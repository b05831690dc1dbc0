import Interlink.Number.Binary64

/-!
# Data — trees of values to be written

Everything that is written passes through one tree: a type is encoded into it
and knows nothing of text, and the writers of the text formats know nothing of
the types.

One constructor stands for what not every format can say. `tagged` is a value
together with the name of its alternative, which one format writes as a tag and
another as a record with a single member. Members of a record keep their order.

What is read is a `Document`, which can also hold what no writer produces.
-/

namespace Interlink

/-- A tree of data. -/
inductive Data
  | null
  | bool (value : Bool)
  | number (value : Number)
  | text (value : String)
  | list (items : List Data)
  | record (members : List (String × Data))
  | tagged (tag : String) (payload : Data)
deriving Inhabited, Repr

namespace Data

/-- A whole number. -/
def nat (n : Nat) : Data := .number (.int n)

/-- A list of texts. -/
def texts (l : List String) : Data := .list (l.map .text)

/-- Bindings with ascending names, the last of equal names standing for all of
them: the form of a record whose order means nothing. -/
def insertMember (k : String) (d : Data) : List (String × Data) → List (String × Data)
  | [] => [(k, d)]
  | (k', d') :: rest =>
    if k < k' then (k, d) :: (k', d') :: rest
    else if k = k' then (k, d) :: rest
    else (k', d') :: insertMember k d rest

mutual

/-- The tree with the members of every record in ascending order of name and
the last of equal names kept. -/
def sorted : Data → Data
  | .list items => .list (sortedItems items)
  | .record members => .record (sortedMembers [] members)
  | .tagged tag payload => .tagged tag (sorted payload)
  | d => d

def sortedItems : List Data → List Data
  | [] => []
  | d :: rest => sorted d :: sortedItems rest

def sortedMembers (done : List (String × Data)) : List (String × Data) → List (String × Data)
  | [] => done
  | (k, d) :: rest => sortedMembers (insertMember k (sorted d) done) rest

end

end Data

end Interlink
