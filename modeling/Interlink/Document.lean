import Interlink.Data
import Interlink.Data.Word

/-!
# Documents — trees as they are read

A reader of some text format builds a tree and knows nothing of the types that
are wanted; a decoder takes the tree apart and knows nothing of text. A tree that
was read holds more than one that is to be written:

* a `word` is a scalar written without quotes, whose type depends on what is
  wanted of it;
* keys of a record are trees themselves, and a key may occur twice: what is to be
  made of that is for the one who reads the record to say;
* an `unreadable` part was found and has no value. Whoever asks for it fails, and
  whoever passes over it does not. A reader that cannot go on ends the collection
  it is in with an unreadable part, so that nothing behind it is missed in
  silence.

`typed?` settles the words. `hasValue` says whether a tree has a value whatever
is wanted of it.
-/

namespace Interlink

/-- A tree as it is read. -/
inductive Document
  | null
  | bool (value : Bool)
  | number (value : Number)
  | text (value : String)
  | word (spelling : String)
  | list (items : List Document)
  | record (members : List (Document × Document))
  | unreadable
deriving Inhabited, Repr

namespace Document

/-! ## Trees of data -/

mutual

/-- A tree of data as a document. An alternative is a record with a single
member. -/
def ofData : Data → Document
  | .null => .null
  | .bool b => .bool b
  | .number n => .number n
  | .text s => .text s
  | .list ds => .list (ofItems ds)
  | .record ms => .record (ofMembers ms)
  | .tagged tag d => .record [(.text tag, ofData d)]

def ofItems : List Data → List Document
  | [] => []
  | d :: rest => ofData d :: ofItems rest

def ofMembers : List (String × Data) → List (Document × Document)
  | [] => []
  | (k, d) :: rest => (.text k, ofData d) :: ofMembers rest

end

mutual

/-- The tree of data that a document is, if it has no word and no unreadable
part and all its keys are texts. -/
def toData? : Document → Option Data
  | .null => some .null
  | .bool b => some (.bool b)
  | .number n => some (.number n)
  | .text s => some (.text s)
  | .list ds => (itemsToData? ds).map .list
  | .record ms => (membersToData? ms).map .record
  | .word _ | .unreadable => none

def itemsToData? : List Document → Option (List Data)
  | [] => some []
  | d :: rest => do pure ((← toData? d) :: (← itemsToData? rest))

def membersToData? : List (Document × Document) → Option (List (String × Data))
  | [] => some []
  | (.text k, d) :: rest => do pure ((k, ← toData? d) :: (← membersToData? rest))
  | _ => none

end

/-! ## Typed values -/

/-- The value that a word stands for when nothing in particular is wanted of it.
Whole numbers of more than 64 bits are none. -/
def ofWord? (spelling : String) : Option Document :=
  match Word.scalar spelling with
  | .null => some .null
  | .bool b => some (.bool b)
  | .number (.int n) => if -(twoTo 63) ≤ n ∧ n < twoTo 64 then some (.number (.int n)) else none
  | .number v => some (.number v)
  | .text => some (.text spelling)

mutual

/-- The tree with every word replaced by the value it stands for. There is none
if collections are inside more than `depth` others, or a word has no value. -/
def typed? (depth : Nat) : Document → Option Document
  | .word s => ofWord? s
  | .list ds =>
    match depth with
    | 0 => none
    | depth + 1 => (typedItems? depth ds).map .list
  | .record ms =>
    match depth with
    | 0 => none
    | depth + 1 => (typedMembers? depth ms).map .record
  | d => some d

def typedItems? (depth : Nat) : List Document → Option (List Document)
  | [] => some []
  | d :: rest => do pure ((← typed? depth d) :: (← typedItems? depth rest))

def typedMembers? (depth : Nat) :
    List (Document × Document) → Option (List (Document × Document))
  | [] => some []
  | (k, d) :: rest => do
    pure ((← typed? depth k, ← typed? depth d) :: (← typedMembers? depth rest))

end

/-! ## Repeated keys -/

/-- Whether two numbers are one key. A whole number is never the same as one with
a point. -/
def sameNumber : Number → Number → Bool
  | .int a, .int b => a == b
  | .float a, .float b => a.same b
  | _, _ => false

mutual

/-- Whether two trees are one key. The order of the members of a record means
nothing. -/
def same : Document → Document → Bool
  | .null, .null => true
  | .bool a, .bool b => a == b
  | .number a, .number b => sameNumber a b
  | .text a, .text b => a == b
  | .list as, .list bs => sameItems as bs
  | .record ms, .record ns => ms.length == ns.length && sameMembers ms ns
  | _, _ => false

def sameItems : List Document → List Document → Bool
  | [], [] => true
  | a :: as, b :: bs => same a b && sameItems as bs
  | _, _ => false

def sameMembers : List (Document × Document) → List (Document × Document) → Bool
  | [], _ => true
  | (k, d) :: rest, ns => ns.any (fun n => same k n.1 && same d n.2) && sameMembers rest ns

end

/-- Whether no tree of a list occurs twice. -/
def allDiffer : List Document → Bool
  | [] => true
  | d :: rest => rest.all (fun e => !same d e) && allDiffer rest

mutual

/-- Whether the keys of every record in a tree differ. -/
def keysDiffer : Document → Bool
  | .list ds => keysDifferInItems ds
  | .record ms => allDiffer (ms.map (·.1)) && keysDifferInMembers ms
  | _ => true

def keysDifferInItems : List Document → Bool
  | [] => true
  | d :: rest => keysDiffer d && keysDifferInItems rest

def keysDifferInMembers : List (Document × Document) → Bool
  | [] => true
  | (k, d) :: rest => keysDiffer k && keysDiffer d && keysDifferInMembers rest

end

/-- Whether a tree has a value whatever is wanted of it: its words have values,
it is no deeper than `depth`, and no record has a key twice. -/
def hasValue (depth : Nat) (d : Document) : Bool :=
  match d.typed? depth with
  | some t => t.keysDiffer
  | none => false

end Document

end Interlink
