import Interlink.Document
import Interlink.SortedMap
import Interlink.Text.Quoted

/-!
# Decoding documents

A decoder turns a document into a value of some type, or says what is wrong and
where. What is wrong is a `Misfit`, a cause and not a text; where is a list of
steps from the root. Texts are made in one place, `DecodeError.render`.

A decoder is told the format of the document, for two reasons: an alternative is
written in each format in its own way, and the formats word a few causes
differently.

A record is decoded field by field, yet its faults are reported in the order of
the document: a member that does not fit is reported before any later member,
and a missing field after all members. `Fields` keeps the two apart. A decoder
for one field answers its value or a fault with a position, and combining two
keeps the fault that stands first, so the order in which a type lists its
fields does not decide which fault is shown. It does decide something else: a
list may be given for a record, and then its items are the fields in that order.
-/

namespace Interlink

/-! ## Faults -/

/-- What stood in the document. -/
inductive Found
  | null
  | bool (value : Bool)
  | number (value : Number)
  | text (value : String)
  | list
  | record
deriving DecidableEq, Repr

/-- What was wanted. -/
inductive Wanted
  | text
  | bool
  | list
  | map
  | alternative
  /-- Nothing beside the name of an alternative. -/
  | unit
  /-- The name of an alternative. -/
  | alternativeName
  /-- The name of a member. -/
  | fieldName
  | struct (name : String)
deriving DecidableEq, Repr

/-- Why a document does not fit a type. -/
inductive Misfit
  | missingField (name : String)
  | repeatedField (name : String)
  | unknownAlternative (name : String) (known : List String)
  | wrongType (found : Found) (wanted : Wanted)
  /-- A record that is to be an alternative has not exactly one member. -/
  | notSingle
  /-- A list that is given for a record ends before its fields do. -/
  | tooShort (length : Nat) (struct : String) (fields : Nat)
  /-- A list that is given for a record goes on behind its fields. -/
  | tooLong (length : Nat) (fields : Nat)
  /-- The same of a record whose members were typed before they were wanted. -/
  | tooLongTyped (length : Nat) (fields : Nat)
  /-- Both ways to place a VPC are given. -/
  | twoPlacements (account : String)
  /-- No way to place a VPC is given. -/
  | noPlacement
  /-- The document has no value here, whatever is wanted. -/
  | unreadable
deriving DecidableEq, Repr

/-- One step from a value to a part of it. -/
inductive PathStep
  | member (name : String)
  | item (index : Nat)
deriving DecidableEq, Repr

/-- A misfit and the way to it from the root. -/
structure DecodeError where
  path : List PathStep
  misfit : Misfit
deriving DecidableEq, Repr

/-- The result of decoding. -/
abbrev Decoded (α : Type) := Except DecodeError α

/-- The format of a document. A JSON text is told from a JSON value that is at
hand as a whole: it is decoded while it is read, so that of two faults the one
that stands first in the text is met. -/
inductive Format
  | json
  | jsonText
  | yaml
deriving DecidableEq, Repr, Inhabited

namespace Document

/-- What a tree is, in the words of a fault. An unreadable part is nothing. -/
def found? : Document → Option Found
  | .null => some .null
  | .bool b => some (.bool b)
  | .number n => some (.number n)
  | .text s => some (.text s)
  | .word s =>
    match Word.scalar s with
    | .null => some .null
    | .bool b => some (.bool b)
    | .number n => some (.number n)
    | .text => some (.text s)
  | .list _ => some .list
  | .record _ => some .record
  | .unreadable => none

/-- The fault of a tree that is not what is wanted. -/
def misfit (d : Document) (wanted : Wanted) : Misfit :=
  match d.found? with
  | some found => .wrongType found wanted
  | none => .unreadable

end Document

namespace DecodeError

/-- A number with a point or an exponent. -/
def renderFloat (format : Format) (v : Binary64) : String :=
  v.render (match format with
    | .json | .jsonText => .compact
    | .yaml => .expanded)

def renderFound (format : Format) : Found → String
  | .null => match format with
    | .json | .jsonText => "null"
    | .yaml => "unit value"
  | .bool b => "boolean `" ++ (if b then "true" else "false") ++ "`"
  | .number (.int n) => "integer `" ++ toString n ++ "`"
  | .number (.float v) => "floating point `" ++ renderFloat format v ++ "`"
  | .text s => "string " ++ Quoted.encode s
  | .list => "sequence"
  | .record => "map"

def renderWanted (format : Format) : Wanted → String
  | .text => "a string"
  | .bool => "a boolean"
  | .list => "a sequence"
  | .map => "a map"
  | .alternative => match format with
    | .json | .jsonText => "string or map"
    | .yaml => "a YAML tag starting with '!'"
  | .unit => "unit"
  | .alternativeName => "variant identifier"
  | .fieldName => "field identifier"
  | .struct name => "struct " ++ name

/-- A number of things. -/
def renderCount (n : Nat) (thing : String) : String :=
  toString n ++ " " ++ thing ++ (if n = 1 then "" else "s")

/-- A list of the wrong length. -/
def renderLength (length : Nat) (wanted : String) : String :=
  "invalid length " ++ toString length ++ ", expected " ++ wanted

def renderMisfit (format : Format) : Misfit → String
  | .missingField name => "missing field `" ++ name ++ "`"
  | .repeatedField name => "duplicate field `" ++ name ++ "`"
  | .unknownAlternative name known =>
    "unknown variant `" ++ name ++ "`, expected one of " ++
      ", ".intercalate (known.map fun k => "`" ++ k ++ "`")
  | .wrongType found wanted =>
    "invalid type: " ++ renderFound format found ++ ", expected " ++ renderWanted format wanted
  | .notSingle => "invalid value: map, expected map with a single key"
  | .tooShort length struct fields =>
    renderLength length ("struct " ++ struct ++ " with " ++ renderCount fields "element")
  | .tooLong length fields =>
    renderLength length (match format with
      | .json | .jsonText => "fewer elements in array"
      | .yaml => "sequence of " ++ renderCount fields "element")
  | .tooLongTyped length fields =>
    renderLength length (renderCount fields "element" ++ " in sequence")
  | .twoPlacements account =>
    "account '" ++ account ++ "' and deployment_targets are mutually exclusive"
  | .noPlacement => "either account or deployment_targets is required"
  | .unreadable => "unreadable value"

/-- A path with one more step. The root has no text of its own in front of a
name, and is a dot in front of a position. -/
def renderStep (parent : Option String) : PathStep → String
  | .member name =>
    match parent with
    | none => name
    | some parent => parent ++ "." ++ name
  | .item index => parent.getD "." ++ "[" ++ toString index ++ "]"

/-- A path as text: names are joined by dots, positions stand in brackets. -/
def renderPath (path : List PathStep) : String :=
  (path.foldl (fun parent step => some (renderStep parent step)) none).getD "."

/-- The fault as text. Only YAML documents are located, and nothing is said of
the place when it is the whole document. -/
def render (format : Format) (e : DecodeError) : String :=
  let message := renderMisfit format e.misfit
  match format with
  | .json | .jsonText => message
  | .yaml => if e.path = [] then message else renderPath e.path ++ ": " ++ message

end DecodeError

/-! ## Values -/

/-- A way to take a document apart. -/
abbrev Decoder (α : Type) := Format → Document → Decoded α

namespace Decode

/-- A fault at the value itself. -/
def fail {α : Type} (misfit : Misfit) : Decoded α := .error ⟨[], misfit⟩

/-- A value that is not what is wanted. -/
def wrong {α : Type} (d : Document) (wanted : Wanted) : Decoded α := fail (d.misfit wanted)

/-- A fault seen from one step further out. -/
def within {α : Type} (step : PathStep) (r : Decoded α) : Decoded α :=
  r.mapError fun e => { e with path := step :: e.path }

/-- A text. An unquoted word is taken as it is spelled. -/
def text : Decoder String := fun _ d =>
  match d with
  | .text s => .ok s
  | .word s => .ok s
  | d => wrong d .text

/-- The name of a member, where something is `wanted` for a name. In a JSON text
anything but a string is no JSON of a member. -/
def name (wanted : Wanted) : Decoder String := fun f d =>
  match f, d with
  | _, .text s => .ok s
  | _, .word s => .ok s
  | .jsonText, _ => fail .unreadable
  | _, d => wrong d wanted

/-- A truth value. -/
def bool : Decoder Bool := fun _ d =>
  match d with
  | .bool b => .ok b
  | .word s =>
    match Word.bool? s with
    | some b => .ok b
    | none => wrong (.word s) .bool
  | d => wrong d .bool

/-- A value that may be left out: nothing, or a word for nothing, is none. -/
def option {α : Type} (decode : Decoder α) : Decoder (Option α) := fun f d =>
  match d with
  | .null => .ok none
  | .word s => if Word.isNull s then .ok none else (decode f (.word s)).map some
  | d => (decode f d).map some

/-- The elements of a list, numbered from `index`. -/
def items {α : Type} (decode : Document → Decoded α) (index : Nat) :
    List Document → Decoded (List α)
  | [] => .ok []
  | d :: rest => do
    let x ← within (.item index) (decode d)
    let xs ← items decode (index + 1) rest
    pure (x :: xs)

/-- A list. An empty word is the empty list. -/
def list {α : Type} (decode : Decoder α) : Decoder (List α) := fun f d =>
  match d with
  | .list ds => items (decode f) 0 ds
  | .word "" => .ok []
  | d => wrong d .list

/-- The members of a map, in order. -/
def entries {α : Type} (decode : Document → Decoded α) (key : Document → Decoded String) :
    List (Document × Document) → Decoded (List (String × α))
  | [] => .ok []
  | (k, d) :: rest => do
    let name ← key k
    let x ← within (.member name) (decode d)
    let xs ← entries decode key rest
    pure ((name, x) :: xs)

/-- A map with arbitrary names. An empty word is the empty map. -/
def map {α : Type} (decode : Decoder α) : Decoder (List (String × α)) := fun f d =>
  match d with
  | .record ms => entries (decode f) (name .text f) ms
  | .word "" => .ok []
  | d => wrong d .map

/-- A map, of whose repeated names the last one counts. -/
def sortedMap {α : Type} (decode : Decoder α) : Decoder (SortedMap α) := fun f d =>
  (map decode f d).map SortedMap.ofList

/-- Nothing. -/
def unit : Decoder Unit := fun _ d =>
  match d with
  | .null => .ok ()
  | d => wrong d .unit

/-- One of a closed set of alternatives, by its name. JSON may also give the name
as the only member of a record that holds nothing; in a text the member is taken
before it is known to be the only one, and anything else is no JSON of an
alternative. -/
def alternative {α : Type} (all : List α) (label : α → String) : Decoder α := fun f d =>
  let named (name : String) : Decoded α :=
    match all.find? (fun a => label a == name) with
    | some a => .ok a
    | none => fail (.unknownAlternative name (all.map label))
  let member (k d : Document) : Decoded α := do
    let a ← match k with
      | .text name => named name
      | k => wrong k .alternativeName
    unit f d
    pure a
  match f, d with
  | _, .text name => named name
  | _, .word name => named name
  | .json, .record [(k, d)] => member k d
  | .json, .record _ => fail .notSingle
  | .jsonText, .record ((k, d) :: rest) => do
    let a ← member k d
    if rest.isEmpty then pure a else fail .unreadable
  | .jsonText, _ => fail .unreadable
  | _, d => wrong d .alternative

end Decode

/-! ## Records -/

/-- A fault of a record and the position of the member that is at fault.
Missing fields come after every member. -/
structure FieldFault where
  position : Nat
  error : DecodeError
deriving DecidableEq, Repr

/-- The place of a field in a list that is given for a record. -/
structure Place where
  name : String
  /-- Whether the list may end before it. -/
  optional : Bool
deriving DecidableEq, Repr

/-- A decoder for some of the fields of a record. -/
structure Fields (α : Type) where
  places : List Place
  read : Format → List (String × Document) → Except FieldFault α

namespace Fields

/-- A value that needs no field. -/
protected def pure {α : Type} (a : α) : Fields α := ⟨[], fun _ _ => .ok a⟩

/-- Both decoders; of two faults the one that stands first in the record. -/
protected def seq {α β : Type} (f : Fields (α → β)) (x : Unit → Fields α) : Fields β where
  places := f.places ++ (x ()).places
  read := fun format ms =>
    match f.read format ms, (x ()).read format ms with
    | .ok f, .ok a => .ok (f a)
    | .error e, .ok _ => .error e
    | .ok _, .error e => .error e
    | .error e, .error e' => if e'.position < e.position then .error e' else .error e

instance : Applicative Fields where
  pure := Fields.pure
  seq := Fields.seq

/-- The first member of a name with its position, and the position of the next
one of that name. -/
def locate (name : String) :
    Nat → List (String × Document) → Option (Nat × Document) × Option Nat
  | _, [] => (none, none)
  | i, (k, d) :: rest =>
    if k = name then
      (some (i, d), (locate name (i + 1) rest).1.map (·.1))
    else locate name (i + 1) rest

/-- A field that may be missing, in which case it has a default. -/
def fieldOr {α : Type} (place : Place) (decode : Decoder α)
    (default : Except Misfit α) : Fields α where
  places := [place]
  read := fun format ms =>
    match locate place.name 0 ms with
    | (none, _) =>
      match default with
      | .ok a => .ok a
      | .error misfit => .error ⟨ms.length, ⟨[], misfit⟩⟩
    | (some (i, d), again) =>
      match Decode.within (.member place.name) (decode format d) with
      | .error e => .error ⟨i, e⟩
      | .ok a =>
        match again with
        | some j => .error ⟨j, ⟨[], .repeatedField place.name⟩⟩
        | none => .ok a

/-- A field that must be present. -/
def field {α : Type} (name : String) (decode : Decoder α) : Fields α :=
  fieldOr ⟨name, false⟩ decode (.error (.missingField name))

/-- A field with a default. -/
def fieldD {α : Type} (name : String) (decode : Decoder α) (default : α) : Fields α :=
  fieldOr ⟨name, true⟩ decode (.ok default)

/-- A list that is empty when the field is missing. -/
def listField {α : Type} (name : String) (decode : Decoder α) : Fields (List α) :=
  fieldD name (Decode.list decode) []

/-- A field that is none when it is missing or holds nothing. In a list it holds
nothing, and is not missing. -/
def optionField {α : Type} (name : String) (decode : Decoder α) : Fields (Option α) :=
  fieldOr ⟨name, false⟩ (Decode.option decode) (.ok none)

/-- What is made of the members that are no fields, after all fields. -/
def others {α : Type} (known : List Place)
    (decode : Format → List (String × Document) → Decoded α) : Fields α where
  places := []
  read := fun format ms =>
    (decode format (ms.filter fun m => known.all (·.name ≠ m.1))).mapError fun e =>
      ⟨ms.length + 1, e⟩

/-- The members of a record up to the first whose key is no name, and what is
wrong with that key. A key that was typed may be the number of a field. -/
def named (places : List Place) (format : Format) :
    List (Document × Document) → List (String × Document) × Option Misfit
  | [] => ([], none)
  | (k, d) :: rest =>
    let (ms, stop) := named places format rest
    match format, k with
    | .yaml, .number (.int (.ofNat n)) =>
      match places[n]? with
      | some place => ((place.name, d) :: ms, stop)
      | none => (ms, stop)
    | format, k =>
      match Decode.name .fieldName format k with
      | .ok name => ((name, d) :: ms, stop)
      | .error e => ([], some e.misfit)

/-- A record whose members are given with their keys. -/
def ofMembers {α : Type} (fields : Fields α) (format : Format)
    (pairs : List (Document × Document)) : Decoded α :=
  let (ms, stop) := named fields.places format pairs
  match fields.read format ms, stop with
  | .ok a, none => .ok a
  | .ok _, some misfit => Decode.fail misfit
  | .error e, none => .error e.error
  | .error e, some misfit =>
    if e.position < ms.length then .error e.error else Decode.fail misfit

/-- A record whose members are given by their places. The list may be short of
optional fields only, and what it is short of is known when its items have been
decoded. -/
def ofItems {α : Type} (fields : Fields α) (name : String) (format : Format)
    (ds : List Document) : Decoded α :=
  let places := fields.places
  let short := (places.drop ds.length).findIdx? (!·.optional)
  match fields.read format ((places.map (·.name)).zip ds), short with
  | .error e, _ =>
    if e.position < ds.length then
      .error { e.error with path := .item e.position :: e.error.path.tail }
    else Decode.fail (.tooShort (ds.length + short.getD 0) name places.length)
  | .ok _, some i => Decode.fail (.tooShort (ds.length + i) name places.length)
  | .ok a, none =>
    if ds.length ≤ places.length then .ok a
    else
      match format with
      | .jsonText => Decode.fail .unreadable
      | _ => Decode.fail (.tooLong ds.length places.length)

end Fields

namespace Decode

/-- A record with known fields. Other members are ignored, and an empty word is
a record with no member. -/
def struct {α : Type} (name : String) (fields : Fields α) : Decoder α := fun f d =>
  match d with
  | .record ms => fields.ofMembers f ms
  | .list ds => fields.ofItems name f ds
  | .word "" => fields.ofMembers f []
  | d => wrong d (.struct name)

/-- A record with known fields and a value that is made of the other members. It
cannot be given as a list. -/
def structWith {α β : Type} (name : String) (fields : Fields (β → α))
    (decode : Format → List (String × Document) → Decoded β) : Decoder α := fun f d =>
  let whole : Fields α := fields <*> Fields.others fields.places decode
  match d with
  | .record ms => whole.ofMembers f ms
  | .word "" => whole.ofMembers f []
  | d => wrong d (.struct name)

end Decode

end Interlink
