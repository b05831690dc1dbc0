import Interlink.Document
import Interlink.Yaml.Token

/-!
# Trees of YAML text

Tokens are put together to one tree. A plain scalar becomes a word, whose type
is settled by what is wanted of it; a quoted scalar becomes text; a node that is
left out is the empty word.

A document holds one tree. A key is a node like any other, and a mapping may have
it twice: which keys are of use, and whether two are the same, depends on what is
wanted as well.
-/

namespace Interlink.Yaml

/-- A node that is left out. -/
def absent : Document := .word ""

/-! ## Nodes -/

/-- Whether a node is left out before a token. -/
abbrev Stops := Token → Bool

def blockSequenceStops : Stops := fun t => t = .blockEntry || t = .blockEnd

def blockMappingStops : Stops := fun t => t = .key || t = .value || t = .blockEnd

def flatSequenceStops : Stops := fun t => t = .blockEntry || blockMappingStops t

def flowPairStops : Stops := fun t => t = .flowEntry || t = .flowSequenceEnd

def flowMappingStops : Stops := fun t => t = .flowEntry || t = .flowMappingEnd

mutual

/-- A node. Block collections are allowed if `block` is set, and a sequence
whose entries stand in the column of their key if `flat` is. -/
def node (block flat : Bool) : Nat → List Token → Scanned (Document × List Token)
  | 0, _ => fault
  | fuel + 1, ts =>
    match ts with
    | .scalar quoted text :: rest => .ok (if quoted then .text text else .word text, rest)
    | .blockEntry :: _ =>
      if flat then do
        let (ds, rest) ← flatSequence fuel ts
        pure (.list ds, rest)
      else fault
    | .flowSequence :: rest => do
      let (ds, rest) ← flowSequence true fuel rest
      pure (.list ds, rest)
    | .flowMapping :: rest => do
      let (ps, rest) ← flowMapping true fuel rest
      pure (.record ps, rest)
    | .blockSequence :: rest =>
      if block then do
        let (ds, rest) ← blockSequence fuel rest
        pure (.list ds, rest)
      else fault
    | .blockMapping :: rest =>
      if block then do
        let (ps, rest) ← blockMapping fuel rest
        pure (.record ps, rest)
      else fault
    | _ => fault

/-- A node, or nothing before a token that shows it to be left out. -/
def nodeOrAbsent (stops : Stops) (block flat : Bool) :
    Nat → List Token → Scanned (Document × List Token)
  | 0, _ => fault
  | fuel + 1, ts =>
    match ts with
    | t :: _ => if stops t then .ok (absent, ts) else node block flat fuel ts
    | [] => fault

/-- The entries of a block sequence and its end. -/
def blockSequence : Nat → List Token → Scanned (List Document × List Token)
  | 0, _ => fault
  | fuel + 1, ts =>
    match ts with
    | .blockEntry :: rest => do
      let (d, rest) ← nodeOrAbsent blockSequenceStops true false fuel rest
      let (ds, rest) ← blockSequence fuel rest
      pure (d :: ds, rest)
    | .blockEnd :: rest => .ok ([], rest)
    | _ => fault

/-- The entries of a sequence that has no indentation of its own. It ends where
no further entry follows. -/
def flatSequence : Nat → List Token → Scanned (List Document × List Token)
  | 0, _ => fault
  | fuel + 1, ts =>
    match ts with
    | .blockEntry :: rest => do
      let (d, rest) ← nodeOrAbsent flatSequenceStops true false fuel rest
      let (ds, rest) ← flatSequence fuel rest
      pure (d :: ds, rest)
    | _ => .ok ([], ts)

/-- The pairs of a block mapping and its end. Key and value may each be left
out. -/
def blockMapping : Nat → List Token → Scanned (List (Document × Document) × List Token)
  | 0, _ => fault
  | fuel + 1, ts =>
    match ts with
    | .key :: rest => do
      let (k, rest) ← nodeOrAbsent blockMappingStops true true fuel rest
      blockValue k fuel rest
    | .blockEnd :: rest => .ok ([], rest)
    | _ => fault

/-- The value of a key in a block mapping, and the pairs after it. -/
def blockValue (k : Document) :
    Nat → List Token → Scanned (List (Document × Document) × List Token)
  | 0, _ => fault
  | fuel + 1, ts => do
    let (d, rest) ← match ts with
      | .value :: rest => nodeOrAbsent blockMappingStops true true fuel rest
      | _ => .ok (absent, ts)
    let (ps, rest) ← blockMapping fuel rest
    pure ((k, d) :: ps, rest)

/-- The entries of a flow sequence and its end. A pair among them is a mapping
of its own. -/
def flowSequence (first : Bool) : Nat → List Token → Scanned (List Document × List Token)
  | 0, _ => fault
  | fuel + 1, ts =>
    match ts with
    | .flowSequenceEnd :: rest => .ok ([], rest)
    | _ => do
      let ts ← match first, ts with
        | true, _ => .ok ts
        | false, .flowEntry :: rest => .ok rest
        | false, _ => fault
      match ts with
      | .flowSequenceEnd :: rest => .ok ([], rest)
      | .key :: rest => do
        let (d, rest) ← flowPair fuel rest
        let (ds, rest) ← flowSequence false fuel rest
        pure (d :: ds, rest)
      | _ => do
        let (d, rest) ← node false false fuel ts
        let (ds, rest) ← flowSequence false fuel rest
        pure (d :: ds, rest)

/-- A pair inside a flow sequence. When the key is left out, the mark behind it
goes with it, so no value can follow. -/
def flowPair : Nat → List Token → Scanned (Document × List Token)
  | 0, _ => fault
  | fuel + 1, ts => do
    let (k, rest) ← match ts with
      | t :: rest =>
        if t = .value || flowPairStops t then .ok (absent, rest) else node false false fuel ts
      | [] => fault
    let (d, rest) ← match rest with
      | .value :: rest => nodeOrAbsent flowPairStops false false fuel rest
      | _ => .ok (absent, rest)
    pure (.record [(k, d)], rest)

/-- The pairs of a flow mapping and its end. -/
def flowMapping (first : Bool) :
    Nat → List Token → Scanned (List (Document × Document) × List Token)
  | 0, _ => fault
  | fuel + 1, ts =>
    match ts with
    | .flowMappingEnd :: rest => .ok ([], rest)
    | _ => do
      let ts ← match first, ts with
        | true, _ => .ok ts
        | false, .flowEntry :: rest => .ok rest
        | false, _ => fault
      match ts with
      | .flowMappingEnd :: rest => .ok ([], rest)
      | .key :: rest => do
        let (k, rest) ←
          nodeOrAbsent (fun t => t = .value || flowMappingStops t) false false fuel rest
        let (d, rest) ← match rest with
          | .value :: rest => nodeOrAbsent flowMappingStops false false fuel rest
          | _ => .ok (absent, rest)
        let (ps, rest) ← flowMapping false fuel rest
        pure ((k, d) :: ps, rest)
      | _ => do
        let (k, rest) ← node false false fuel ts
        let (ps, rest) ← flowMapping false fuel rest
        pure ((k, absent) :: ps, rest)

end

/-! ## Documents -/

/-- The tree of a stream of one document. A stream of none is a tree that is
left out. -/
def document (ts : List Token) : Scanned Document := do
  let fuel := 4 * ts.length + 4
  let (d, rest) ← match ts with
    | [] => .ok (absent, [])
    | .documentStart :: rest =>
      match rest with
      | [] | .documentStart :: _ | .documentEnd :: _ => .ok (absent, rest)
      | _ => node true false fuel rest
    | _ => node true false fuel ts
  if rest.dropWhile (· = .documentEnd) = [] then pure d else fault

/-- The tree that a text writes. -/
def parse (text : String) : Scanned Document := do document (← tokens text)

end Interlink.Yaml
