import Interlink.Document
import Interlink.Json.Number

/-!
# Reading JSON text

The reader takes a text apart from the front, on a list of characters; each
function answers what it read and what is left. What it reads is a document, so
that a text which breaks off can be taken apart as far as it goes: the faults of
a text and those of its shape are met in the order in which they stand.

Two kinds of fault are told apart. A string with half of a surrogate pair and a
number beyond all values are well spelled and have no value; they are unreadable
where they stand, and the reader goes on behind them. Where the text is spelled
wrong nothing can be said of the rest, and every collection that is open there
ends with an unreadable part.

Members keep their order and their repetitions, because a repeated member is a
fault only for some who read the tree.

The recursion is bounded by `fuel`, twice the length of the text, which no run
can exhaust: every second call reads a character.
-/

namespace Interlink.Json

/-! ## Strings -/

/-- The four hexadecimal digits of a code unit. -/
def unit? (a b c d : Char) : Option Nat := Digit.natural? 16 [a, b, c, d]

/-- The character of an escape of one letter. -/
def shortEscape? : Char → Option Char
  | '"' => some '"'
  | '\\' => some '\\'
  | '/' => some '/'
  | 'b' => some '\x08'
  | 'f' => some '\x0c'
  | 'n' => some '\n'
  | 'r' => some '\r'
  | 't' => some '\t'
  | _ => none

/-- A piece of a string: a character, or a code unit of 16 bits that may be half
of one. -/
inductive Piece
  | char (value : Char)
  | unit (value : Nat)
deriving DecidableEq, Repr

/-- The pieces of a string whose opening quote has been read, and what follows
its closing quote. -/
def pieces? : List Char → Option (List Piece × List Char)
  | [] => none
  | '"' :: rest => some ([], rest)
  | '\\' :: 'u' :: a :: b :: c :: d :: rest =>
    match unit? a b c d with
    | none => none
    | some u => (pieces? rest).map fun (ps, after) => (.unit u :: ps, after)
  | '\\' :: c :: rest =>
    match shortEscape? c with
    | none => none
    | some x => (pieces? rest).map fun (ps, after) => (.char x :: ps, after)
  | c :: rest =>
    if c.toNat < 0x20 then none
    else (pieces? rest).map fun (ps, after) => (.char c :: ps, after)

/-- Whether a code unit is the first half of a pair. -/
def isHigh (u : Nat) : Bool := 0xd800 ≤ u && u < 0xdc00

/-- Whether a code unit is the second half of a pair. -/
def isLow (u : Nat) : Bool := 0xdc00 ≤ u && u < 0xe000

/-- The character that a pair of code units stands for. -/
def pair (high low : Nat) : Char := Char.ofNat (0x10000 + (high - 0xd800) * 0x400 + (low - 0xdc00))

/-- The characters of a string: a first half stands before a second one, and
there is no other half. -/
def chars? : List Piece → Option (List Char)
  | [] => some []
  | .char c :: rest => (chars? rest).map (c :: ·)
  | .unit u :: .unit v :: rest =>
    if isHigh u then
      if isLow v then (chars? rest).map (pair u v :: ·) else none
    else if isLow u then none
    else (chars? (.unit v :: rest)).map (Char.ofNat u :: ·)
  | .unit u :: rest =>
    if isHigh u || isLow u then none else (chars? rest).map (Char.ofNat u :: ·)

/-- A string as a tree. -/
def stringOf (ps : List Piece) : Document :=
  match chars? ps with
  | some cs => .text (String.ofList cs)
  | none => .unreadable

/-! ## Values -/

/-- Drop white space. -/
def skipSpace (cs : List Char) : List Char :=
  cs.dropWhile fun c => c = ' ' ∨ c = '\n' ∨ c = '\t' ∨ c = '\r'

/-- A tree if a given word is at the front of a text. -/
def keyword (word : String) (d : Document) (cs : List Char) : Document × Option (List Char) :=
  if word.toList.isPrefixOf cs then (d, some (cs.drop word.length)) else (.unreadable, none)

/-- A number. -/
def readNumber (cs : List Char) : Document × Option (List Char) :=
  match numeral? cs with
  | none => (.unreadable, none)
  | some (x, rest) =>
    match x.value? with
    | some n => (.number n, some rest)
    | none => (.unreadable, some rest)

/-- The member that ends a record whose text breaks off. -/
def cut : Document × Document := (.unreadable, .unreadable)

mutual

/-- A value, with white space before it, and what is left, which is nothing at
all where the text is spelled wrong. -/
def value : Nat → List Char → Document × Option (List Char)
  | 0, _ => (.unreadable, none)
  | fuel + 1, cs =>
    match skipSpace cs with
    | '"' :: rest =>
      match pieces? rest with
      | some (ps, after) => (stringOf ps, some after)
      | none => (.unreadable, none)
    | '[' :: rest =>
      match skipSpace rest with
      | ']' :: after => (.list [], some after)
      | rest => let (ds, after) := items fuel rest; (.list ds, after)
    | '\x7b' :: rest =>
      match skipSpace rest with
      | '\x7d' :: after => (.record [], some after)
      | rest => let (ms, after) := members fuel rest; (.record ms, after)
    | 'n' :: rest => keyword "ull" .null rest
    | 't' :: rest => keyword "rue" (.bool true) rest
    | 'f' :: rest => keyword "alse" (.bool false) rest
    | cs => readNumber cs

/-- One or more elements and the closing bracket. -/
def items : Nat → List Char → List Document × Option (List Char)
  | 0, _ => ([.unreadable], none)
  | fuel + 1, cs =>
    let (d, rest) := value fuel cs
    match rest.map skipSpace with
    | some (',' :: rest) => let (ds, after) := items fuel rest; (d :: ds, after)
    | some (']' :: after) => ([d], some after)
    | _ => ([d, .unreadable], none)

/-- One or more members and the closing brace. A key that is no string is read
as what it is, and nothing behind it. -/
def members : Nat → List Char → List (Document × Document) × Option (List Char)
  | 0, _ => ([cut], none)
  | fuel + 1, cs =>
    match skipSpace cs with
    | '"' :: rest =>
      match pieces? rest with
      | none => ([cut], none)
      | some (ps, rest) =>
        match skipSpace rest with
        | ':' :: rest =>
          let (d, rest) := value fuel rest
          match rest.map skipSpace with
          | some (',' :: rest) =>
            let (ms, after) := members fuel rest
            ((stringOf ps, d) :: ms, after)
          | some ('\x7d' :: after) => ([(stringOf ps, d)], some after)
          | _ => ([(stringOf ps, d), cut], none)
        | _ => ([(stringOf ps, .unreadable), cut], none)
    | rest => ([((value fuel rest).1, .unreadable), cut], none)

end

/-- What a text writes, as far as it goes, and whether nothing follows it. -/
def read (s : String) : Document × Bool :=
  let cs := s.toList
  let (d, rest) := value (2 * cs.length + 2) cs
  (d, rest.map skipSpace == some [])

/-- The value that a text writes. -/
def parse? (s : String) : Option Data :=
  match read s with
  | (d, true) => d.toData?
  | (_, false) => none

end Interlink.Json
