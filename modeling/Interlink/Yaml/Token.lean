import Interlink.Text.Digit

/-!
# Tokens of YAML text

A text is cut into tokens: marks of structure and scalars. Two things make this
more than a cut. Nesting by indentation is turned into marks of its own, a start
and an end around each block collection; and a mapping key is known to be one
only when its colon is read, so the mark in front of a key is put back to where
the key began.

`indents` are the columns of the open block collections. `keys` has one place a
flow level for the token that may yet turn out to be a key; a place is dropped
once its line is over, and it is a fault if the key had to be one.

The text holds block and flow collections, plain and quoted scalars, comments
and document markers. Directives, anchors, tags and block scalars are refused.
-/

namespace Interlink.Yaml

/-- A mark of structure, or a scalar. -/
inductive Token
  | documentStart
  | documentEnd
  | blockSequence
  | blockMapping
  | blockEnd
  | flowSequence
  | flowSequenceEnd
  | flowMapping
  | flowMappingEnd
  | blockEntry
  | flowEntry
  | key
  | value
  | scalar (quoted : Bool) (text : String)
deriving DecidableEq, Repr, Inhabited

/-- A text that is not YAML. No cause is kept, because nobody is shown one. -/
structure Fault where
deriving DecidableEq, Repr

/-- The result of a scan. -/
abbrev Scanned (α : Type) := Except Fault α

/-- The one fault. -/
def fault {α : Type} : Scanned α := .error {}

/-! ## Characters -/

def isBlank (c : Char) : Bool := c = ' ' || c = '\t'

/-- The characters that end a line. -/
def isBreak (c : Char) : Bool :=
  c = '\n' || c = '\r' || c = '\x85' || c = '\u2028' || c = '\u2029'

/-- What a line end stands for inside a scalar: the ends of other systems are
one and the same, the separators of Unicode stay themselves. -/
def breakText (c : Char) : Char := if c = '\u2028' ∨ c = '\u2029' then c else '\n'

/-- Whether a text is over or goes on with a blank or a line end. -/
def atBlank : List Char → Bool
  | [] => true
  | c :: _ => isBlank c || isBreak c

/-- The characters that a text may hold. -/
def isAllowed (c : Char) : Bool :=
  let n := c.toNat
  n = 0x09 || n = 0x0a || n = 0x0d || (0x20 ≤ n && n ≤ 0x7e) || n = 0x85 ||
    (0xa0 ≤ n && n ≤ 0xd7ff) || (0xe000 ≤ n && n ≤ 0xfffd) || 0x10000 ≤ n

/-- Whether a line that begins here begins with three given characters and a
blank. -/
def isMarker (c : Char) : List Char → Bool
  | a :: b :: d :: rest => a = c && b = c && d = c && atBlank rest
  | _ => false

/-- Whether a document begins or ends on a line that begins here. -/
def isDocumentMarker (cs : List Char) : Bool := isMarker '-' cs || isMarker '.' cs

/-! ## Places -/

/-- A place in a text. -/
structure Mark where
  index : Nat := 0
  line : Nat := 0
  column : Nat := 0
deriving DecidableEq, Repr, Inhabited

namespace Mark

/-- The place after `n` characters of the same line. -/
def right (m : Mark) (n : Nat) : Mark := { m with index := m.index + n, column := m.column + n }

/-- The place after a line end of `n` characters. -/
def down (m : Mark) (n : Nat) : Mark := ⟨m.index + n, m.line + 1, 0⟩

end Mark

/-- A text from some place on. -/
structure Cursor where
  mark : Mark
  rest : List Char
deriving Repr, Inhabited

namespace Cursor

def skip (c : Cursor) (n : Nat) : Cursor := ⟨c.mark.right n, c.rest.drop n⟩

end Cursor

/-! ## Scalars -/

/-- Blanks and line ends between two words of a scalar. -/
structure Gap where
  /-- The blanks before the first line end. -/
  blanks : List Char := []
  /-- Whether a line has ended. -/
  crossed : Bool := false
  /-- The first line end, if it was not escaped. -/
  first : Option Char := none
  /-- The further line ends. -/
  more : List Char := []

namespace Gap

def isEmpty (g : Gap) : Bool := g.blanks.isEmpty && !g.crossed

/-- One more blank. Blanks after a line end are indentation. -/
def blank (g : Gap) (c : Char) : Gap := if g.crossed then g else { g with blanks := g.blanks ++ [c] }

/-- One more line end. -/
def lineEnd (g : Gap) (c : Char) : Gap :=
  if g.crossed then { g with more := g.more ++ [breakText c] }
  else { crossed := true, first := some (breakText c) }

/-- What a gap stands for: its blanks, or its line ends folded. A single line
end is a space, and of several the first is dropped. -/
def text (g : Gap) : List Char :=
  if g.crossed then
    match g.first with
    | none => g.more
    | some '\n' => if g.more = [] then [' '] else g.more
    | some c => c :: g.more
  else g.blanks

end Gap

/-- A scalar that has been read, and where its reader stopped. -/
structure ScalarRead where
  text : String
  cursor : Cursor
  /-- Whether the reader stopped on a later line than that of the last word. -/
  crossed : Bool

/-- Whether a word of a plain scalar ends before this character. -/
def endsWord (flow : Bool) (c : Char) (rest : List Char) : Bool :=
  (c = ':' && atBlank rest) || (flow && (c = ',' || c = '[' || c = ']' || c = '\x7b' || c = '\x7d'))

/-- Whether a colon is pressed against a mark of a flow collection. -/
def colonBeforeMark (c : Char) (rest : List Char) : Bool :=
  c = ':' && match rest with
    | d :: _ => d = ',' || d = '?' || d = '[' || d = ']' || d = '\x7b' || d = '\x7d'
    | [] => false

/-- A plain scalar. It goes on over line ends as long as the lines are indented
by `floor` columns; `done` holds its text so far, last character first. -/
def plain (flow : Bool) (floor : Nat) (done : List Char) (gap : Gap) (m : Mark) :
    List Char → Scanned ScalarRead
  | [] => .ok ⟨String.ofList done.reverse, ⟨m, []⟩, gap.crossed⟩
  | '\r' :: '\n' :: rest => plain flow floor done (gap.lineEnd '\n') (m.down 2) rest
  | c :: rest =>
    if isBlank c then
      if gap.crossed && m.column < floor && c = '\t' then fault
      else plain flow floor done (gap.blank c) (m.right 1) rest
    else if isBreak c then plain flow floor done (gap.lineEnd c) (m.down 1) rest
    else if !gap.isEmpty && ((!flow && m.column < floor) || c = '#' ||
        (m.column = 0 && isDocumentMarker (c :: rest))) then
      .ok ⟨String.ofList done.reverse, ⟨m, c :: rest⟩, gap.crossed⟩
    else if flow && colonBeforeMark c rest then fault
    else if endsWord flow c rest then
      .ok ⟨String.ofList done.reverse, ⟨m, c :: rest⟩, gap.crossed⟩
    else plain flow floor (c :: gap.text.reverse ++ done) {} (m.right 1) rest

/-- A scalar in single quotes, after its opening quote. A quote inside is
written twice. -/
def singleQuoted (done : List Char) (gap : Gap) (m : Mark) : List Char → Scanned ScalarRead
  | [] => fault
  | '\r' :: '\n' :: rest => singleQuoted done (gap.lineEnd '\n') (m.down 2) rest
  | '\'' :: '\'' :: rest => singleQuoted ('\'' :: gap.text.reverse ++ done) {} (m.right 2) rest
  | c :: rest =>
    if isBlank c then singleQuoted done (gap.blank c) (m.right 1) rest
    else if isBreak c then singleQuoted done (gap.lineEnd c) (m.down 1) rest
    else if m.column = 0 && isDocumentMarker (c :: rest) then fault
    else if c = '\'' then
      .ok ⟨String.ofList (gap.text.reverse ++ done).reverse, ⟨m.right 1, rest⟩, false⟩
    else singleQuoted (c :: gap.text.reverse ++ done) {} (m.right 1) rest

/-- The character of an escape of one letter. -/
def shortEscape? : Char → Option Char
  | '0' => some '\x00'
  | 'a' => some '\x07'
  | 'b' => some '\x08'
  | 't' => some '\t'
  | '\t' => some '\t'
  | 'n' => some '\n'
  | 'v' => some '\x0b'
  | 'f' => some '\x0c'
  | 'r' => some '\r'
  | 'e' => some '\x1b'
  | ' ' => some ' '
  | '"' => some '"'
  | '/' => some '/'
  | '\\' => some '\\'
  | 'N' => some '\x85'
  | '_' => some '\xa0'
  | 'L' => some '\u2028'
  | 'P' => some '\u2029'
  | _ => none

/-- The character of a numeric escape, unless it is half of a pair or beyond the
last one. -/
def numericEscape? (digits : List Char) : Option Char := do
  let n ← Digit.natural? 16 digits
  if (0xd800 ≤ n ∧ n ≤ 0xdfff) ∨ n > 0x10ffff then none else some (Char.ofNat n)

/-- A scalar in double quotes, after its opening quote. -/
def doubleQuoted (done : List Char) (gap : Gap) (m : Mark) : List Char → Scanned ScalarRead
  | [] => fault
  | '\r' :: '\n' :: rest => doubleQuoted done (gap.lineEnd '\n') (m.down 2) rest
  | '\\' :: '\r' :: '\n' :: rest =>
    doubleQuoted (gap.text.reverse ++ done) { crossed := true } ((m.right 1).down 2) rest
  | '\\' :: 'x' :: a :: b :: rest =>
    match numericEscape? [a, b] with
    | some c => doubleQuoted (c :: gap.text.reverse ++ done) {} (m.right 4) rest
    | none => fault
  | '\\' :: 'u' :: a :: b :: c :: d :: rest =>
    match numericEscape? [a, b, c, d] with
    | some c => doubleQuoted (c :: gap.text.reverse ++ done) {} (m.right 6) rest
    | none => fault
  | '\\' :: 'U' :: a :: b :: c :: d :: e :: f :: g :: h :: rest =>
    match numericEscape? [a, b, c, d, e, f, g, h] with
    | some c => doubleQuoted (c :: gap.text.reverse ++ done) {} (m.right 10) rest
    | none => fault
  | '\\' :: c :: rest =>
    if isBreak c then
      doubleQuoted (gap.text.reverse ++ done) { crossed := true } ((m.right 1).down 1) rest
    else
      match shortEscape? c with
      | some c => doubleQuoted (c :: gap.text.reverse ++ done) {} (m.right 2) rest
      | none => fault
  | c :: rest =>
    if isBlank c then doubleQuoted done (gap.blank c) (m.right 1) rest
    else if isBreak c then doubleQuoted done (gap.lineEnd c) (m.down 1) rest
    else if m.column = 0 && isDocumentMarker (c :: rest) then fault
    else if c = '"' then
      .ok ⟨String.ofList (gap.text.reverse ++ done).reverse, ⟨m.right 1, rest⟩, false⟩
    else doubleQuoted (c :: gap.text.reverse ++ done) {} (m.right 1) rest

/-! ## The scanner -/

/-- A token that may turn out to be a mapping key. -/
structure Candidate where
  /-- Whether it can only be a key. -/
  required : Bool
  /-- How many tokens stand before it. -/
  position : Nat
  mark : Mark
deriving Repr, Inhabited

/-- The state of a scan. -/
structure Scanner where
  cursor : Cursor
  /-- The tokens so far, the last one first. -/
  tokens : List Token := []
  /-- The column of the innermost block collection; none is open at the start. -/
  indent : Option Nat := none
  /-- The columns of the enclosing block collections. -/
  indents : List (Option Nat) := []
  /-- Whether a key may begin here. -/
  keyAllowed : Bool := true
  /-- The candidate of the innermost flow level. -/
  candidate : Option Candidate := none
  /-- The candidates of the enclosing levels: as many as there are open flow
  collections. -/
  outer : List (Option Candidate) := []

namespace Scanner

/-- Whether the scan is inside a flow collection. -/
def inFlow (s : Scanner) : Bool := !s.outer.isEmpty

def emit (s : Scanner) (t : Token) : Scanner := { s with tokens := t :: s.tokens }

/-- Put a token behind the first `position` tokens. -/
def emitAt (s : Scanner) (position : Nat) (t : Token) : Scanner :=
  { s with tokens := s.tokens.insertIdx (s.tokens.length - position) t }

def skip (s : Scanner) (n : Nat) : Scanner := { s with cursor := s.cursor.skip n }

/-- Open a block collection if the column is deeper than the innermost one. -/
def roll (s : Scanner) (column position : Nat) (t : Token) : Scanner :=
  if s.inFlow then s
  else
    let deeper := match s.indent with
      | none => true
      | some indent => indent < column
    if deeper then
      { s.emitAt position t with indent := some column, indents := s.indent :: s.indents }
    else s

/-- Close the block collections deeper than a column; all of them, if no column
is given. -/
def unrollFrom (column : Option Nat) : List (Option Nat) → Option Nat → List Token →
    List (Option Nat) × Option Nat × List Token
  | [], indent, tokens => ([], indent, tokens)
  | up :: indents, indent, tokens =>
    let deeper := match indent, column with
      | none, _ => false
      | some _, none => true
      | some indent, some column => column < indent
    if deeper then unrollFrom column indents up (.blockEnd :: tokens)
    else (up :: indents, indent, tokens)

def unroll (s : Scanner) (column : Option Nat) : Scanner :=
  if s.inFlow then s
  else
    let (indents, indent, tokens) := unrollFrom column s.indents s.indent s.tokens
    { s with indents, indent, tokens }

/-- Give up a candidate. -/
def dropCandidate (c : Option Candidate) : Scanned (Option Candidate) :=
  match c with
  | some c => if c.required then fault else .ok none
  | none => .ok none

/-- Give up the candidate of the innermost level. -/
def dropKey (s : Scanner) : Scanned Scanner := do
  let candidate ← dropCandidate s.candidate
  pure { s with candidate }

/-- Give up a candidate that is on an earlier line or too far back. -/
def dropStale (m : Mark) (c : Option Candidate) : Scanned (Option Candidate) :=
  match c with
  | some c =>
    if c.mark.line < m.line ∨ c.mark.index + 1024 < m.index then dropCandidate (some c)
    else .ok (some c)
  | none => .ok none

def dropStaleKeys (s : Scanner) : Scanned Scanner := do
  let candidate ← dropStale s.cursor.mark s.candidate
  let outer ← s.outer.mapM (dropStale s.cursor.mark)
  pure { s with candidate, outer }

/-- Note that the next token may be a key. -/
def saveKey (s : Scanner) : Scanned Scanner :=
  if s.keyAllowed then do
    let s ← s.dropKey
    pure { s with
      candidate := some
        { required := !s.inFlow && s.indent = some s.cursor.mark.column
          position := s.tokens.length
          mark := s.cursor.mark } }
  else .ok s

/-- Skip blanks, comments and line ends. Outside a flow collection a line end
makes room for a key; where a key may begin, a tab is no blank. -/
def toNextToken (flow : Bool) (keyAllowed : Bool) (m : Mark) : List Char → Bool × Cursor
  | [] => (keyAllowed, ⟨m, []⟩)
  | '\r' :: '\n' :: rest => toNextToken flow (keyAllowed || !flow) (m.down 2) rest
  | c :: rest =>
    if (c = '\ufeff' ∧ m.column = 0) ∨ c = ' ' ∨ (c = '\t' ∧ (flow ∨ !keyAllowed)) then
      toNextToken flow keyAllowed (m.right 1) rest
    else if c = '#' then
      comment flow keyAllowed (m.right 1) rest
    else if isBreak c then toNextToken flow (keyAllowed || !flow) (m.down 1) rest
    else (keyAllowed, ⟨m, c :: rest⟩)
where
  /-- The rest of a comment, and on to the next token. -/
  comment (flow keyAllowed : Bool) (m : Mark) : List Char → Bool × Cursor
    | [] => (keyAllowed, ⟨m, []⟩)
    | '\r' :: '\n' :: rest => toNextToken flow (keyAllowed || !flow) (m.down 2) rest
    | c :: rest =>
      if isBreak c then toNextToken flow (keyAllowed || !flow) (m.down 1) rest
      else comment flow keyAllowed (m.right 1) rest

/-- A mark that begins or ends a document. -/
def document (s : Scanner) (t : Token) : Scanned Scanner := do
  let s ← (s.unroll none).dropKey
  pure (({ s with keyAllowed := false }.skip 3).emit t)

/-- The start of a flow collection, which may itself be a key. -/
def openFlow (s : Scanner) (t : Token) : Scanned Scanner := do
  let s ← s.saveKey
  pure (({ s with outer := s.candidate :: s.outer, candidate := none, keyAllowed := true }.skip
    1).emit t)

/-- The end of a flow collection. -/
def closeFlow (s : Scanner) (t : Token) : Scanned Scanner := do
  let s ← s.dropKey
  let s := match s.outer with
    | candidate :: outer => { s with candidate, outer }
    | [] => s
  pure (({ s with keyAllowed := false }.skip 1).emit t)

/-- A comma. -/
def flowEntry (s : Scanner) : Scanned Scanner := do
  let s ← s.dropKey
  pure (({ s with keyAllowed := true }.skip 1).emit .flowEntry)

/-- A mark that opens a block collection where it stands. -/
def openBlock (s : Scanner) (t : Token) : Scanned Scanner :=
  if s.inFlow then .ok s
  else if s.keyAllowed then .ok (s.roll s.cursor.mark.column s.tokens.length t)
  else fault

/-- A dash. -/
def blockEntry (s : Scanner) : Scanned Scanner := do
  let s ← s.openBlock .blockSequence
  let s ← s.dropKey
  pure (({ s with keyAllowed := true }.skip 1).emit .blockEntry)

/-- A question mark. -/
def explicitKey (s : Scanner) : Scanned Scanner := do
  let s ← s.openBlock .blockMapping
  let s ← s.dropKey
  pure (({ s with keyAllowed := !s.inFlow }.skip 1).emit .key)

/-- A colon. If there is a candidate, it is a key, and its mapping may begin
with it. -/
def valueMark (s : Scanner) : Scanned Scanner :=
  match s.candidate with
  | some c =>
    let s := (s.emitAt c.position .key).roll c.mark.column c.position .blockMapping
    .ok (({ s with candidate := none, keyAllowed := false }.skip 1).emit .value)
  | none => do
    let s ← s.openBlock .blockMapping
    pure (({ s with keyAllowed := !s.inFlow }.skip 1).emit .value)

/-- A scalar that a reader has taken from the text. -/
def scalar (s : Scanner) (quoted : Bool) (read : Cursor → Scanned ScalarRead) :
    Scanned Scanner := do
  let s ← s.saveKey
  let r ← read s.cursor
  pure ({ s with cursor := r.cursor, keyAllowed := r.crossed }.emit (.scalar quoted r.text))

/-- Whether a plain scalar may begin with a character. -/
def startsPlain (flow : Bool) (c : Char) (rest : List Char) : Bool :=
  let indicator := c ∈ ['-', '?', ':', ',', '[', ']', '\x7b', '\x7d', '#', '&', '*', '!', '|',
    '>', '\'', '"', '%', '@', '\x60']
  let blank := match rest with
    | [] => false
    | d :: _ => isBlank d
  !(isBlank c || isBreak c || indicator) || (c = '-' && !blank) ||
    (!flow && (c = '?' || c = ':') && !atBlank rest)

/-- Read one token, at a place where one begins. -/
def fetch (s : Scanner) (c : Char) (rest : List Char) : Scanned Scanner :=
  let lineStart := s.cursor.mark.column = 0
  let marks := s.inFlow || atBlank rest
  if lineStart && c = '%' then fault
  else if lineStart && isMarker '-' (c :: rest) then s.document .documentStart
  else if lineStart && isMarker '.' (c :: rest) then s.document .documentEnd
  else if c = '[' then s.openFlow .flowSequence
  else if c = '\x7b' then s.openFlow .flowMapping
  else if c = ']' then s.closeFlow .flowSequenceEnd
  else if c = '\x7d' then s.closeFlow .flowMappingEnd
  else if c = ',' then s.flowEntry
  else if c = '-' && atBlank rest then s.blockEntry
  else if c = '?' && marks then s.explicitKey
  else if c = ':' && marks then s.valueMark
  else if c = '\'' then
    s.scalar true fun at_ => singleQuoted [] {} (at_.mark.right 1) (at_.rest.drop 1)
  else if c = '"' then
    s.scalar true fun at_ => doubleQuoted [] {} (at_.mark.right 1) (at_.rest.drop 1)
  else if startsPlain s.inFlow c rest then
    let floor := match s.indent with
      | none => 0
      | some indent => indent + 1
    s.scalar false fun at_ => plain s.inFlow floor [] {} at_.mark at_.rest
  else fault

/-- Read all tokens. Every token takes a character, so the length of the text
is fuel enough. -/
def run : Nat → Scanner → Scanned (List Token)
  | 0, _ => fault
  | fuel + 1, s => do
    let (keyAllowed, cursor) := toNextToken s.inFlow s.keyAllowed s.cursor.mark s.cursor.rest
    let s ← { s with keyAllowed, cursor }.dropStaleKeys
    match s.cursor.rest with
    | [] =>
      let s ← (s.unroll none).dropKey
      pure s.tokens.reverse
    | c :: rest =>
      let s := s.unroll (some s.cursor.mark.column)
      run fuel (← s.fetch c rest)

end Scanner

/-- The tokens of a text. -/
def tokens (text : String) : Scanned (List Token) :=
  let cs := text.toList
  if cs.all isAllowed then Scanner.run (cs.length + 1) { cursor := ⟨{}, cs⟩ } else fault

end Interlink.Yaml
