import Interlink.Data
import Interlink.Data.Word
import Interlink.Yaml.Token

/-!
# Writing YAML text

A tree is written in block style: a member of a record on its own line, an item
of a list behind a dash in the column of its key. A collection without parts is
written as `[]` or as a pair of braces, and a tagged value has its tag in front.

A text is written plain if it reads back as the same text. The choice of a
style has two parts: what the text would be taken for (`Word.scalar`), and which
marks of structure it would be mistaken for (`Shape`).

A page is a list of lines, each with the character that ends it: a text may hold
the line and paragraph separators of Unicode, and where it is not escaped they
end a line of the page as a line feed does.
-/

namespace Interlink.Yaml

/-! ## Style of a scalar -/

/-- How a text is written. -/
inductive Style
  | plain
  | single
  | double
  | literal
deriving DecidableEq, Repr

/-- Whether a text, written plain, would be taken for something else. -/
def isAmbiguous (s : String) : Bool :=
  Word.scalar s != .text || Word.leadingZero s.toList

/-- The characters that are written as they are. -/
def isPrintable (c : Char) : Bool :=
  let n := c.toNat
  n = 0x0a || (0x20 ≤ n && n ≤ 0x7e) ||
    (0xa0 ≤ n && n ≠ 0xfeff && n ≠ 0xfffe && n ≠ 0xffff)

/-- What a text looks like to a reader of plain scalars. -/
structure Shape where
  /-- It begins or ends with a space or a line end. -/
  padded : Bool
  /-- It ends with a space. -/
  trailingSpace : Bool
  /-- It has a line end. -/
  multiline : Bool
  /-- It has a line end with a space behind it. -/
  breakSpace : Bool
  /-- It has a line end with a space before it. -/
  spaceBreak : Bool
  /-- It has a character that must be escaped. -/
  special : Bool
  /-- It has a mark of structure. -/
  indicator : Bool

/-- Whether two neighbouring characters pass a test. -/
def anyPair (test : Char → Char → Bool) : List Char → Bool
  | a :: b :: rest => test a b || anyPair test (b :: rest)
  | _ => false

/-- Whether a text begins with a mark of structure. -/
def startsWithIndicator : List Char → Bool
  | [] => false
  | c :: rest =>
    c ∈ ['#', ',', '[', ']', '\x7b', '\x7d', '&', '*', '!', '|', '>', '\'', '"', '%', '@', '\x60'] ||
      (c ∈ ['?', ':', '-'] && atBlank rest)

/-- Whether a text holds a colon before a blank or at its end, or a number sign
behind a blank. -/
def holdsIndicator (cs : List Char) : Bool :=
  anyPair (fun a b => (a = ':' && (isBlank b || isBreak b)) || ((isBlank a || isBreak a) && b = '#'))
    cs || cs.getLast? = some ':'

/-- Whether a text begins like a document marker. -/
def startsWithMarker (cs : List Char) : Bool :=
  ['-', '-', '-'].isPrefixOf cs || ['.', '.', '.'].isPrefixOf cs

def Shape.of (cs : List Char) : Shape :=
  let edge (c : Option Char) : Bool := c.any fun c => c = ' ' || isBreak c
  { padded := edge cs.head? || edge cs.getLast?
    trailingSpace := cs.getLast? = some ' '
    multiline := cs.any isBreak
    breakSpace := anyPair (fun a b => isBreak a && b = ' ') cs
    spaceBreak := anyPair (fun a b => a = ' ' && isBreak b) cs
    special := cs.any fun c => !isPrintable c
    indicator := startsWithIndicator cs || holdsIndicator cs || startsWithMarker cs }

/-- The style of a text. -/
def style (s : String) : Style :=
  let cs := s.toList
  let shape := Shape.of cs
  let quoted : Style :=
    if shape.breakSpace || shape.spaceBreak || shape.special then .double else .single
  if cs.contains '\n' then
    if shape.trailingSpace || shape.spaceBreak || shape.special then .double else .literal
  else if isAmbiguous s then quoted
  else if shape.padded || shape.multiline || shape.breakSpace || shape.spaceBreak ||
      shape.special || shape.indicator then quoted
  else .plain

/-! ## Scalars as text -/

/-- `n` hexadecimal digits in upper case. -/
def hexDigits (n value : Nat) : List Char :=
  let ds := (Nat.toDigits 16 value).map Char.toUpper
  List.replicate (n - ds.length) '0' ++ ds

/-- A character as it stands between double quotes. -/
def escape (c : Char) : List Char :=
  if isPrintable c && !isBreak c && c ≠ '"' && c ≠ '\\' then [c]
  else
    '\\' :: match c with
      | '\x00' => ['0']
      | '\x07' => ['a']
      | '\x08' => ['b']
      | '\t' => ['t']
      | '\n' => ['n']
      | '\x0b' => ['v']
      | '\x0c' => ['f']
      | '\r' => ['r']
      | '\x1b' => ['e']
      | '"' => ['"']
      | '\\' => ['\\']
      | '\x85' => ['N']
      | '\u2028' => ['L']
      | '\u2029' => ['P']
      | c =>
        if c.toNat ≤ 0xff then 'x' :: hexDigits 2 c.toNat
        else if c.toNat ≤ 0xffff then 'u' :: hexDigits 4 c.toNat
        else 'U' :: hexDigits 8 c.toNat

/-- A line on the page and the character that ends it. -/
structure Line where
  text : String
  ending : Char := '\n'
deriving DecidableEq, Repr

/-- The lines of a text with their line ends. What stands behind the last line end
is a line as well. -/
def lines : List Char → List (List Char × Char)
  | [] => [([], '\n')]
  | c :: rest =>
    if isBreak c then ([], c) :: lines rest
    else
      match lines rest with
      | (l, ending) :: ls => (c :: l, ending) :: ls
      | [] => [([c], '\n')]

/-- The mark of a literal block: its indentation if the text begins with a space
or a line end, and what becomes of the last line ends. -/
def literalMark (cs : List Char) : List Char :=
  let hint := match cs with
    | c :: _ => if c = ' ' || isBreak c then ['2'] else []
    | [] => []
  let chomp := match cs.reverse with
    | [] => ['-']
    | [c] => if isBreak c then ['+'] else ['-']
    | c :: d :: _ => if !isBreak c then ['-'] else if isBreak d then ['+'] else []
  '|' :: hint ++ chomp

/-- A scalar on the page: what stands behind its mark, and the lines below,
which are indented. -/
structure ScalarText where
  head : Line
  below : List Line := []

/-- A scalar that fits its line. -/
def ScalarText.short (text : String) : ScalarText := ⟨⟨text, '\n'⟩, []⟩

/-- A scalar of one or more lines. -/
def ScalarText.ofLines (ls : List (List Char × Char)) : ScalarText :=
  match ls.map fun l => (⟨String.ofList l.1, l.2⟩ : Line) with
  | [] => .short ""
  | l :: ls => ⟨l, ls⟩

/-- A text as a scalar. A line end that is not a line feed leaves a text in single
quotes, where it ends a line of the page as well. The last line end of a literal
block ends its last line. -/
def textScalar (s : String) : ScalarText :=
  let cs := s.toList
  match style s with
  | .plain => .short s
  | .single =>
    .ofLines (lines ('\'' :: cs.flatMap (fun c => if c = '\'' then [c, c] else [c]) ++ ['\'']))
  | .double => .short (String.ofList ('"' :: cs.flatMap escape ++ ['"']))
  | .literal =>
    let ls := lines cs
    let ls := if (ls.getLast?.map (·.1)) = some [] then ls.dropLast else ls
    .ofLines ((literalMark cs, '\n') :: ls)

/-! ## Trees as lines -/

/-- A line one level further in. An empty line has no indentation. -/
def Line.indent (line : Line) : Line :=
  if line.text = "" then line else { line with text := "  " ++ line.text }

/-- A line with something in front. -/
def Line.after (front : String) (line : Line) : Line := { line with text := front ++ line.text }

/-- What a tree is on the page. -/
inductive Layout
  /-- Behind its mark, with lines below that are indented. -/
  | scalar (s : ScalarText)
  | list (tag : Option String) (lines : List Line)
  | record (tag : Option String) (lines : List Line)

/-- A tag behind its mark. -/
def tagText : Option String → String
  | none => ""
  | some t => " !" ++ t

namespace Layout

/-- A tag in front of a tree that has none. -/
def withTag (t : String) : Layout → Layout
  | .scalar s => .scalar { s with head := s.head.after ("!" ++ t ++ " ") }
  | .list none ls => .list (some t) ls
  | .record none ls => .record (some t) ls
  | l => l

/-- The lines of a member: the mark that introduces it, with its colon, and the
value. -/
def member (mark : String) : Layout → List Line
  | .scalar s => s.head.after (mark ++ " ") :: s.below.map Line.indent
  | .list tag ls => ⟨mark ++ tagText tag, '\n'⟩ :: ls
  | .record tag ls => ⟨mark ++ tagText tag, '\n'⟩ :: ls.map Line.indent

/-- The lines of an item. A collection without a tag begins on the line of its
dash. -/
def item : Layout → List Line
  | .scalar s => s.head.after "- " :: s.below.map Line.indent
  | .list (some t) ls | .record (some t) ls => ⟨"- !" ++ t, '\n'⟩ :: ls.map Line.indent
  | .list none ls | .record none ls =>
    match ls with
    | [] => []
    | l :: ls => l.after "- " :: ls.map Line.indent

end Layout

/-- The lines of a key and its colon, all but the last one complete. A key of
several lines, or of more than 128 bytes, has a question mark in front. -/
def keyLines (k : String) : List Line × String :=
  let s := textScalar k
  if (Shape.of k.toList).multiline || k.utf8ByteSize > 128 then
    (s.head.after "? " :: s.below.map Line.indent, ":")
  else ([], s.head.text ++ ":")

mutual

/-- A tree on the page. -/
def layout : Data → Layout
  | .null => .scalar (.short "null")
  | .bool b => .scalar (.short (if b then "true" else "false"))
  | .number (.int n) => .scalar (.short (toString n))
  | .number (.float v) => .scalar (.short (v.render .expanded))
  | .text s => .scalar (textScalar s)
  | .list ds => if ds.isEmpty then .scalar (.short "[]") else .list none (itemLines ds)
  | .record ms =>
    if ms.isEmpty then .scalar (.short "\x7b\x7d") else .record none (memberLines ms)
  | .tagged tag d => (layout d).withTag tag

def itemLines : List Data → List Line
  | [] => []
  | d :: rest => (layout d).item ++ itemLines rest

def memberLines : List (String × Data) → List Line
  | [] => []
  | (k, d) :: rest =>
    let (above, mark) := keyLines k
    above ++ (layout d).member mark ++ memberLines rest

end

/-- A tree as text. -/
def write (d : Data) : String :=
  let ls := match layout d with
    | .scalar s => s.head :: s.below.map Line.indent
    | .list none ls | .record none ls => ls
    | .list (some t) ls | .record (some t) ls => ⟨"!" ++ t, '\n'⟩ :: ls
  String.join (ls.map fun l => l.text.push l.ending)

end Interlink.Yaml
