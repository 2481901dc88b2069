import Stencil.Yaml.Scalar.Quoted

/-!
# Plain text

Text without quotes ends before a colon or a number sign that stands apart, before a line that is
indented too little, and inside brackets before a comma, a question mark or a bracket. It can go on
over several lines as quoted text can.
-/

namespace Stencil.Yaml.Plain

/-- Brackets and the comma between items in them. -/
def isFlowMark (c : Char) : Bool :=
  c == ',' || c == '[' || c == ']' || c == '\x7b' || c == '\x7d'

/-- The characters of a word. -/
def wordOf (inFlow : Bool) : List Char → List Char
  | [] => []
  | ch :: cs =>
      let next := cs.head?.getD endMark
      if isGapOrEnd ch || (ch == ':' && (isGapOrEnd next || (inFlow && isFlowMark next))) ||
          (inFlow && (isFlowMark ch || ch == '?')) then []
      else ch :: wordOf inFlow cs

/-- The line ends of empty lines, the place behind them, and whether a mark between documents stands
there. -/
def breaks : (fuel : Nat) → Cursor → List Char × Cursor × Bool
  | 0, c => ([], c, false)
  | fuel + 1, c =>
      let c := c.skipSpaces
      match c.lineEnd? with
      | some (b, c) =>
          if c.atDocumentMark then ([], c, true)
          else
            let (bs, c, marked) := breaks fuel c
            (b :: bs, c, marked)
      | none => ([], c, false)

/-- The blanks between two words, the place behind them, and whether a line ended there. -/
def gap (c : Cursor) : List Char × Cursor × Bool :=
  let (blanks, c) := c.takeWhile (· == ' ')
  match c.lineEnd? with
  | none => (blanks, c, false)
  | some (b, c) =>
      if c.atDocumentMark then ([], c, true)
      else
        let (bs, c, marked) := breaks (c.rest.length + 1) c
        (if marked then [] else Quoted.folded b bs, c, true)

/-- The words from a place on, the place behind them and the blanks there, and whether a line ended
behind the last word. -/
def words (inFlow : Bool) (indent : Int) :
    (fuel : Nat) → (blanks : List Char) → (lineEnded : Bool) → Cursor → List Char × Cursor × Bool
  | 0, _, lineEnded, c => ([], c, lineEnded)
  | fuel + 1, blanks, lineEnded, c =>
      let cs := if c.head = '#' then [] else wordOf inFlow c.rest
      if cs.isEmpty then ([], c, lineEnded)
      else
        let (blanks', c, ended) := gap (c.advance cs.length)
        if blanks'.isEmpty || c.head == '#' || (!inFlow && (c.column : Int) < indent) then
          (blanks ++ cs, c, ended)
        else
          let (rest, c, lineEnded) := words inFlow indent fuel blanks' ended c
          (blanks ++ cs ++ rest, c, lineEnded)

/-- The text that begins at a place, the place behind it, and whether a line ended there. -/
def read (inFlow : Bool) (indent : Int) (c : Cursor) : List Char × Cursor × Bool :=
  words inFlow indent (c.rest.length + 1) [] false c

end Stencil.Yaml.Plain
