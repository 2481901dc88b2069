import Stencil.Yaml.Cursor

/-!
# In which style a text can be written

Most texts can be written as they are. What begins like something else, holds a colon or a number
sign that stands apart, begins or ends with blanks or goes over several lines is put in single
quotes, and what holds characters that cannot be shown, or blanks around the ends of its lines, in
double quotes.
-/

namespace Stencil.Yaml

/-- How a text may be written. -/
structure Style where
  plain : Bool
  single : Bool
  block : Bool
  severalLines : Bool

namespace Style

/-- A line end that is kept as it is. -/
def isBreakChar (c : Char) : Bool := c == '\n' || c == '\x85' || c == '\u2028' || c == '\u2029'

/-- A character that is only shown by an escape. -/
def isSpecial (c : Char) : Bool :=
  let n := c.toNat
  !(c == '\n' || (0x20 ≤ n && n ≤ 0x7E) || n == 0x85 || (0xA0 ≤ n && n ≤ 0xFFFD && n != 0xFEFF) ||
    (0x10000 ≤ n && n < 0x10FFFF))

/-- The characters that mean something at the start of a text. -/
def leading : List Char := "#,[]\x7b\x7d&*!|>'\"%@\x60".toList

/-- Whether the start of a text would be read as something else. -/
def startsLikeMark (cs : List Char) : Bool :=
  match cs with
  | [] => false
  | c :: rest =>
      leading.contains c ||
        ((c == '?' || c == ':' || c == '-') && isGapOrEnd (rest.head?.getD endMark)) ||
        "---".toList.isPrefixOf cs || "...".toList.isPrefixOf cs

/-- Whether a colon before a gap or a number sign behind one stands in the text behind `before`. -/
def holdsMark (before : Char) : List Char → Bool
  | [] => false
  | c :: rest =>
      (c == ':' && isGapOrEnd (rest.head?.getD endMark)) || (c == '#' && isGapOrEnd before) ||
        holdsMark c rest

/-- Whether two neighbours of a text are as said. -/
def hasPair (p q : Char → Bool) : List Char → Bool
  | a :: b :: cs => (p a && q b) || hasPair p q (b :: cs)
  | _ => false

def isSpace (c : Char) : Bool := c == ' '

/-- How a text may be written. -/
def ofText (cs : List Char) : Style :=
  match cs with
  | [] => ⟨true, true, false, false⟩
  | first :: rest =>
      let last := rest.getLastD first
      let blankEnds := isSpace first || isBreakChar first || isSpace last || isBreakChar last
      let severalLines := cs.any isBreakChar
      let blankAfterBreak := hasPair isBreakChar isSpace cs
      let escapes := hasPair isSpace isBreakChar cs || cs.any isSpecial
      let marks := startsLikeMark cs || holdsMark first rest
      ⟨!blankEnds && !blankAfterBreak && !escapes && !severalLines && !marks,
        !blankAfterBreak && !escapes, !isSpace last && !escapes, severalLines⟩

end Style

end Stencil.Yaml
