import Stencil.Text.Class
import Stencil.Yaml.Style

/-!
# Writing on a page

A page is text with the column of its end. Lines are broken at single spaces once they are longer
than the page is wide.
-/

namespace Stencil.Yaml

/-- The text of a document as far as it is written, last character first. -/
structure Page where
  written : List Char
  column : Nat
  /-- Nothing has to be put before what comes next to keep it apart. -/
  isApart : Bool
  /-- The line holds nothing but blanks and marks for items. -/
  isOpen : Bool
  /-- The document ends in a text without quotes. -/
  endsPlain : Bool

namespace Page

def width : Nat := 80

def empty : Page := ⟨[], 0, true, true, false⟩

def put (cs : List Char) (p : Page) : Page :=
  { p with written := cs.reverse ++ p.written, column := p.column + cs.length }

def endLine (mark : Char) (p : Page) : Page :=
  { p with written := mark :: p.written, column := 0, isApart := true, isOpen := true }

/-- The start of a line with an indentation, a new one unless the line at hand can be used. -/
def startLine (indent : Nat) (p : Page) : Page :=
  let p := if !p.isOpen || indent < p.column || (p.column == indent && !p.isApart) then
      p.endLine '\n' else p
  if p.column < indent then
    { p.put (List.replicate (indent - p.column) ' ') with isApart := true }
  else p

/-- A mark, kept apart from what is in front of it. -/
def mark (cs : List Char) (p : Page) : Page :=
  { p.put (if p.isApart then cs else ' ' :: cs) with
    isApart := false, isOpen := false, endsPlain := false }

/-- A mark that directly follows what is in front of it. -/
def joinMark (cs : List Char) (p : Page) : Page :=
  { p.put cs with isApart := false, isOpen := false, endsPlain := false }

/-- A mark before an item, on whose line the item may begin. -/
def itemMark (c : Char) (p : Page) : Page :=
  { p.put (if p.isApart then [c] else [' ', c]) with isApart := false, endsPlain := false }

/-! ## Runs of characters -/

/-- The sorts of characters that are written together. -/
inductive RunKind
  | word | spaces | breaks
deriving DecidableEq

def kindOf (c : Char) : RunKind :=
  if c = ' ' then .spaces else if Style.isBreakChar c then .breaks else .word

def runs : List Char → List (RunKind × List Char)
  | [] => []
  | c :: cs =>
      match runs cs with
      | (k, run) :: rest =>
          if k = kindOf c then (k, c :: run) :: rest else (kindOf c, [c]) :: (k, run) :: rest
      | [] => [(kindOf c, [c])]

/-- Line ends inside a text. One more line feed goes before them if the first is a line feed. -/
def putBreaks (indent : Nat) (bs : List Char) (p : Page) : Page :=
  let p := if bs.head? = some '\n' then p.endLine '\n' else p
  (bs.foldl (fun p b => p.endLine b) p).startLine indent

/-- The line is broken inside a text. -/
def breakLine (indent : Nat) (p : Page) : Page :=
  { p.startLine indent with isApart := false, isOpen := false }

/-! ## Texts -/

def putPlain (indent : Nat) (mayBreak : Bool) (cs : List Char) (p : Page) : Page :=
  let p := if p.isApart then p else p.put [' ']
  let p := { p with isApart := false, isOpen := false }
  (runs cs).foldl (fun p (k, run) =>
    match k with
    | .spaces =>
        if run.length = 1 && width < p.column && mayBreak then p.breakLine indent else p.put run
    | .breaks => { p.putBreaks indent run with isApart := false, isOpen := false }
    | .word => p.put run) p

/-- The runs of a text inside single quotes. -/
def putSingleRuns (indent : Nat) (mayBreak : Bool) : (isFirst : Bool) → List (RunKind × List Char) →
    Page → Page
  | _, [], p => p
  | isFirst, (k, run) :: rest, p =>
      let p := match k with
        | .spaces =>
            if run.length = 1 && width < p.column && mayBreak && !isFirst && !rest.isEmpty then
              p.startLine indent
            else p.put run
        | .breaks => p.putBreaks indent run
        | .word => p.put (run.flatMap fun c => if c = '\'' then ['\'', '\''] else [c])
      putSingleRuns indent mayBreak false rest p

def putSingle (indent : Nat) (mayBreak : Bool) (cs : List Char) (p : Page) : Page :=
  (putSingleRuns indent mayBreak true (runs cs) (p.mark ['\''])).joinMark ['\'']

/-- The letters for characters that cannot be shown. -/
def escapeLetters : List (Char × Char) :=
  [('\x00', '0'), ('\x07', 'a'), ('\x08', 'b'), ('\t', 't'), ('\n', 'n'), ('\x0b', 'v'),
    ('\x0c', 'f'), ('\r', 'r'), ('\x1b', 'e'), ('"', '"'), ('\\', '\\'), ('\u0085', 'N'), ('\u00a0', '_'),
    ('\u2028', 'L'), ('\u2029', 'P')]

/-- Whether a character is written by an escape inside double quotes. -/
def needsEscape (c : Char) : Bool :=
  let n := c.toNat
  c == '"' || c == '\\' || c == '\u2028' || c == '\u2029' || n == 0xFEFF ||
    !((0x20 ≤ n && n ≤ 0x7E) || (0xA0 ≤ n && n ≤ 0xFFFD))

def escape (c : Char) : List Char :=
  let digits := fun (width : Nat) => (Text.hexDigits width c.toNat).map Char.toUpper
  match escapeLetters.lookup c with
  | some letter => ['\\', letter]
  | none =>
      if c.toNat ≤ 0xFF then '\\' :: 'x' :: digits 2
      else if c.toNat ≤ 0xFFFF then '\\' :: 'u' :: digits 4
      else '\\' :: 'U' :: digits 8

/-- The characters of a text inside double quotes. `held` are those that are not yet on the page,
last character first. A line is broken behind a backslash, at a space or between escapes. -/
def putDoubleChars (indent : Nat) (mayBreak : Bool) : (isFirst : Bool) → (held : List Char) →
    List Char → Page → Page
  | _, held, [], p => p.put held.reverse
  | isFirst, held, c :: rest, p =>
      let escaped := needsEscape c
      let p := if escaped then (p.put held.reverse).put (escape c) else p
      let reach := if escaped then p.column - 1 else p.column + held.length
      if !isFirst && !rest.isEmpty && (c == ' ' || escaped || held.isEmpty) && width < reach &&
          mayBreak then
        let p := (p.put ((if escaped then [] else held.reverse) ++ ['\\'])).breakLine indent
        let next := if escaped then rest.head?.getD endMark else c
        let p := if next = ' ' then p.put ['\\'] else p
        putDoubleChars indent mayBreak false (if escaped then [] else [c]) rest p
      else putDoubleChars indent mayBreak false (if escaped then [] else c :: held) rest p

def putDouble (indent : Nat) (mayBreak : Bool) (cs : List Char) (p : Page) : Page :=
  (putDoubleChars indent mayBreak true [] cs (p.mark ['"'])).joinMark ['"']

/-- The lines of a text that ends in a line feed, as a block behind a bar. -/
def putBlock (indent : Nat) (cs : List Char) (p : Page) : Page :=
  (runs cs).foldl (fun p (k, run) =>
    match k with
    | .breaks => run.foldl (fun p b => p.endLine b) p
    | _ => (if p.column = 0 then p.startLine indent else p).put run) ((p.mark ['|']).endLine '\n')

end Page

end Stencil.Yaml
