import Stencil.Regex.Matcher
import Stencil.Template.Pattern
import Stencil.Text.Trim

/-!
# Block tags

The `if`, `else` and `endif` tags of a text, in the order in which they stand. Each sort is looked
for by itself; the finds are put in order, and a tag that begins inside the one before it is
dropped. A tag can be made to take in the indentation in front of it, when nothing else stands
between it and the start of its line or the tag before it, and the blanks behind it up to the end of
the line.
-/

namespace Stencil

inductive TagKind
  | opening | otherwise | closing
deriving DecidableEq, Repr

/-- A block tag: its sort, where it begins and ends, and the condition if it opens a block. -/
structure BlockTag where
  kind : TagKind
  start : Nat
  stop : Nat
  condition : Option String
deriving DecidableEq, Repr

/-- Whether block tags take in the blanks around them. -/
structure Trimming where
  before : Bool
  after : Bool
deriving DecidableEq, Repr

/-- Tags end where they are written to end. -/
def Trimming.none : Trimming := ⟨false, false⟩

namespace BlockTag

open Stencil.Text Stencil.Regex

/-- The characters from `start` up to `stop`. -/
def slice (cs : List Char) (start stop : Nat) : List Char := (cs.drop start).take (stop - start)

/-! ## Finding the tags -/

/-- The condition inside an opening tag. -/
def conditionOf (r : Regex) (m : Match) : Except Failure String :=
  match m.group? "condition" with
  | some cs => .ok (String.ofList (trim cs))
  | none => .error (if r.hasGroup "condition" then .noAttribute else .noIndex)

def openings (p : Patterns) (cs : List Char) : Except Failure (List BlockTag) :=
  let r := p.ifTag.regex
  (r.allMatches cs).mapM fun m => do
    let condition ← conditionOf r m
    .ok ⟨.opening, m.start, m.stop, some condition⟩

def words (kind : TagKind) (r : Regex) (cs : List Char) : List BlockTag :=
  (r.allMatches cs).map fun m => ⟨kind, m.start, m.stop, none⟩

/-- The finds of all sorts in the order in which they begin. -/
def found (p : Patterns) (cs : List Char) : Except Failure (List BlockTag) := do
  let opening ← openings p cs
  let others := words .otherwise p.elseTag.regex cs ++ words .closing p.endifTag.regex cs
  .ok ((opening ++ others).mergeSort fun a b => a.start ≤ b.start)

/-! ## Taking in blanks -/

/-- The blanks of an indentation. -/
def isIndent (c : Char) : Bool := c == ' ' || c == '\t'

/-- Where a tag begins once the indentation in front of it is taken in, where `past` is the end of
the tag before it. -/
def trimmedStart (cs : List Char) (past start : Nat) : Nat :=
  let line := (cs.take start).reverse.takeWhile (· != '\n')
  let from1 := max (start - line.length) past
  if (slice cs from1 start).all isIndent then from1 else start

/-- Where a tag ends once the blanks behind it and the line end are taken in. -/
def trimmedStop (cs : List Char) (start stop : Nat) : Nat :=
  if (slice cs start stop).getLast? = some '\n' then stop
  else
    let rest := cs.drop stop
    let indent := rest.takeWhile isIndent
    match rest.dropWhile isIndent with
    | [] => stop + indent.length
    | '\n' :: _ => stop + indent.length + 1
    | '\r' :: '\n' :: _ => stop + indent.length + 2
    | _ => stop

/-- A tag with the blanks around it that the trimming asks for. -/
def trimmed (trim : Trimming) (cs : List Char) (past : Nat) (tag : BlockTag) : BlockTag :=
  { tag with
    start := if trim.before then trimmedStart cs past tag.start else tag.start
    stop := if trim.after then trimmedStop cs tag.start tag.stop else tag.stop }

/-- The tags that do not begin inside the one before them, trimmed, where `past` is the end of the
last tag that was kept. -/
def separate (trim : Trimming) (cs : List Char) : (past : Nat) → List BlockTag → List BlockTag
  | _, [] => []
  | past, tag :: tags =>
      if tag.start < past then separate trim cs past tags
      else
        let tag := trimmed trim cs past tag
        tag :: separate trim cs tag.stop tags

/-- The block tags of a text from left to right. -/
def scan (p : Patterns) (trim : Trimming) (cs : List Char) : Except Failure (List BlockTag) :=
  (found p cs).map (separate trim cs 0)

end BlockTag

end Stencil
