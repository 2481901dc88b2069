import Mathlib.Data.List.Chain
import Stencil.Template.Engine

/-!
# Printed templates and what they mean

A template that is printed from a tree says what it means without a scanner:
text stands for itself, a block for one of its branches, a variable tag for
its value. This module defines the trees, how they are printed, and what
they mean; that rendering the printed text gives the meaning is proved in
`Stencil.Proofs.Template.Rendering`.

The parts of a tag carry the proofs that they can be printed and read back:
a name is no reserved word, a default does not end early, a condition is one
that can be parsed. What depends on neighbours is said of a whole tree by
`Body.Clean`.
-/

namespace Stencil.Printed

open Stencil.Text

/-! ## Parts -/

def isNameChar (c : Char) : Bool := (Regex.CharClass.set false TagPattern.nameChars).holds c

/-- The words that begin block tags. -/
def reservedWords : List (List Char) := [['i', 'f'], ['e', 'l', 's', 'e'], ['e', 'n', 'd', 'i', 'f']]

/-- What ends a tag, apart from a blank in front of it. -/
def closer : List Char := ['%', '>']

/-- A word of name characters. -/
structure Word where
  chars : List Char
  nonempty : chars ≠ []
  plain : ∀ c ∈ chars, isNameChar c

/-- Text between tags. -/
structure PlainText where
  chars : List Char
  nonempty : chars ≠ []
  plain : '<' ∉ chars

structure Quotation where
  quote : Char
  chars : List Char
  isQuote : quote = '"' ∨ quote = '\''
  unquoted : quote ∉ chars
  inLine : '\n' ∉ chars
  plain : '<' ∉ chars

/-- A default without quotes. -/
structure BareText where
  chars : List Char
  plain : ∀ c ∈ chars, c ∉ ['"', '\'', '<', '|', '\n']
  inside : ¬ closer <:+: chars

inductive Default
  | quoted (q : Quotation)
  | bare (t : BareText)

/-- The arguments of a filter, as they are written. -/
structure ArgumentText where
  chars : List Char
  inLine : '\n' ∉ chars
  plain : '<' ∉ chars
  inside : ¬ closer <:+: chars

structure FilterUse where
  name : Word
  args : Option ArgumentText

/-- A variable tag. -/
structure Slot where
  name : Word
  free : name.chars ∉ reservedWords
  default : Option Default
  filter : Option FilterUse

/-- A condition, as it is written. -/
structure Question where
  chars : List Char
  accepted : ∃ c, Condition.parse (String.ofList chars) = .ok c
  inLine : '\n' ∉ chars
  inside : ¬ closer <:+: chars
  uncommented : ¬ ['<', '#'] <:+: chars

/-- A line end behind a block tag that belongs to the tag. -/
inductive LineEnd
  | none | lf | crlf
deriving DecidableEq

/-! ## Trees -/

/-- What is not a block. -/
inductive Leaf
  | text (t : PlainText)
  | slot (s : Slot)

/-- A sequence of leaves and blocks, where a block has one branch or two. -/
inductive Body
  | done
  | leaf (l : Leaf) (rest : Body)
  | when (q : Question) (opened : LineEnd) (body : Body) (closed : LineEnd) (rest : Body)
  | choose (q : Question) (opened : LineEnd) (thenPart : Body) (turned : LineEnd)
      (elsePart : Body) (closed : LineEnd) (rest : Body)

/-- A block tag. -/
inductive Mark
  | opening (q : Question)
  | otherwise
  | closing

/-- A piece of a printed template: a leaf, or a block tag and the line end
that belongs to it. -/
inductive Piece
  | leaf (l : Leaf)
  | mark (m : Mark) (e : LineEnd)

/-- The pieces of a tree in the order in which they are printed. -/
def Body.pieces : Body → List Piece
  | .done => []
  | .leaf l rest => .leaf l :: rest.pieces
  | .when q opened body closed rest =>
      .mark (.opening q) opened :: (body.pieces ++ .mark .closing closed :: rest.pieces)
  | .choose q opened thenPart turned elsePart closed rest =>
      .mark (.opening q) opened :: (thenPart.pieces ++ .mark .otherwise turned ::
        (elsePart.pieces ++ .mark .closing closed :: rest.pieces))

/-! ## Printing -/

def Default.print : Default → List Char
  | .quoted q => '=' :: q.quote :: (q.chars ++ [q.quote])
  | .bare t => '=' :: t.chars

def ArgumentText.print (a : ArgumentText) : List Char := ':' :: a.chars

def FilterUse.print (f : FilterUse) : List Char :=
  '|' :: (f.name.chars ++ (f.args.map (·.print)).getD [])

def Slot.print (s : Slot) : List Char :=
  ['<', '%', ' '] ++ s.name.chars ++ (s.default.map (·.print)).getD [] ++
    (s.filter.map (·.print)).getD [] ++ [' ', '%', '>']

def Leaf.print : Leaf → List Char
  | .text t => t.chars
  | .slot s => s.print

def LineEnd.print : LineEnd → List Char
  | .none => []
  | .lf => ['\n']
  | .crlf => ['\r', '\n']

def Mark.print : Mark → List Char
  | .opening q => ['<', '%', ' ', 'i', 'f', ' '] ++ q.chars ++ [' ', '%', '>']
  | .otherwise => ['<', '%', ' ', 'e', 'l', 's', 'e', ' ', '%', '>']
  | .closing => ['<', '%', ' ', 'e', 'n', 'd', 'i', 'f', ' ', '%', '>']

def Piece.print : Piece → List Char
  | .leaf l => l.print
  | .mark m e => m.print ++ e.print

/-- The template that is printed from a tree. -/
def Body.print (b : Body) : List Char := b.pieces.flatMap Piece.print

/-! ## Clean trees -/

/-- Whether a text begins with a line end that a block tag in front of it
would take in. -/
def BeginsLine (cs : List Char) : Prop := ['\n'] <+: cs ∨ ['\r', '\n'] <+: cs

/-- Whether two pieces may stand next to each other: two texts would be one,
and a line end would belong to the block tag in front of it. -/
def Apart : Piece → Piece → Prop
  | .leaf (.text _), .leaf (.text _) => False
  | .mark _ .none, .leaf (.text t) => ¬ BeginsLine t.chars
  | _, _ => True

/-- Blocks are nested at most `limit` deep. -/
def Body.Within : (limit : Int) → Body → Prop
  | _, .done => True
  | limit, .leaf _ rest => rest.Within limit
  | limit, .when _ _ body _ rest => 0 < limit ∧ body.Within (limit - 1) ∧ rest.Within limit
  | limit, .choose _ _ thenPart _ elsePart _ rest =>
      0 < limit ∧ thenPart.Within (limit - 1) ∧ elsePart.Within (limit - 1) ∧ rest.Within limit

/-- A tree whose printed text is read back as it is. -/
structure Body.Clean (limit : Int) (b : Body) : Prop where
  apart : b.pieces.IsChain Apart
  within : b.Within limit

/-! ## Meaning -/

def Default.value : Default → Except Failure Value
  | .quoted q => .ok (Value.ofChars q.chars)
  | .bare t => Literal.read (trim t.chars)

/-- The further arguments of a filter. -/
def FilterUse.arguments (f : FilterUse) : Except Failure (List Value) :=
  match f.args with
  | none => .ok []
  | some a => (Literal.splitArguments a.chars).mapM Literal.readArgument

section

variable (strict : Bool) (filters : Registry) (args : Arguments)

/-- The value of a variable without its filter. -/
def Slot.plainValue (s : Slot) : Except Failure Value :=
  match args.find? (String.ofList s.name.chars), s.default with
  | some v, _ => .ok v
  | none, some d => d.value
  | none, none =>
      if strict then .error (.unresolved (String.ofList s.name.chars)) else .ok .null

def Slot.value (s : Slot) : Except Failure Value := do
  let v ← s.plainValue strict args
  match s.filter with
  | none => .ok v
  | some f => do
      let more ← f.arguments
      filters.apply (String.ofList f.name.chars) v more

/-- What a leaf stands for. -/
def Leaf.meaning : Leaf → Except Failure (List Char)
  | .text t => .ok t.chars
  | .slot s => do (← s.value strict filters args).renderChars

/-- The leaves that the conditions leave, once these are evaluated in the
order of the text, those of a discarded branch not at all. -/
def Body.leaves : Body → Except Failure (List Leaf)
  | .done => .ok []
  | .leaf l rest => do
      let back ← rest.leaves
      .ok (l :: back)
  | .when q _ body _ rest => do
      let front ← if ← Condition.evaluateText (String.ofList q.chars) args then body.leaves
        else .ok []
      let back ← rest.leaves
      .ok (front ++ back)
  | .choose q _ thenPart _ elsePart _ rest => do
      let front ← if ← Condition.evaluateText (String.ofList q.chars) args then thenPart.leaves
        else elsePart.leaves
      let back ← rest.leaves
      .ok (front ++ back)

/-- What a tree stands for: all conditions first, then the leaves that are
left, from left to right. The first failure on the way is the meaning. -/
def Body.meaning (b : Body) : Except Failure (List Char) := do
  let leaves ← b.leaves args
  let parts ← leaves.mapM (Leaf.meaning strict filters args)
  .ok parts.flatten

end

end Stencil.Printed
