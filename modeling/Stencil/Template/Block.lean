import Stencil.Template.Condition
import Stencil.Template.Tag

/-!
# Blocks

A template is a sequence of text and blocks, and a block holds such sequences as its branches. The
tree is built from the tags in one pass over them, with the blocks that are still open on a stack.
It is then resolved from the top: a branch that is not taken is never looked into, so the conditions
in it are not evaluated.
-/

namespace Stencil

/-- A piece of a template: text, or a block with a branch for its condition and perhaps another. -/
inductive Node
  | text (s : String)
  | block (condition : Condition) (thenPart : List Node) (elsePart : Option (List Node))
deriving Inhabited

namespace Node

open Stencil.Text

/-! ## Building the tree -/

/-- A block that is still open, with what its branches hold so far, last piece first. -/
structure Opened where
  condition : Condition
  thenPart : List Node
  elsePart : Option (List Node)

/-- What is built so far: the pieces outside of all blocks, last piece first, and the open blocks,
innermost first. -/
structure Building where
  root : List Node
  stack : List Opened

/-- An open block with one more piece in the branch that is being filled. -/
def Opened.push (n : Node) (o : Opened) : Opened :=
  match o.elsePart with
  | some nodes => { o with elsePart := some (n :: nodes) }
  | none => { o with thenPart := n :: o.thenPart }

def Opened.close (o : Opened) : Node :=
  .block o.condition o.thenPart.reverse (o.elsePart.map List.reverse)

/-- One more piece at the place that is being filled. -/
def Building.push (n : Node) (b : Building) : Building :=
  match b.stack with
  | o :: rest => { b with stack := o.push n :: rest }
  | [] => { b with root := n :: b.root }

/-- The text in front of a tag, unless it is empty. -/
def Building.pushText (cs : List Char) (b : Building) : Building :=
  if cs.isEmpty then b else b.push (.text (String.ofList cs))

/-- What a tag does: it opens a block, turns to the other branch, or closes a block. -/
def Building.apply (maxDepth : Int) (tag : BlockTag) (b : Building) : Except Failure Building :=
  match tag.kind with
  | .opening =>
      if maxDepth ≤ b.stack.length then .error (.structural (.tooDeep maxDepth))
      else do
        let c ← Condition.parse (tag.condition.getD "")
        .ok { b with stack := ⟨c, [], none⟩ :: b.stack }
  | .otherwise =>
      match b.stack with
      | [] => .error (.structural .strayElse)
      | o :: rest =>
          if o.elsePart.isSome then .error (.structural .secondElse)
          else .ok { b with stack := { o with elsePart := some [] } :: rest }
  | .closing =>
      match b.stack with
      | [] => .error (.structural .strayEndif)
      | o :: rest => .ok (({ b with stack := rest } : Building).push o.close)

/-- The tree of the text from `pos` on, which is `rest`. -/
def build (maxDepth : Int) : (pos : Nat) → (rest : List Char) → List BlockTag → Building →
    Except Failure (List Node)
  | _, rest, [], b =>
      if b.stack.isEmpty then .ok (b.pushText rest).root.reverse
      else .error (.structural .missingEndif)
  | pos, rest, tag :: tags, b => do
      let b ← (b.pushText (rest.take (tag.start - pos))).apply maxDepth tag
      build maxDepth tag.stop (rest.drop (tag.stop - pos)) tags b

/-- How blocks are read: the tag syntax, the trimming and the deepest nesting. -/
structure Settings where
  patterns : Patterns
  trimming : Trimming
  maxDepth : Int

def parse (s : Settings) (cs : List Char) : Except Failure (List Node) := do
  let tags ← BlockTag.scan s.patterns s.trimming cs
  build s.maxDepth 0 cs tags ⟨[], []⟩

/-! ## Resolving it -/

mutual

/-- The text that is left of a piece. -/
def resolve (args : Arguments) : Node → Run (List Char)
  | .text s => pure s.toList
  | .block c thenPart elsePart => do
      if ← c.evaluate args then resolveAll args thenPart
      else resolveOther args elsePart

/-- The text that is left of a sequence. -/
def resolveAll (args : Arguments) : List Node → Run (List Char)
  | [] => pure []
  | n :: ns => do
      let cs ← resolve args n
      let rest ← resolveAll args ns
      pure (cs ++ rest)

def resolveOther (args : Arguments) : Option (List Node) → Run (List Char)
  | none => pure []
  | some ns => resolveAll args ns

end

/-- The text that is left once every block is resolved. -/
def process (s : Settings) (cs : List Char) (args : Arguments) : Run (List Char) := do
  resolveAll args (← Run.ofExcept (parse s cs))

end Node

end Stencil
