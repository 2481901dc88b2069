import Stencil.Template.Block
import Stencil.Template.Filter
import Stencil.Template.Variable

/-!
# Rendering

A template goes through three stages: comments are removed, blocks are resolved, variables are
replaced. Each stage sees only what the one before it left, so what is inside a comment or a branch
that is not taken has no effect. All variable tags are found, and all their values are computed,
before any output is put together; what comes from a value is never looked at again.
-/

namespace Stencil

/-- How templates are rendered. -/
structure Options where
  strict : Bool
  patterns : Patterns
  trimming : Trimming
  maxDepth : Int
  filters : Registry

/-- What a template asks for: the names of its variables, their defaults, and the names in its
conditions, each in the order of first appearance. -/
structure Inputs where
  arguments : List String
  defaults : Arguments
  conditions : List String

/-- The names with one more at the end, unless it is there. -/
def addName (names : List String) (name : String) : List String :=
  if names.contains name then names else names ++ [name]

namespace Options

/-- The part of the options that blocks depend on. -/
def blocks (o : Options) : Node.Settings := ⟨o.patterns, o.trimming, o.maxDepth⟩

/-! ## The stages -/

def stripComments (o : Options) (cs : List Char) : List Char := o.patterns.comment.regex.erase cs

def resolveBlocks (o : Options) (cs : List Char) (args : Arguments) : Run (List Char) :=
  Node.process o.blocks cs args

/-- The value of a variable before its filter: the argument, else the default, else null. A strict
engine fails where there is neither an argument nor a default. -/
def plainValue (o : Options) (v : Variable) (args : Arguments) : Run Value :=
  match args.find? v.name with
  | some value => pure value
  | none =>
      if v.hasDefault then do
        let value ← Run.ofExcept v.defaultValue
        Run.note (.usedDefault v.name value)
        pure value
      else if o.strict then Run.fail (.unresolved v.name)
      else do
        Run.note (.usedNull v.name)
        pure .null

def valueOf (o : Options) (v : Variable) (args : Arguments) : Run Value := do
  let value ← o.plainValue v args
  match v.filterName with
  | none => pure value
  | some name =>
      if name.isEmpty then pure value
      else do
        let more ← Run.ofExcept v.arguments
        Run.note (.filtering name v.name more)
        Run.ofExcept (o.filters.apply name value more)

/-- The texts that replace variable tags. -/
def replacements (o : Options) (args : Arguments) : List Variable → Run (List (List Char))
  | [] => pure []
  | v :: vs => do
      let value ← o.valueOf v args
      let cs ← Run.ofExcept value.renderChars
      let rest ← replacements o args vs
      pure (cs :: rest)

/-- The text from `pos` on with each tag replaced. -/
def splice : (pos : Nat) → (rest : List Char) → List (Variable × List Char) → List Char
  | _, rest, [] => rest
  | pos, rest, (v, new) :: more =>
      rest.take (v.start - pos) ++ new ++ splice v.stop (rest.drop (v.stop - pos)) more

/-- The text with its variable tags replaced. -/
def substitute (o : Options) (cs : List Char) (args : Arguments) : Run (List Char) := do
  let vs ← Run.ofExcept (Variable.scan o.patterns cs)
  let new ← o.replacements args vs
  pure (splice 0 cs (vs.zip new))

/-! ## Templates -/

def renderChars (o : Options) (template : List Char) (args : Arguments) : Run (List Char) := do
  let text ← o.resolveBlocks (o.stripComments template) args
  o.substitute text args

def renderText (o : Options) (template : String) (args : Arguments) : Except Failure String :=
  (o.renderChars template.toList args).result.map String.ofList

/-- Renders a template. Anything but a text is returned as it is. -/
def render (o : Options) (template : Value) (args : Arguments) : Except Failure Value :=
  match template with
  | .str s => (o.renderText s args).map .str
  | v => .ok v

/-! ## Looking without rendering -/

/-- The inputs with those of one more variable tag. -/
def addVariable (i : Inputs) (v : Variable) : Except Failure Inputs := do
  let i := { i with arguments := addName i.arguments v.name }
  if v.hasDefault && (i.defaults.find? v.name).isNone then
    let value ← v.defaultValue
    .ok { i with defaults := i.defaults.set v.name value }
  else .ok i

/-- The inputs with those of one more block tag. -/
def addTag (i : Inputs) (tag : BlockTag) : Except Failure Inputs :=
  match tag.kind with
  | .opening => do
      let c ← Condition.parse (tag.condition.getD "")
      .ok { i with conditions := c.names.foldl addName i.conditions }
  | _ => .ok i

/-- What a template asks for, in whatever branch it asks for it. -/
def listVariables (o : Options) (template : String) : Except Failure Inputs := do
  let text := o.stripComments template.toList
  let vs ← Variable.scan o.patterns text
  let inputs ← vs.foldlM addVariable ⟨[], [], []⟩
  let tags ← BlockTag.scan o.patterns .none text
  tags.foldlM addTag inputs

/-- Whether some variable of a template has no default. -/
def needsArguments (o : Options) (template : String) : Except Failure Bool := do
  let vs ← Variable.scan o.patterns (o.stripComments template.toList)
  .ok (vs.any fun v => !v.hasDefault)

end Options

end Stencil
