import Stencil.Regex.Matcher
import Stencil.Template.Trace
import Stencil.Text.Trim
import Stencil.Value.Comparison
import Stencil.Value.Literal

/-!
# Conditions

A condition is an operand, or two operands with an operator between them. An operand is the name of
an argument behind a dollar sign or a literal, and an exclamation mark in front of it turns it into
the opposite truth value. An operator is looked for first, and exclamation marks behind it belong to
the right operand; any other run of operator characters is an operator that nothing is known about,
unless there is no right operand but its last character.
-/

namespace Stencil

inductive Comparison
  | equal | identical | different | distinct | less | atMost | greater | atLeast
deriving DecidableEq, Repr

namespace Comparison

/-- How an operator is written. -/
def toText : Comparison → String
  | .equal => "=="
  | .identical => "==="
  | .different => "!="
  | .distinct => "!=="
  | .less => "<"
  | .atMost => "<="
  | .greater => ">"
  | .atLeast => ">="

def every : List Comparison :=
  [.identical, .distinct, .equal, .different, .atMost, .atLeast, .less, .greater]

/-- The operator that is written so. -/
def ofText? (s : String) : Option Comparison := every.find? fun op => op.toText == s

def holds (op : Comparison) (a b : Value) : Except Failure Bool :=
  match op with
  | .equal => a.looseEquals b
  | .identical => .ok (a.strictEquals b)
  | .different => (a.looseEquals b).map (!·)
  | .distinct => .ok (!a.strictEquals b)
  | .less => (a.looseCompare b).map fun n => decide (n < 0)
  | .atMost => (a.looseCompare b).map fun n => decide (n ≤ 0)
  | .greater => (a.looseCompare b).map fun n => decide (0 < n)
  | .atLeast => (a.looseCompare b).map fun n => decide (0 ≤ n)

end Comparison

namespace Condition

open Stencil.Text

/-! ## Reading -/

def quotedOperand (q : Char) : Regex :=
  .all [.one (.one q), .many (.noneOf [.one q]), .one (.one q)]

/-- The characters of operators other than the exclamation mark. -/
def comparing : List Regex.Member := [.one '<', .one '>', .one '=']

/-- An operator with no further comparing character behind it, or a run of operator characters. -/
def operatorPart : Regex :=
  .first [.all [.first (Comparison.every.map fun op => .literal op.toText.toList),
      .ahead true (.oneOf comparing)],
    .some1 (.oneOf (.one '!' :: comparing))]

/-- The left operand: a text in quotes, or as few characters as possible that are neither blank nor
comparing. -/
def leftPart : Regex :=
  .first [quotedOperand '"', quotedOperand '\'',
    .some1Lazy (.noneOf (.blank false :: comparing))]

/-- A condition without blanks around it. -/
def pattern : Regex :=
  .all [.group "negation" (.optional (.one (.one '!'))), .group "left" leftPart, .many .blank,
    .optional (.all [.group "operator" operatorPart, .many .blank,
      .group "right" (.some1Lazy (.one .inLine))]),
    .many .blank]

/-- The condition that a text spells; none if it spells none. -/
def read? (cs : List Char) : Option Condition :=
  (pattern.fullMatch? (trim cs)).map fun m =>
    let part := fun name => (m.group? name).map String.ofList
    ⟨(part "left").getD "", part "negation" == some "!", part "operator", part "right"⟩

/-- The condition that a text spells. -/
def parse (text : String) : Except Failure Condition :=
  match read? text.toList with
  | some c => .ok c
  | none => .error (.structural (.malformedCondition text))

/-! ## Evaluating -/

/-- The value of an operand without its exclamation mark: that of the argument it names, or that of
the literal it is. It is refused if it consists of other values. -/
def plainOperand (raw : List Char) (args : Arguments) : Except Failure Value := do
  let v ← match raw with
    | '$' :: name =>
        let name := String.ofList name
        match args.find? name with
        | some v => .ok v
        | none => .error (.unresolved name)
    | raw => Literal.read raw
  if v.isStructured then .error (.structuredOperand (String.ofList raw) v.shape) else .ok v

def operand (raw : String) (args : Arguments) : Except Failure Value :=
  match raw.toList with
  | '!' :: rest => (plainOperand rest args).map fun v => .bool (!v.isTruthy)
  | raw => plainOperand raw args

def holds (c : Condition) (args : Arguments) : Except Failure Bool := do
  let left ← operand c.left args
  let left := if c.negated then .bool (!left.isTruthy) else left
  match c.operator with
  | none => .ok left.isTruthy
  | some op =>
      match Comparison.ofText? op with
      | none => .error (.unsupportedOperator op)
      | some op => do
          let right ← operand (c.right.getD "") args
          op.holds left right

/-- Evaluates a condition and notes the result. -/
def evaluate (c : Condition) (args : Arguments) : Run Bool := do
  let result ← Run.ofExcept (c.holds args)
  Run.note (.decided c result)
  pure result

/-- Whether the condition that a text spells holds. -/
def evaluateText (text : String) (args : Arguments) : Except Failure Bool := do
  (← parse text).holds args

/-! ## Names -/

/-- The name that an operand asks for, behind any number of exclamation marks. -/
def nameIn? (raw : String) : Option String :=
  match raw.toList.dropWhile (· == '!') with
  | '$' :: name => if name.isEmpty then none else some (String.ofList name)
  | _ => none

def names (c : Condition) : List String :=
  ([some c.left, c.right].filterMap id).filterMap nameIn?

end Condition

end Stencil
