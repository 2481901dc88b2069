import Stencil.Filters.Coding
import Stencil.Filters.Cutting
import Stencil.Filters.Dates
import Stencil.Filters.Markup
import Stencil.Filters.Money
import Stencil.Filters.Sequences
import Stencil.Filters.Words
import Stencil.Html.Reference
import Stencil.JsonPath.Finder
import Stencil.JsonPath.Reader
import Stencil.Template.Filter

/-!
# The standard filters

Every filter that a template can use without further ado, by name. A filter takes a fixed range of
arguments after its value and refuses any other number of them; what is left out has a standard
value.
-/

namespace Stencil.Standard

open Stencil.Text

/-! ## How arguments are taken -/

/-- What a filter does with a value and its arguments. -/
abbrev Action := Value → List Value → Except Failure Value

/-- An action that takes no arguments. -/
def alone (f : Value → Except Failure Value) : Action
  | v, [] => f v
  | _, _ => .error .wrongType

/-- An action on the text of a value. -/
def onText (f : List Char → List Char) : Action :=
  alone fun v => v.renderChars.map fun cs => Value.ofChars (f cs)

/-- An action with one argument that must be given. -/
def withOne (f : Value → Value → Except Failure Value) : Action
  | v, [a] => f v a
  | _, _ => .error .wrongType

/-- An action with one argument that may be left out. -/
def withOptional (usual : Value) (f : Value → Value → Except Failure Value) : Action
  | v, [] => f v usual
  | v, [a] => f v a
  | _, _ => .error .wrongType

/-- An action with two arguments that may be left out. -/
def withTwoOptional (usual usual' : Value) (f : Value → Value → Value → Except Failure Value) :
    Action
  | v, [] => f v usual usual'
  | v, [a] => f v a usual'
  | v, [a, b] => f v a b
  | _, _ => .error .wrongType

/-- An action with one argument that must be given and one that may be left out. -/
def withOneAndOptional (usual : Value) (f : Value → Value → Value → Except Failure Value) : Action
  | v, [a] => f v a usual
  | v, [a, b] => f v a b
  | _, _ => .error .wrongType

/-! ## Single filters -/

def markLineEnds (v long : Value) : Except Failure Value :=
  let mark := if long.isTruthy then "<br />" else "<br>"
  v.renderChars.map fun cs => Value.ofChars (Markup.markLineEnds mark.toList cs)

def unescape (v : Value) : Except Failure Value := do
  .ok (Value.ofChars (← Html.unescape (← v.renderChars)))

/-- What a path finds in a value. -/
def query (v path : Value) : Except Failure Value := do
  match JsonPath.read (← path.renderChars) with
  | .ok p => JsonPath.select p v
  | .error .tooLong => .error .badValue
  | .error .form => .error (.invalidPath (path.plain?.getD ""))

/-- The fallback in place of null and of an empty text. -/
def orElse (v fallback : Value) : Except Failure Value :=
  match v with
  | .null => .ok fallback
  | .str "" => .ok fallback
  | v => .ok v

/-! ## The catalog -/

/-- The standard filters by name. -/
def actions : List (String × Action) :=
  [("upper", onText upper),
    ("lower", onText lower),
    ("upperFirst", onText Words.upperFirst),
    ("lowerFirst", onText Words.lowerFirst),
    ("first", alone Sequences.first),
    ("last", alone Sequences.last),
    ("camelCase", onText Words.camelCase),
    ("snakeCase", onText Words.snakeCase),
    ("kebabCase", onText Words.kebabCase),
    ("pascalCase", onText Words.pascalCase),
    ("titleCase", onText Words.titleCase),
    ("length", alone Sequences.length),
    ("reverse", alone Sequences.reverse),
    ("random", alone Sequences.choose),
    ("shuffle", alone Sequences.shuffle),
    ("truncate", withOneAndOptional (.str "...") Cutting.truncate),
    ("trim", withTwoOptional (.str "both") Cutting.usual Cutting.trim),
    ("url", onText Percent.encode),
    ("stripTags", onText Markup.withoutTags),
    ("nl2br", withOptional (.bool false) markLineEnds),
    ("escape", onText Html.escape),
    ("unescape", alone unescape),
    ("hash", withTwoOptional (.str "md5") .null Coding.hash),
    ("rot13", onText (List.map Markup.rotate)),
    ("encode", withOptional (.str "base64") Coding.encode),
    ("decode", withOptional (.str "base64") Coding.decode),
    ("formatDate", withOptional (.str "yyyy-MM-dd") Dates.formatDate),
    ("currency", withOptional (.str "$") Money.currency),
    ("query", withOne query),
    ("json", alone fun v => (Json.text .spaced v).map .str),
    ("default", withOptional (.str "") orElse)]

def filter? (name : String) : Option Filter :=
  (actions.lookup name).map fun f => ⟨some name, f⟩

end Stencil.Standard

namespace Stencil

def Registry.standard : Registry :=
  ⟨Standard.actions.map fun e => (e.1, ⟨some e.1, e.2⟩)⟩

end Stencil
