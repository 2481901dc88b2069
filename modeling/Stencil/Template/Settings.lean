import Stencil.Filters.Standard
import Stencil.Filters.Words
import Stencil.Template.Engine

/-!
# Options by name

Options can be given as a mapping. A name is written with low lines or with capitals inside, in
whatever case; of two entries with one name the later one counts, and an entry of null counts as not
given. A name that means nothing is refused.
-/

namespace Stencil

/-- The entries of a mapping by their names in one spelling, the later of two counting. -/
def namedEntries (entries : List (Value × Value)) : Except Failure Arguments := do
  let pairs ← entries.mapM fun
    | (.str name, v) => .ok (Words.optionName name, v)
    | _ => .error .wrongType
  .ok (Arguments.ofPairs pairs)

def given (entries : List (Value × Value)) : List (Value × Value) :=
  entries.filter fun e => match e.2 with
    | .null => false
    | _ => true

namespace Patterns

/-- The pattern given under a name, or the standard one. -/
def pick (args : Arguments) (name : String) (usual : TagPattern) : TagPattern :=
  match (args.find? name).bind Value.str? with
  | some source => .ofSource source
  | none => usual

def names : List String := ["variables", "conditions", "else_tag", "endif_tag", "comments"]

/-- The standard patterns with some replaced. -/
def ofEntries (entries : List (Value × Value)) : Except Failure Patterns := do
  let args ← namedEntries (given entries)
  if args.all fun e => names.contains e.1 then
    .ok ⟨pick args "variables" .standardVariable, pick args "conditions" .standardIf,
      pick args "else_tag" .standardElse, pick args "endif_tag" .standardEndif,
      pick args "comments" .standardComment⟩
  else .error .wrongType

end Patterns

namespace Options

/-- Missing variables are null, nothing is trimmed, blocks are nested at most 256 deep. -/
def standard : Options := ⟨false, .standard, .none, 256, .standard⟩

def names : List String :=
  ["strict", "patterns", "trim_before_blocks", "trim_after_blocks", "max_depth", "filters"]

def flag (args : Arguments) (name : String) (usual : Bool) : Bool :=
  match args.find? name with
  | none | some .null => usual
  | some v => v.isTruthy

def count (args : Arguments) (name : String) (usual : Int) : Except Failure Int :=
  match args.find? name with
  | none | some .null => .ok usual
  | some v => match v.number? with
      | some (.whole n) => .ok n
      | _ => .error .wrongType

/-- The standard options with some replaced. -/
def ofEntries (entries : List (Value × Value)) : Except Failure Options := do
  let args ← namedEntries entries
  let unknown := (args.map (·.1)).filter fun name => !names.contains name
  if unknown.isEmpty then do
    let patterns ← match args.find? "patterns" with
      | some (.mapping entries) => Patterns.ofEntries entries
      | _ => .ok .standard
    let maxDepth ← count args "max_depth" standard.maxDepth
    .ok ⟨flag args "strict" standard.strict, patterns,
      ⟨flag args "trim_before_blocks" false, flag args "trim_after_blocks" false⟩, maxDepth,
      standard.filters⟩
  else .error (.unknownOptions (unknown.mergeSort fun a b => !(b < a)))

/-- The options that a value stands for, which must be a mapping. -/
def ofValue : Value → Except Failure Options
  | .mapping entries => ofEntries entries
  | .null => .ok standard
  | _ => .error .notOptions

end Options

end Stencil
