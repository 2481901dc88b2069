/-!
# Reasons for stopping

Every operation that can refuse says why with a value of this type. A reason has a kind, which says
what sort of mistake it was, and a message where the wording is this library's own. The first group
are the mistakes of a template; the rest are refusals of values, texts, options and files.
-/

namespace Stencil

/-- What is wrong with the blocks of a template. -/
inductive BlockFault
  | malformedCondition (text : String)
  | tooDeep (limit : Int)
  | strayElse
  | secondElse
  | strayEndif
  | missingEndif
deriving DecidableEq, Repr

/-- Why an operation stops. -/
inductive Failure
  /-- The block tags have no valid structure. -/
  | structural (fault : BlockFault)
  /-- A variable is neither given nor has a default. -/
  | unresolved (name : String)
  | unknownFilter (name : String)
  /-- A filter refused its input; the detail is there when the filter says more. -/
  | filterFailed (name : String) (detail : Option String)
  /-- A condition compares with something that is no operator. -/
  | unsupportedOperator (operator : String)
  /-- A condition uses a list or a mapping. -/
  | structuredOperand (operand shape : String)
  /-- A value of the wrong type, or the wrong number of arguments. -/
  | wrongType
  /-- A value of the right type that cannot be used. -/
  | badValue
  /-- A value lacks a part that was asked of it. -/
  | noAttribute
  | noKey
  | noIndex
  | overflow
  | notUtf8
  | notJson
  /-- Text that is no YAML document, or a value that YAML cannot hold. -/
  | notYaml
  /-- A text that is not in the encoding it should be decoded from. -/
  | undecodable (encoding : String)
  | invalidPath (path : String)
  /-- Something that is no filter was to be registered. -/
  | notCallable (name : String)
  /-- A mistake in the structure of a template without a wording of its own. -/
  | unspecifiedTemplate
  | noFile (path : String)
  | noTemplate (name : String)
  | noArguments (path : String)
  | notMapping (path : String)
  /-- A path leads nowhere. -/
  | noPath
  | isDirectory
  /-- A path goes through a file. -/
  | notDirectory
  /-- A command line assignment without a name or an equals sign. -/
  | invalidAssignment (text : String)
  | unknownOptions (names : List String)
  | notOptions
deriving DecidableEq, Repr

inductive Failure.Kind
  | structural | resolution | filter | operator | operand
  | type | value | attribute | key | index | overflow
  | unicode | json | yaml | missingFile | directory | notDirectory
deriving DecidableEq, Repr

def Failure.kind : Failure → Failure.Kind
  | .structural _ => .structural
  | .unspecifiedTemplate => .filter
  | .unresolved _ => .resolution
  | .unknownFilter _ => .filter
  | .filterFailed .. => .filter
  | .unsupportedOperator _ => .operator
  | .structuredOperand .. => .operand
  | .wrongType => .type
  | .notCallable _ => .type
  | .unknownOptions _ => .type
  | .notOptions => .type
  | .badValue => .value
  | .undecodable _ => .value
  | .invalidPath _ => .value
  | .notMapping _ => .value
  | .invalidAssignment _ => .value
  | .noAttribute => .attribute
  | .noKey => .key
  | .noIndex => .index
  | .overflow => .overflow
  | .notUtf8 => .unicode
  | .notJson => .json
  | .notYaml => .yaml
  | .noFile _ => .missingFile
  | .noTemplate _ => .missingFile
  | .noArguments _ => .missingFile
  | .noPath => .missingFile
  | .isDirectory => .directory
  | .notDirectory => .notDirectory

namespace Failure

/-- A mistake of the template, as opposed to a refusal of something it was given. -/
def isTemplateError (f : Failure) : Bool :=
  match f.kind with
  | .structural | .resolution | .filter | .operator | .operand => true
  | _ => false

/-- A refusal that a filter may make of its input. -/
def isRefusal (f : Failure) : Bool :=
  f.isTemplateError || match f.kind with
    | .type | .value | .attribute | .unicode | .json => true
    | _ => false

def blockMessage : BlockFault → String
  | .malformedCondition text => "Malformed condition '" ++ text ++ "'."
  | .tooDeep limit => "Conditions nested deeper than " ++ toString limit ++ " levels."
  | .strayElse => "Unexpected <% else %> tag outside of a condition."
  | .secondElse => "Too many <% else %> tags."
  | .strayEndif => "Unexpected <% endif %> tag without a matching <% if %>."
  | .missingEndif => "Missing <% endif %> tag."

/-- The words of a reason; none where the wording is not this library's. -/
def message? : Failure → Option String
  | .structural fault => some (blockMessage fault)
  | .unresolved name => some ("Variable '" ++ name ++ "' not found in arguments.")
  | .unknownFilter name => some ("Filter function '" ++ name ++ "' does not exist.")
  | .filterFailed name detail =>
      some ("Filter '" ++ name ++ "' failed" ++ (detail.map (": " ++ ·)).getD "")
  | .unsupportedOperator operator => some ("Unsupported operator '" ++ operator ++ "'.")
  | .structuredOperand operand shape =>
      some ("Operand '" ++ operand ++ "' is a " ++ shape ++ " and cannot be used in a condition.")
  | .undecodable encoding => some ("Cannot decode value as " ++ encoding)
  | .invalidPath path => some ("Invalid JSONPath '" ++ path ++ "'")
  | .notCallable name => some ("Filter '" ++ name ++ "' must be callable.")
  | .noFile path => some ("File '" ++ path ++ "' does not exist.")
  | .noTemplate name => some ("Template not found: " ++ name)
  | .noArguments path => some ("Arguments file not found: " ++ path)
  | .notMapping path => some ("Arguments file must contain a mapping: " ++ path)
  | .invalidAssignment text =>
      some ("Invalid assignment '" ++ text ++ "', expected name=value")
  | .unknownOptions names => some ("Unknown option(s): " ++ ", ".intercalate names)
  | .notOptions => some "Options must be an instance of Options or a dict."
  | _ => none

end Failure

end Stencil
