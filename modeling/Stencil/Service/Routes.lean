import Stencil.Files.Templates
import Stencil.Service.Request
import Stencil.Template.Settings

/-!
# The service

Templates are rendered that come with a request or are stored in a directory, and the inputs of a
template are listed. A mistake of the template is told with its message and status 422, a template
that does not exist with status 404, and any other failure with status 500.
-/

namespace Stencil.Service

/-- What the service works with. -/
structure Site where
  files : FileTree
  directory : String

/-! ## Answers -/

/-- A document of named fields. -/
def document (fields : List (String × Value)) : Value :=
  .mapping (fields.map fun f => (.str f.1, f.2))

def refusal (status : Nat) (detail : String) : Response :=
  ⟨status, document [("detail", .str detail)]⟩

def bodyRefusal : BodyFault → Response
  | .invalid => refusal 422 "*"
  | .unreadable => refusal 400 "There was an error parsing the body"

def failureResponse (f : Failure) : Response :=
  let detail := f.message?.getD "*"
  if f.isTemplateError then refusal 422 detail
  else match f with
    | .noTemplate _ => refusal 404 detail
    | _ => refusal 500 "Error rendering template: *"

/-- The answer with a document, or the one to a failure. -/
def answer (r : Except Failure (List (String × Value))) : Response :=
  match r with
  | .ok fields => ⟨200, document fields⟩
  | .error f => failureResponse f

/-! ## Handlers -/

def options (strict : Bool) : Options := { Options.standard with strict }

def render (fields : Fields) : Except BodyFault Response := do
  let template ← textField fields "template"
  let args ← argumentsField fields "arguments"
  let strict ← truthField fields "strict" true
  .ok (answer do .ok [("output", .str (← (options strict).renderText template args))])

def inputs (fields : Fields) : Except BodyFault Response := do
  let template ← textField fields "template"
  let o := options false
  let names := fun (xs : List String) => Value.list (xs.map .str)
  .ok (answer do
    let i ← o.listVariables template
    let needed ← o.needsArguments template
    .ok [("arguments", names i.arguments),
      ("defaults", .mapping (i.defaults.map fun e => (.str e.1, e.2))),
      ("conditions", names i.conditions), ("needs_arguments", .bool needed)])

def renderStored (site : Site) (path : String) (fields : Fields) : Except BodyFault Response := do
  let args ← argumentsField fields "arguments"
  let strict ← truthField fields "strict" true
  .ok (answer do
    let template ← Templates.load site.files site.directory path
    let output ← (options strict).renderText template args
    .ok [("template", .str path), ("output", .str output)])

def listTemplates (site : Site) : Response :=
  ⟨200, document [("templates", .list ((Templates.list site.files site.directory).map .str))]⟩

def version : String := "1.0.0"

def health : Response := ⟨200, document [("status", .str "healthy"), ("version", .str version)]⟩

/-! ## Routes -/

/-- What a path asks for. -/
inductive Route
  | render
  | inputs
  | templates
  | template (path : String)
  | health
deriving DecidableEq, Repr

/-- A path without the line feed that it may end with. -/
def withoutLineFeed (path : String) : String :=
  if path.toList.getLast? = some '\n' then String.ofList path.toList.dropLast else path

/-- What a path asks for; none if it is unknown. A line feed at its end does not count, and no
template is asked for by a path with a line feed inside. -/
def Route.ofPath? (path : String) : Option Route :=
  let path := withoutLineFeed path
  if path = "/render" then some .render
  else if path = "/variables" then some .inputs
  else if path = "/templates" then some .templates
  else if path = "/health" then some .health
  else (Text.afterPhrase? "/templates/".toList path.toList).bind fun rest =>
    if rest.contains '\n' then none else some (.template (String.ofList rest))

def Route.method : Route → String
  | .render | .inputs | .template _ => "POST"
  | .templates | .health => "GET"

/-- The answer for a body. -/
def withBody (r : Request) (handler : Fields → Except BodyFault Response) : Response :=
  match do handler (← fieldsOf r.body) with
  | .ok response => response
  | .error f => bodyRefusal f

def Route.respond (site : Site) (r : Request) : Route → Response
  | .render => withBody r Service.render
  | .inputs => withBody r Service.inputs
  | .templates => listTemplates site
  | .template path => withBody r (renderStored site path)
  | .health => Service.health

/-- The path without the slashes at its end, or with one. -/
def otherSpelling (path : String) : String :=
  if path.toList.getLast? = some '/' then
    String.ofList (Text.dropEndWhile (· == '/') path.toList)
  else path ++ "/"

/-- What a path asks for, perhaps in its other spelling. -/
def routeFor? (path : String) : Option Route :=
  match Route.ofPath? path with
  | some route => some route
  | none => if path = "/" then none else Route.ofPath? (otherSpelling path)

def respond (site : Site) (r : Request) : Response :=
  match routeFor? r.path with
  | none => refusal 404 "Not Found"
  | some route =>
      if route.method = r.method.toUpper then route.respond site r
      else refusal 405 "Method Not Allowed"

end Stencil.Service
