import Stencil.Yaml.Tag
import Stencil.Yaml.Token

/-!
# The parts of a document

A part is a text, a sequence of parts or a mapping between parts, and has a tag. The tokens of a
document give one part; an alias stands for the part that was named by its anchor before, so a part
cannot stand inside of itself.
-/

namespace Stencil.Yaml

inductive Node
  | scalar (tag : Tag) (text : String)
  | sequence (tag : Tag) (items : List Node)
  | mapping (tag : Tag) (entries : List (Node × Node))

namespace Node

/-- The part that stands where nothing is written. -/
def nothing : Node := .scalar .null ""

instance : Inhabited Node := ⟨nothing⟩

/-- What has been read of a document: the tokens that are left, the parts with names, none for a
part that is not finished, and the meanings of handles. -/
structure Reading where
  rest : List Token
  names : List (String × Option Node)
  handles : List (String × String)

/-- The handles that every document has. -/
def standardHandles : List (String × String) := [("!", "!"), ("!!", Tag.standardLead)]

namespace Reading

def peek (r : Reading) : Token := r.rest.head?.getD .streamEnd

def skip (r : Reading) : Reading := { r with rest := r.rest.drop 1 }

/-- Whether the next token is one of some. -/
def isAt (r : Reading) (ts : List Token) : Bool := ts.contains r.peek

/-- Behind a token that has to come next. -/
def expect (t : Token) (r : Reading) : Except Failure Reading :=
  if r.peek = t then .ok r.skip else .error .notYaml

/-- With a name for a part that is about to be read. A name can be given once. -/
def announce (name : Option String) (r : Reading) : Except Failure Reading :=
  match name with
  | none => .ok r
  | some n =>
      if (r.names.lookup n).isSome then .error .notYaml
      else .ok { r with names := (n, none) :: r.names }

/-- With the part that a name stands for. -/
def define (name : Option String) (node : Node) (r : Reading) : Reading :=
  match name with
  | none => r
  | some n => { r with names := (n, some node) :: r.names }

end Reading

/-! ## Properties -/

/-- An anchor and a tag in front of a part. -/
structure Properties where
  anchor : Option String
  tag : Option (Option String × String)

/-- The anchor and the tag at hand, in either order. -/
def properties (r : Reading) : Properties × Reading :=
  match r.peek with
  | .anchor name =>
      match r.skip.peek with
      | .tag handle rest => (⟨some name, some (handle, rest)⟩, r.skip.skip)
      | _ => (⟨some name, none⟩, r.skip)
  | .tag handle rest =>
      match r.skip.peek with
      | .anchor name => (⟨some name, some (handle, rest)⟩, r.skip.skip)
      | _ => (⟨none, some (handle, rest)⟩, r.skip)
  | _ => (⟨none, none⟩, r)

/-- A tag in full; none if there is none. -/
def fullTag (handles : List (String × String)) :
    Option (Option String × String) → Except Failure (Option String)
  | none => .ok none
  | some (none, rest) => .ok (some rest)
  | some (some handle, rest) =>
      match handles.lookup handle with
      | some lead => .ok (some (lead ++ rest))
      | none => .error .notYaml

/-- The tag of a text. An exclamation mark by itself asks for the tag that the form shows. -/
def scalarTag (tag : Option String) (plain : Bool) (text : String) : Tag :=
  match tag with
  | none => if plain then Tag.ofPlain text else .str
  | some "!" => Tag.ofPlain text
  | some t => Tag.ofText t

/-- The tag of a sequence or a mapping. -/
def collectionTag (usual : Tag) : Option String → Tag
  | none | some "!" => usual
  | some t => Tag.ofText t

/-! ## Reading parts -/

mutual

/-- The part at hand. Block parts may begin here if `block`, and a sequence without an indentation
of its own if `indentless`. -/
def read (block indentless : Bool) : (fuel : Nat) → Reading → Except Failure (Node × Reading)
  | 0, _ => .error .notYaml
  | fuel + 1, r =>
      match r.peek with
      | .alias name =>
          match r.names.lookup name with
          | some (some node) => .ok (node, r.skip)
          | _ => .error .notYaml
      | _ => do
          let (p, r) := properties r
          let tag ← fullTag r.handles p.tag
          let (node, r) ← content block indentless tag (p.anchor.isSome || tag.isSome) fuel
            (← r.announce p.anchor)
          .ok (node, r.define p.anchor node)

/-- The part at hand behind its properties. It may be missing where there are properties. -/
def content (block indentless : Bool) (tag : Option String) (mayBeMissing : Bool) :
    (fuel : Nat) → Reading → Except Failure (Node × Reading)
  | 0, _ => .error .notYaml
  | fuel + 1, r =>
      let sequence := fun (items : Except Failure (List Node × Reading)) =>
        items.map fun (xs, r) => (Node.sequence (collectionTag .seq tag) xs, r)
      let mapping := fun (entries : Except Failure (List (Node × Node) × Reading)) =>
        entries.map fun (es, r) => (Node.mapping (collectionTag .map tag) es, r)
      if indentless && r.peek == .blockEntry then sequence (indentlessItems fuel r)
      else match r.peek with
        | .scalar text plain => .ok (.scalar (scalarTag tag plain text) text, r.skip)
        | .flowSequence => sequence (flowItems true fuel r.skip)
        | .flowMapping => mapping (flowEntries true fuel r.skip)
        | .blockSequence =>
            if block then sequence (blockItems fuel r.skip) else missing tag mayBeMissing r
        | .blockMapping =>
            if block then mapping (blockEntries fuel r.skip) else missing tag mayBeMissing r
        | _ => missing tag mayBeMissing r

/-- The text that is read where only properties are written. -/
def missing (tag : Option String) (mayBeMissing : Bool) (r : Reading) :
    Except Failure (Node × Reading) :=
  if mayBeMissing then .ok (.scalar (scalarTag tag true "") "", r) else .error .notYaml

/-- The part at hand, or nothing if one of some tokens comes next. -/
def readUnless (ends : List Token) (block indentless : Bool) :
    (fuel : Nat) → Reading → Except Failure (Node × Reading)
  | 0, _ => .error .notYaml
  | fuel + 1, r => if r.isAt ends then .ok (nothing, r) else read block indentless fuel r

def blockItems : (fuel : Nat) → Reading → Except Failure (List Node × Reading)
  | 0, _ => .error .notYaml
  | fuel + 1, r =>
      if r.peek = .blockEntry then do
        let (x, r) ← readUnless [.blockEntry, .blockEnd] true false fuel r.skip
        let (xs, r) ← blockItems fuel r
        .ok (x :: xs, r)
      else do .ok ([], ← r.expect .blockEnd)

/-- The items of a sequence without an indentation of its own. -/
def indentlessItems : (fuel : Nat) → Reading → Except Failure (List Node × Reading)
  | 0, _ => .error .notYaml
  | fuel + 1, r =>
      if r.peek = .blockEntry then do
        let (x, r) ← readUnless [.blockEntry, .key, .value, .blockEnd] true false fuel r.skip
        let (xs, r) ← indentlessItems fuel r
        .ok (x :: xs, r)
      else .ok ([], r)

/-- The value of a block mapping at hand, nothing if there is no colon. -/
def blockValue : (fuel : Nat) → Reading → Except Failure (Node × Reading)
  | 0, _ => .error .notYaml
  | fuel + 1, r =>
      if r.peek = .value then readUnless [.key, .value, .blockEnd] true true fuel r.skip
      else .ok (nothing, r)

def blockEntries : (fuel : Nat) → Reading → Except Failure (List (Node × Node) × Reading)
  | 0, _ => .error .notYaml
  | fuel + 1, r =>
      if r.peek = .key then do
        let (k, r) ← readUnless [.key, .value, .blockEnd] true true fuel r.skip
        let (v, r) ← blockValue fuel r
        let (es, r) ← blockEntries fuel r
        .ok ((k, v) :: es, r)
      else do .ok ([], ← r.expect .blockEnd)

/-- The value inside brackets at hand, nothing if there is no colon. -/
def flowValue (close : Token) : (fuel : Nat) → Reading → Except Failure (Node × Reading)
  | 0, _ => .error .notYaml
  | fuel + 1, r =>
      if r.peek = .value then readUnless [.flowEntry, close] false false fuel r.skip
      else .ok (nothing, r)

/-- The items of a sequence in brackets. A key makes an item a mapping of one entry. -/
def flowItems (isFirst : Bool) : (fuel : Nat) → Reading → Except Failure (List Node × Reading)
  | 0, _ => .error .notYaml
  | fuel + 1, r =>
      if r.peek = .flowSequenceEnd then .ok ([], r.skip)
      else do
        let r ← if isFirst then .ok r else r.expect .flowEntry
        if r.peek = .flowSequenceEnd then .ok ([], r.skip)
        else if r.peek = .key then do
          let (k, r) ← readUnless [.value, .flowEntry, .flowSequenceEnd] false false fuel r.skip
          let (v, r) ← flowValue .flowSequenceEnd fuel r
          let (xs, r) ← flowItems false fuel r
          .ok (.mapping .map [(k, v)] :: xs, r)
        else do
          let (x, r) ← read false false fuel r
          let (xs, r) ← flowItems false fuel r
          .ok (x :: xs, r)

def flowEntries (isFirst : Bool) :
    (fuel : Nat) → Reading → Except Failure (List (Node × Node) × Reading)
  | 0, _ => .error .notYaml
  | fuel + 1, r =>
      if r.peek = .flowMappingEnd then .ok ([], r.skip)
      else do
        let r ← if isFirst then .ok r else r.expect .flowEntry
        if r.peek = .flowMappingEnd then .ok ([], r.skip)
        else do
          let isKey := r.peek == .key
          let (k, r) ←
            if isKey then readUnless [.value, .flowEntry, .flowMappingEnd] false false fuel r.skip
            else read false false fuel r
          let (v, r) ← if isKey then flowValue .flowMappingEnd fuel r else .ok (nothing, r)
          let (es, r) ← flowEntries false fuel r
          .ok ((k, v) :: es, r)

end

/-! ## Documents -/

def directives : List Token → (hasVersion : Bool) → (handles : List (String × String)) →
    Except Failure (List (String × String) × List Token)
  | .version major :: ts, hasVersion, handles =>
      if hasVersion || major != 1 then .error .notYaml else directives ts true handles
  | .tagPrefix handle lead :: ts, hasVersion, handles =>
      if (handles.lookup handle).isSome then .error .notYaml
      else directives ts hasVersion ((handle, lead) :: handles)
  | .otherDirective :: ts, hasVersion, handles => directives ts hasVersion handles
  | ts, _, handles => .ok (handles ++ standardHandles, ts)

def isDirective : Token → Bool
  | .version _ | .tagPrefix .. | .otherDirective => true
  | _ => false

/-- Behind the marks for the end of a document. -/
def dropEnds (ts : List Token) : List Token := ts.dropWhile (· == .documentEnd)

/-- The part that the tokens of a text are; none if they hold no document. There may be only one. -/
def ofTokens? (ts : List Token) : Except Failure (Option Node) := do
  let fuel := 4 * ts.length + 8
  let first := ts.head?.getD .streamEnd
  let isExplicit := isDirective first || first == .documentStart || first == .streamEnd
  let (node, rest) ←
    if !isExplicit then do
      let (node, r) ← read true false fuel ⟨ts, [], standardHandles⟩
      .ok (some node, r.rest)
    else if first == .streamEnd then .ok (none, ts)
    else do
      let (handles, ts) ← directives ts false []
      let r ← (⟨ts, [], handles⟩ : Reading).expect .documentStart
      let isEmpty := isDirective r.peek || r.isAt [.documentStart, .documentEnd, .streamEnd]
      if isEmpty then .ok (some nothing, r.rest)
      else do
        let (node, r) ← read true false fuel r
        .ok (some node, r.rest)
  if dropEnds rest = [.streamEnd] then .ok node else .error .notYaml

end Node

end Stencil.Yaml
