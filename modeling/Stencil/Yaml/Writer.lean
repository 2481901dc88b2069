import Stencil.Yaml.Page
import Stencil.Yaml.Represent

/-!
# Writing documents

Sequences and mappings have a line for each item and entry, indented by two spaces per level; the
items of a sequence that is the value of an entry stand under the key. What is empty is written in
brackets. A key on one line is written in front of its colon; any other key has a line of its own
behind a question mark.
-/

namespace Stencil.Yaml.Writer

/-- The indentation inside of another, which is none around the whole document. -/
def deeper : Option Nat → Nat
  | none => 0
  | some n => n + 2

/-- The indentation of the further lines of a text. -/
def textIndent : Option Nat → Nat
  | none => 2
  | some n => n + 2

def shortTag (t : Tag) : List Char :=
  match t with
  | .other s => s.toList
  | t => "!!".toList ++ (((Tag.standardNames.find? fun e => e.2 == t).map (·.1)).getD "").toList

/-- A text with its tag, which is only written where the style of the text does not show it. Bytes
are a block of lines. -/
def scalar (indent : Option Nat) (isKey : Bool) (tag : Tag) (s : String) (p : Page) : Page :=
  let cs := s.toList
  let style := Style.ofText cs
  let i := textIndent indent
  let tagged := fun (p : Page) => if tag = .str then p else p.mark (shortTag tag)
  if tag = .binary then
    if style.block && !isKey then (tagged p).putBlock i cs else (tagged p).putDouble i (!isKey) cs
  else if Tag.ofPlain s = tag ∧ style.plain ∧ !(isKey && cs.isEmpty) then
    { p.putPlain i (!isKey) cs with endsPlain := indent.isNone }
  else if style.single && !(isKey && style.severalLines) then (tagged p).putSingle i (!isKey) cs
  else (tagged p).putDouble i (!isKey) cs

/-- Whether a part can stand on one line in front of a colon. -/
def isSimpleKey : Node → Bool
  | .scalar t s =>
      s.length + (shortTag t).length < 128 && !s.isEmpty && !(Style.ofText s.toList).severalLines
  | .sequence _ xs => xs.isEmpty
  | .mapping _ es => es.isEmpty

mutual

/-- A part of a document. `inEntry` says that it is the key or the value of an entry. -/
def node (indent : Option Nat) (inEntry : Bool) : Node → Page → Page
  | .scalar t s, p => scalar indent false t s p
  | .sequence t xs, p =>
      let p := if t = .seq then p else p.mark (shortTag t)
      if xs.isEmpty then p.mark ['[', ']']
      else
        let i := match indent with
          | some n => if inEntry && !p.isOpen then n else n + 2
          | none => 0
        items i xs p
  | .mapping t es, p =>
      let p := if t = .map then p else p.mark (shortTag t)
      if es.isEmpty then p.mark ['\x7b', '\x7d'] else entries (deeper indent) es p

def items (indent : Nat) : List Node → Page → Page
  | [], p => p
  | x :: xs, p => items indent xs (node (some indent) false x ((p.startLine indent).itemMark '-'))

def entries (indent : Nat) : List (Node × Node) → Page → Page
  | [], p => p
  | (k, v) :: rest, p =>
      let p := p.startLine indent
      let p :=
        if isSimpleKey k then
          (match k with
            | .scalar t s => scalar (some indent) true t s p
            | k => node (some indent) true k p).joinMark [':']
        else ((node (some indent) true k (p.itemMark '?')).startLine indent).itemMark ':'
      entries indent rest (node (some indent) true v p)

end

def document (n : Node) : List Char :=
  let p := (node none false n .empty).startLine 0
  let p := if p.endsPlain then (p.mark ['.', '.', '.']).startLine 0 else p
  p.written.reverse

end Stencil.Yaml.Writer

namespace Stencil.Yaml

/-- The document that a value is written as. -/
def write (v : Value) : Except Failure (List Char) := (Represent.node v).map Writer.document

end Stencil.Yaml
