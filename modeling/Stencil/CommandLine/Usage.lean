import Stencil.Number.Numeral

/-!
# The words of a command

A command has one template and switches in any order. A switch has a long name, which can be cut
short as long as it stays the only one, and perhaps a letter; letters can be written together behind
one hyphen. The text of a switch follows it, or stands behind an equals sign or right behind its
letter. Behind two hyphens there are no more switches.
-/

namespace Stencil

/-- What a command asks for. -/
structure Command where
  template : String
  argumentFile : Option String
  assignments : List String
  strict : Bool
  trimBlocks : Bool
  list : Bool
  output : Option String
  verbose : Bool
deriving DecidableEq, Repr

namespace Command

open Stencil.Text

/-- Why there is no command to carry out. -/
inductive Stop
  /-- The words ask for an explanation. -/
  | help
  /-- The words are no command. -/
  | misuse
deriving DecidableEq, Repr

/-! ## Switches -/

inductive Switch
  | help | argumentFile | assignment | strict | trimBlocks | list | output | verbose
deriving DecidableEq, Repr

def switchNames : List (String × Switch) :=
  [("-h", .help), ("--help", .help), ("-a", .argumentFile), ("--args", .argumentFile),
    ("-s", .assignment), ("--set", .assignment), ("--strict", .strict),
    ("--trim-blocks", .trimBlocks), ("-l", .list), ("--list", .list), ("-o", .output),
    ("--output", .output), ("-v", .verbose), ("--verbose", .verbose)]

/-- Whether a switch comes with a text. -/
def Switch.takesText : Switch → Bool
  | .argumentFile | .assignment | .output => true
  | _ => false

/-! ## Words -/

inductive Word
  | plain (text : String)
  /-- Two hyphens. -/
  | noMoreSwitches
  /-- A switch with the text written in the same word, which is `joined` if it stands right behind
  the letter. -/
  | switch (s : Switch) (text : Option (List Char)) (joined : Bool)
  | unknown
deriving DecidableEq, Repr

/-- The parts of a word before and behind its first equals sign. -/
def atEquals (cs : List Char) : List Char × Option (List Char) :=
  let name := cs.takeWhile (· != '=')
  (name, (cs.drop name.length).tail?)

/-- The switches whose long names a word can be short for. -/
def longMatches (cs : List Char) : List Word :=
  let (name, text) := atEquals cs
  (switchNames.filter fun e => name.isPrefixOf e.1.toList).map fun e => .switch e.2 text false

/-- The switches whose letters a word can begin with. -/
def letterMatches (cs : List Char) : List Word :=
  (switchNames.filter fun e => e.1.toList == cs.take 2).map fun e =>
    .switch e.2 (some (cs.drop 2)) true

/-- Whether a word is a number behind a hyphen. One line end behind it does not count. -/
def isNegativeNumber (cs : List Char) : Bool :=
  match if cs.getLast? = some '\n' then cs.dropLast else cs with
  | '-' :: body =>
      let before := body.takeWhile isDigit
      match body.dropWhile isDigit with
      | [] => !before.isEmpty
      | '.' :: after => !after.isEmpty && after.all isDigit
      | _ => false
  | _ => false

/-- What a word is that stands before all double hyphens. A word that could be two switches is
refused. -/
def wordOf (s : String) : Except Stop Word :=
  let cs := s.toList
  match cs with
  | '-' :: second :: _ =>
      match switchNames.lookup s with
      | some switch => .ok (.switch switch none false)
      | none =>
          let (name, text) := atEquals cs
          match text, switchNames.lookup (String.ofList name) with
          | some text, some switch => .ok (.switch switch (some text) false)
          | _, _ =>
              match if second = '-' then longMatches cs else letterMatches cs with
              | [w] => .ok w
              | _ :: _ => .error .misuse
              | [] => .ok (if isNegativeNumber cs || cs.contains ' ' then .plain s else .unknown)
  | _ => .ok (.plain s)

def wordsOf : List String → Except Stop (List Word)
  | [] => .ok []
  | s :: rest =>
      if s = "--" then .ok (.noMoreSwitches :: rest.map .plain)
      else do .ok ((← wordOf s) :: (← wordsOf rest))

/-! ## The command -/

/-- How a word with switches ends. -/
inductive Ending
  /-- A switch, with its text if the word has one. -/
  | switch (s : Switch) (text : Option String)
  /-- A letter that names no switch. -/
  | leftOver
deriving DecidableEq, Repr

/-- The switches without texts that are written together in one word, and how the word ends. A
switch without a text takes nothing behind an equals sign and no hyphen. -/
def together (s : Switch) (joined : Bool) : List Char → Option (List Switch × Ending)
  | [] => if s.takesText then some ([], .switch s (some "")) else none
  | c :: cs =>
      if s.takesText then some ([], .switch s (some (String.ofList (c :: cs))))
      else if joined && c != '-' then
        match switchNames.lookup (String.ofList ['-', c]), cs with
        | none, _ => some ([s], .leftOver)
        | some next, [] => some ([s], .switch next none)
        | some next, '=' :: cs => (together next false cs).map fun (ss, ending) => (s :: ss, ending)
        | some next, cs => (together next true cs).map fun (ss, ending) => (s :: ss, ending)
      else none

/-- The switches in a word, and how the word ends. -/
def switchesOf (s : Switch) (joined : Bool) : Option (List Char) → Option (List Switch × Ending)
  | none => some ([], .switch s none)
  | some cs => together s joined cs

/-- What is known of a command. -/
structure Known where
  command : Command
  hasTemplate : Bool
  /-- Something was left over. -/
  hasMore : Bool

/-- The command with a switch turned on. -/
def Known.turnOn (p : Known) : Switch → Except Stop Known
  | .help => .error .help
  | .strict => .ok { p with command.strict := true }
  | .trimBlocks => .ok { p with command.trimBlocks := true }
  | .list => .ok { p with command.list := true }
  | .verbose => .ok { p with command.verbose := true }
  | _ => .error .misuse

/-- The command with the text of a switch. -/
def Known.withText (p : Known) (text : String) : Switch → Known
  | .argumentFile => { p with command.argumentFile := some text }
  | .assignment => { p with command.assignments := p.command.assignments ++ [text] }
  | .output => { p with command.output := some text }
  | _ => p

/-- The command that words add up to. -/
def collect (p : Known) : List Word → Except Stop Known
  | [] => .ok p
  | .noMoreSwitches :: .plain s :: rest =>
      if p.hasTemplate then collect { p with hasMore := true } rest
      else collect { p with command.template := s, hasTemplate := true } rest
  | .noMoreSwitches :: rest => collect { p with hasMore := true } rest
  | .plain s :: .noMoreSwitches :: rest =>
      if p.hasTemplate then collect { p with hasMore := true } rest
      else collect { p with command.template := s, hasTemplate := true } rest
  | .plain s :: rest =>
      if p.hasTemplate then collect { p with hasMore := true } rest
      else collect { p with command.template := s, hasTemplate := true } rest
  | .unknown :: rest => collect { p with hasMore := true } rest
  | .switch s text joined :: rest =>
      match switchesOf s joined text with
      | none => .error .misuse
      | some (ss, .leftOver) => do
          collect { (← ss.foldlM Known.turnOn p) with hasMore := true } rest
      | some (ss, .switch last text) =>
          match last.takesText, text, rest with
          | true, some text, rest => do
              collect ((← ss.foldlM Known.turnOn p).withText text last) rest
          | true, none, .plain text :: rest => do
              collect ((← ss.foldlM Known.turnOn p).withText text last) rest
          | true, none, _ => .error .misuse
          | false, _, rest => do collect (← (← ss.foldlM Known.turnOn p).turnOn last) rest

/-- The command that some words are. -/
def ofWords (words : List String) : Except Stop Command := do
  let ws ← wordsOf words
  let p ← collect ⟨⟨"", none, [], false, false, false, none, false⟩, false, false⟩ ws
  if p.hasTemplate && !p.hasMore then .ok p.command else .error .misuse

end Command

end Stencil
