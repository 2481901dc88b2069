import Stencil.Failure
import Stencil.Regex.Reader

/-!
# Tag syntax

What tags look like is said by five regular expressions: for variables, for the three block tags and
for comments. Each is kept with the text it was written as. The variable expression names its parts
`name`, `default`, `filter`, `filter_name` and `filter_args`, the one for conditions names its
`condition`. In the standard syntax a block tag takes the line end behind it with it.
-/

namespace Stencil

/-- A regular expression and the text it was written as. -/
structure TagPattern where
  source : String
  regex : Regex

/-- The expressions for every sort of tag. -/
structure Patterns where
  variableTag : TagPattern
  ifTag : TagPattern
  elseTag : TagPattern
  endifTag : TagPattern
  comment : TagPattern

namespace TagPattern

/-- The expression that matches nothing. -/
def never : Regex := .oneOf []

/-- The pattern that a text spells. A text that spells none finds nothing. -/
def ofSource (source : String) : TagPattern := ⟨source, (Regex.read? source.toList).getD never⟩

open Regex

/-! ## The standard syntax -/

/-- At most one blank. -/
def gap : Regex := .optional .blank

def nameChars : List Member :=
  [.range 'A' 'Z', .range 'a' 'z', .range '0' '9', .one '_']

def nameWord : Regex := .some1 (.oneOf nameChars)

/-- A quoted text within a line. -/
def quotedInLine (q : Char) : Regex :=
  .all [.one (.one q), .many (.noneOf [.one q, .one '\n']), .one (.one q)]

def reserved : Regex :=
  .all [.first [.literal "if".toList, .literal "else".toList, .literal "endif".toList],
    .wordEdge false]

/-- A default: an equals sign and a quoted text, or else as little as possible. -/
def defaultPart : Regex :=
  .all [.one (.one '='),
    .first [quotedInLine '"', quotedInLine '\'', .all [.manyLazy (.noneOf [.one '|', .one '\n'])]]]

/-- A filter: a bar, its name, and behind a colon its arguments. -/
def filterPart : Regex :=
  .all [.one (.one '|'), .group "filter_name" (.all [nameWord]),
    .optional (.all [.one (.one ':'),
      .group "filter_args" (.all [.manyLazy (.noneOf [.one '\n'])])])]

def standardVariable : TagPattern where
  source := "<%\\s?(?P<name>(?!(?:if|else|endif)\\b)[A-Za-z0-9_]+)" ++
    "(?P<default>=(?:\"[^\"\\n]*\"|\\'[^\\'\\n]*\\'|[^|\\n]*?))?" ++
    "(?P<filter>\\|(?P<filter_name>[A-Za-z0-9_]+)(?::(?P<filter_args>[^\\n]*?))?)?" ++
    "\\s?%>"
  regex := .all [.one (.one '<'), .one (.one '%'), gap,
    .group "name" (.all [.ahead true reserved, nameWord]),
    .optional (.group "default" defaultPart),
    .optional (.group "filter" filterPart),
    gap, .one (.one '%'), .one (.one '>')]

/-- A line end that belongs to the tag in front of it. -/
def lineEnd : Regex :=
  .optional (.all [.optional (.one (.one '\r')), .one (.one '\n')])

def standardIf : TagPattern where
  source := "<%\\s?if\\s(?P<condition>.+?)\\s?%>(?:\\r?\\n)?"
  regex := .all [.one (.one '<'), .one (.one '%'), gap, .one (.one 'i'), .one (.one 'f'), .blank,
    .group "condition" (.all [.some1Lazy (.one .inLine)]), gap, .one (.one '%'), .one (.one '>'),
    lineEnd]

/-- A block tag of one word. -/
def wordTag (word : List Char) : Regex :=
  .all ([.one (.one '<'), .one (.one '%'), gap] ++ word.map (fun c => .one (.one c)) ++
    [gap, .one (.one '%'), .one (.one '>'), lineEnd])

/-- The tag between the two branches of a block. -/
def standardElse : TagPattern where
  source := "<%\\s?else\\s?%>(?:\\r?\\n)?"
  regex := wordTag "else".toList

/-- The closing tag of a block. -/
def standardEndif : TagPattern where
  source := "<%\\s?endif\\s?%>(?:\\r?\\n)?"
  regex := wordTag "endif".toList

/-- Comments. The first closer ends one, and openers inside are text. -/
def standardComment : TagPattern where
  source := "(?s)<#\\s?(?P<comment>.*?)\\s?#>"
  regex := .all [.one (.one '<'), .one (.one '#'), gap,
    .group "comment" (.all [.manyLazy (.one .every)]), gap, .one (.one '#'), .one (.one '>')]

end TagPattern

/-- The standard syntax. -/
def Patterns.standard : Patterns where
  variableTag := .standardVariable
  ifTag := .standardIf
  elseTag := .standardElse
  endifTag := .standardEndif
  comment := .standardComment

end Stencil
