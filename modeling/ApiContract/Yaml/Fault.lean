import ApiContract.Text.Ascii

/-!
# Faults of YAML text

A fault of YAML text is a problem at a mark.  Most faults also tell what was being
read, and where that began.
-/

namespace ApiContract.Yaml

/-- A place in a text: how many characters stand before it, and its line and column,
both counted from zero. -/
structure Mark where
  index : Nat := 0
  line : Nat := 0
  column : Nat := 0
  deriving DecidableEq

/-- The mark after some characters of the same line. -/
def Mark.plus (mark : Mark) (count : Nat) : Mark :=
  { mark with index := mark.index + count, column := mark.column + count }

/-- The mark after a line break of some characters. -/
def Mark.nextLine (mark : Mark) (count : Nat) : Mark :=
  ⟨mark.index + count, mark.line + 1, 0⟩

/-- The mark is on the first line at its start. -/
def Mark.isStart (mark : Mark) : Bool :=
  mark.line == 0 && mark.column == 0

/-- The two marks name the same line and column. -/
def Mark.sameSpot (left right : Mark) : Bool :=
  left.line == right.line && left.column == right.column

/-- The line and column of a mark, counted from one. -/
def Mark.text (mark : Mark) : String :=
  s!"line {Text.decimalText (mark.line + 1)} column {Text.decimalText (mark.column + 1)}"

/-- What is wrong with a text. -/
inductive Problem where
  | colonExpected
  | noTokenStart
  | misplacedItem
  | misplacedKey
  | misplacedValue
  | directiveNameExpected
  | directiveNameEnd
  | unknownDirective
  | lineEndExpected
  | versionNumberExpected
  | versionNumberLength
  | versionSeparatorExpected
  | blankExpected
  | blankOrBreakExpected
  | nameExpected
  | angleExpected
  | exclamationExpected
  | locatorExpected
  | octetExpected
  | leadingOctet
  | trailingOctet
  | zeroIndentation
  | tabInIndentation
  | documentMarkInQuotes
  | endInQuotes
  | unknownEscape
  | escapeDigitsExpected
  | escapeOutOfRange
  | colonInFlow
  | tabBeforeText
  | documentStartExpected
  | repeatedVersion
  | unsupportedVersion
  | repeatedHandle
  | undefinedHandle
  | contentExpected
  | dashExpected
  | keyExpected
  | bracketExpected
  | braceExpected

/-- The wording of a problem. -/
def Problem.text : Problem → String
  | .colonExpected => "could not find expected ':'"
  | .noTokenStart => "found character that cannot start any token"
  | .misplacedItem => "block sequence entries are not allowed in this context"
  | .misplacedKey => "mapping keys are not allowed in this context"
  | .misplacedValue => "mapping values are not allowed in this context"
  | .directiveNameExpected => "could not find expected directive name"
  | .directiveNameEnd => "found unexpected non-alphabetical character"
  | .unknownDirective => "found unknown directive name"
  | .lineEndExpected => "did not find expected comment or line break"
  | .versionNumberExpected => "did not find expected version number"
  | .versionNumberLength => "found extremely long version number"
  | .versionSeparatorExpected => "did not find expected digit or '.' character"
  | .blankExpected => "did not find expected whitespace"
  | .blankOrBreakExpected => "did not find expected whitespace or line break"
  | .nameExpected => "did not find expected alphabetic or numeric character"
  | .angleExpected => "did not find the expected '>'"
  | .exclamationExpected => "did not find expected '!'"
  | .locatorExpected => "did not find expected tag URI"
  | .octetExpected => "did not find URI escaped octet"
  | .leadingOctet => "found an incorrect leading UTF-8 octet"
  | .trailingOctet => "found an incorrect trailing UTF-8 octet"
  | .zeroIndentation => "found an indentation indicator equal to 0"
  | .tabInIndentation => "found a tab character where an indentation space is expected"
  | .documentMarkInQuotes => "found unexpected document indicator"
  | .endInQuotes => "found unexpected end of stream"
  | .unknownEscape => "found unknown escape character"
  | .escapeDigitsExpected => "did not find expected hexdecimal number"
  | .escapeOutOfRange => "found invalid Unicode character escape code"
  | .colonInFlow => "found unexpected ':'"
  | .tabBeforeText => "found a tab character that violates indentation"
  | .documentStartExpected => "did not find expected <document start>"
  | .repeatedVersion => "found duplicate %YAML directive"
  | .unsupportedVersion => "found incompatible YAML document"
  | .repeatedHandle => "found duplicate %TAG directive"
  | .undefinedHandle => "found undefined tag handle"
  | .contentExpected => "did not find expected node content"
  | .dashExpected => "did not find expected '-' indicator"
  | .keyExpected => "did not find expected key"
  | .bracketExpected => "did not find expected ',' or ']'"
  | .braceExpected => "did not find expected ',' or '\x7d'"

/-- What was being read when a problem arose. -/
inductive Activity where
  | scanningKey
  | scanningToken
  | scanningDirective
  | scanningVersion
  | scanningHandleDirective
  | scanningHandleOfDirective
  | parsingHandleOfDirective
  | parsingHandlePrefix
  | scanningAnchor
  | scanningAlias
  | scanningTag
  | parsingTag
  | scanningBlockText
  | scanningQuotedText
  | parsingQuotedText
  | scanningPlainText
  | parsingNode
  | parsingBlockNode
  | parsingFlowNode
  | parsingBlockSequence
  | parsingBlockMapping
  | parsingFlowSequence
  | parsingFlowMapping

/-- The wording of an activity. -/
def Activity.text : Activity → String
  | .scanningKey => "while scanning a simple key"
  | .scanningToken => "while scanning for the next token"
  | .scanningDirective => "while scanning a directive"
  | .scanningVersion => "while scanning a %YAML directive"
  | .scanningHandleDirective => "while scanning a %TAG directive"
  | .scanningHandleOfDirective => "while scanning a tag directive"
  | .parsingHandleOfDirective => "while parsing a tag directive"
  | .parsingHandlePrefix => "while parsing a %TAG directive"
  | .scanningAnchor => "while scanning an anchor"
  | .scanningAlias => "while scanning an alias"
  | .scanningTag => "while scanning a tag"
  | .parsingTag => "while parsing a tag"
  | .scanningBlockText => "while scanning a block scalar"
  | .scanningQuotedText => "while scanning a quoted scalar"
  | .parsingQuotedText => "while parsing a quoted scalar"
  | .scanningPlainText => "while scanning a plain scalar"
  | .parsingNode => "while parsing a node"
  | .parsingBlockNode => "while parsing a block node"
  | .parsingFlowNode => "while parsing a flow node"
  | .parsingBlockSequence => "while parsing a block collection"
  | .parsingBlockMapping => "while parsing a block mapping"
  | .parsingFlowSequence => "while parsing a flow sequence"
  | .parsingFlowMapping => "while parsing a flow mapping"

/-- A fault in the form of a text. -/
structure SyntaxFault where
  problem : Problem
  mark : Mark
  context : Option (Activity × Mark) := none

/-- A mark after the word `at`, unless it is the start of the text. -/
def Mark.suffix (mark : Mark) : String :=
  if mark.isStart then "" else " at " ++ mark.text

/-- The wording of a fault. Where the activity began is told only if it is not where
the problem is. -/
def SyntaxFault.message (fault : SyntaxFault) : String :=
  let context :=
    match fault.context with
    | none => ""
    | some (activity, mark) =>
        ", " ++ activity.text ++ (if mark.sameSpot fault.mark then "" else mark.suffix)
  fault.problem.text ++ fault.mark.suffix ++ context

end ApiContract.Yaml
