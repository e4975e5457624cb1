import TokenGrammar.Fault
import TokenGrammar.Text.Bytes

set_option autoImplicit false

/-! Tokens: a kind, a text and the span of bytes that the token covers in a named file. For a string
literal the text is the decoded content, so it may differ from the characters under the span. -/

namespace TokenGrammar

inductive TokenKind where
  | space
  | number
  | identifier
  | string
  | operator
  deriving DecidableEq

namespace TokenKind

def all : List TokenKind := [space, number, identifier, string, operator]

def name : TokenKind → String
  | space => "SPACE"
  | number => "NUMBER"
  | identifier => "IDENTIFIER"
  | string => "STRING"
  | operator => "OPERATOR"

def label : TokenKind → String
  | space => "space"
  | number => "number"
  | identifier => "identifier"
  | string => "string"
  | operator => "operator"

def title : TokenKind → String
  | space => "Space"
  | number => "Number"
  | identifier => "Identifier"
  | string => "String"
  | operator => "Operator"

def ofLabel? (label : String) : Option TokenKind :=
  all.find? (fun kind => kind.label == label)

end TokenKind

/-- Two byte offsets in a named file. Nothing keeps the first one from lying behind the second. -/
structure Span where
  start : Nat
  stop : Nat
  file : String
  deriving DecidableEq

/-- A span that covers a range of bytes, which may be empty. -/
structure OrderedSpan extends Span where
  start_le_stop : start ≤ stop

instance : Coe OrderedSpan Span :=
  ⟨OrderedSpan.toSpan⟩

def OrderedSpan.length (span : OrderedSpan) : Nat :=
  span.stop - span.start

namespace Span

def between (start stop : Nat) (file : String) : Except Fault OrderedSpan :=
  if ordered : start ≤ stop then .ok ⟨⟨start, stop, file⟩, ordered⟩
  else .error (.spanReversed start stop)

def isEmpty (span : Span) : Bool :=
  span.start == span.stop

/-- The source characters under the span; a bound that is no character boundary is a fault. -/
def slice (span : Span) (source : List Char) : Except Fault (List Char) :=
  match Text.slice? span.start span.stop source with
  | some characters => .ok characters
  | none => .error .offBoundary

end Span

structure Token where
  kind : TokenKind
  text : String
  span : Span
  deriving DecidableEq

namespace Token

def isSpace (token : Token) : Bool :=
  token.kind == .space

def isOperator (token : Token) (text : String) : Bool :=
  token.kind == .operator && token.text == text

end Token

def withoutSpaces (tokens : List Token) : List Token :=
  tokens.filter (fun token => !token.isSpace)

end TokenGrammar
