import TokenGrammar.Matcher.Display
import TokenGrammar.Token.Tokenize

set_option autoImplicit false

/-! Log records: what the library tells about its work. A record keeps what it is about and is put
into words only where it is shown. -/

namespace TokenGrammar

inductive Level where
  | debug
  | trace
  deriving DecidableEq

namespace Level

def name : Level → String
  | debug => "DEBUG"
  | trace => "TRACE"

def keeps : Level → Level → Bool
  | debug, trace => false
  | _, _ => true

end Level

inductive Record where
  | tokenized (count : Nat) (file : String)
  | tried (matcher : Matcher) (position : Nat)
  | matched (matcher : Matcher) (position : Nat)
  | committed (position : Nat)

namespace Record

def ofTokens (settings : TokenizerSettings) (tokens : List Token) : Record :=
  tokenized tokens.length settings.fileId

def level : Record → Level
  | tokenized _ _ => .debug
  | tried _ _ => .trace
  | matched _ _ => .trace
  | committed _ => .debug

def text : Record → String
  | tokenized count file => "tokenized " ++ toString count ++ " tokens from " ++ file
  | tried matcher position => "try " ++ matcher.compact ++ " at " ++ toString position
  | matched matcher position => "ok " ++ matcher.compact ++ " at " ++ toString position
  | committed position => "commit at " ++ toString position

def origin : Record → String
  | tokenized _ _ => "syntax_match::lexing::lexer_impl"
  | _ => "syntax_match::matching::derivation"

def line (record : Record) : String :=
  record.level.name ++ " " ++ record.text

end Record

def logLines (level : Level) (records : List Record) : List String :=
  (records.filter (fun record => level.keeps record.level)).map Record.line

end TokenGrammar
