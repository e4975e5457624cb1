import TokenGrammar.Text.Quoted
import TokenGrammar.Token.Lexeme

set_option autoImplicit false

/-! Tokenizing: the lexemes of a source text are placed one after the other and become tokens with
byte spans. The only failure is a string that is never closed; it is reported at the end of the
source with the characters before that point. -/

namespace TokenGrammar

structure TokenizerSettings where
  fileId : String := "."
  snippetRadius : Nat := 20
  deriving DecidableEq

/-! ### Failures -/

def lastCharacters (count : Nat) (text : List Char) : List Char :=
  text.drop (text.length - count)

def snippetBetween (radius : Nat) (before after : List Char) : List Char :=
  lastCharacters radius before ++ after.take radius

/-- The byte offset at which the context of a point starts, if `before` is the text in front of the
point. Reversed, the first offset is that of the last character. -/
def snippetStart (radius : Nat) (before : List Char) : Nat :=
  if radius = 0 then Text.byteLength before
  else (Text.offsets 0 before).reverse[radius - 1]?.getD 0

def snippetStop (radius point : Nat) (after : List Char) : Nat :=
  (Text.offsets point after)[radius]?.getD (point + Text.byteLength after)

/-- The context of a byte offset. An offset past the end counts as the end; an offset inside a
character has no context. -/
def snippetAround? (source : List Char) (offset radius : Nat) : Option (List Char) := do
  let point := min offset (Text.byteLength source)
  let (before, after) ← Text.splitAtByte? point source
  Text.slice? (snippetStart radius before) (snippetStop radius point after) source

structure TokenizeError where
  detail : String
  offset : Nat
  snippet : String
  file : String
  deriving DecidableEq

namespace TokenizeError

def message (error : TokenizeError) : String :=
  "Lexer error in " ++ error.file ++ " at " ++ toString error.offset ++ " near " ++
    String.ofList (Text.quoted error.snippet.toList) ++ ": " ++ error.detail

/-- The failure at a byte offset; an offset inside a character is a fault. The offset is reported as
it is given, also where it lies past the end. -/
def around (detail : String) (source : List Char) (offset radius : Nat) (file : String) :
    Except Fault TokenizeError :=
  match snippetAround? source offset radius with
  | some snippet => .ok { detail, offset, snippet := String.ofList snippet, file }
  | none => .error .offBoundary

def unclosed (settings : TokenizerSettings) (source : List Char) (openedAt : Nat) :
    TokenizeError :=
  { detail := "unterminated string literal opened at " ++ toString openedAt
    offset := Text.byteLength source
    snippet := String.ofList (snippetBetween settings.snippetRadius source [])
    file := settings.fileId }

end TokenizeError

/-! ### Tokens -/

def Lexeme.place (file : String) (offset : Nat) (lexeme : Lexeme) : Token :=
  { kind := lexeme.kind
    text := String.ofList lexeme.text
    span :=
      { start := offset
        stop := offset + Text.byteLength lexeme.raw
        file } }

def placeAll (file : String) : Nat → List Lexeme → List Token
  | _, [] => []
  | offset, lexeme :: later =>
      lexeme.place file offset :: placeAll file (offset + Text.byteLength lexeme.raw) later

def tokenize (settings : TokenizerSettings) (source : List Char) :
    Except TokenizeError (List Token) :=
  let cut := Lexeme.cut source
  if cut.unread = [] then .ok (placeAll settings.fileId 0 cut.lexemes)
  else
    .error (TokenizeError.unclosed settings source
      (Text.byteLength source - Text.byteLength cut.unread))

end TokenGrammar
