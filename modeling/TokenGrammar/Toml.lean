set_option autoImplicit false

/-! TOML documents: what a document says once it has been read. Tables keep the order in which their
keys first occur. -/

namespace TokenGrammar.Toml

inductive Item where
  | text (value : String)
  | integer (value : Int)
  | float (value : Float)
  | boolean (value : Bool)
  | moment (spelling : String)
  | array (items : List Item)
  | table (entries : List (String × Item))

/-! ### Classes of characters -/

def isBlank (character : Char) : Bool :=
  character == ' ' || character == '\t'

def isForeign (character : Char) : Bool :=
  0x80 ≤ character.toNat

def isCommentCharacter (character : Char) : Bool :=
  character == '\t' || (0x20 ≤ character.toNat && character.toNat ≤ 0x7E) || isForeign character

def isBareKeyCharacter (character : Char) : Bool :=
  character.isAlphanum || character == '_' || character == '-'

/-! ### Blanks, line ends and comments -/

def skipBlanks (source : List Char) : List Char :=
  source.dropWhile isBlank

def lineEnd? : List Char → Option (List Char)
  | '\n' :: rest => some rest
  | '\r' :: '\n' :: rest => some rest
  | _ => none

def lineTail? (source : List Char) : Option (List Char) :=
  let unblanked := skipBlanks source
  let rest :=
    match unblanked with
    | '#' :: comment => comment.dropWhile isCommentCharacter
    | other => other
  if rest.isEmpty then some [] else lineEnd? rest

/-- What follows any blanks, line ends and comments; `inComment` says whether the text starts inside
a comment. -/
def skipLayout : Bool → List Char → List Char
  | _, [] => []
  | inComment, character :: rest =>
      if inComment && isCommentCharacter character then skipLayout true rest
      else if isBlank character || character == '\n' then skipLayout false rest
      else if character == '\r' && rest.head? == some '\n' then skipLayout false rest
      else if character == '#' then skipLayout true rest
      else character :: rest

end TokenGrammar.Toml
