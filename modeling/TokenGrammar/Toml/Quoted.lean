import TokenGrammar.Toml

set_option autoImplicit false

/-! TOML strings: basic strings with escapes and literal strings without, each on one line or over
several. Every reader here starts behind the opening quotes, and gives the content and what follows
the closing quotes. -/

namespace TokenGrammar.Toml

/-! ### Characters and escapes -/

def isBasicCharacter (character : Char) : Bool :=
  isCommentCharacter character && character != '"' && character != '\\'

def isLiteralCharacter (character : Char) : Bool :=
  isCommentCharacter character && character != '\''

def hexValue? (digit : Char) : Option Nat :=
  if digit.isDigit then some (digit.toNat - '0'.toNat)
  else if 'a' ≤ digit ∧ digit ≤ 'f' then some (digit.toNat - 'a'.toNat + 10)
  else if 'A' ≤ digit ∧ digit ≤ 'F' then some (digit.toNat - 'A'.toNat + 10)
  else none

def numbered? (digits : List Char) : Option Char := do
  let number ← digits.foldlM (fun total digit => do return total * 16 + (← hexValue? digit)) 0
  if number.isValidChar then some (Char.ofNat number) else none

def simpleEscape? : Char → Option Char
  | 'b' => some '\x08'
  | 't' => some '\t'
  | 'n' => some '\n'
  | 'f' => some '\x0c'
  | 'r' => some '\r'
  | '"' => some '"'
  | '\\' => some '\\'
  | _ => none

def before (character : Option Char) (read : Option (List Char × List Char)) :
    Option (List Char × List Char) := do
  let first ← character
  let (content, rest) ← read
  return (first :: content, rest)

/-! ### One line -/

def basic? : List Char → Option (List Char × List Char)
  | [] => none
  | character :: rest =>
      if character = '"' then some ([], rest)
      else if character = '\\' then
        match rest with
        | 'u' :: a :: b :: c :: d :: later => before (numbered? [a, b, c, d]) (basic? later)
        | 'U' :: a :: b :: c :: d :: e :: f :: g :: h :: later =>
            before (numbered? [a, b, c, d, e, f, g, h]) (basic? later)
        | escaped :: later => before (simpleEscape? escaped) (basic? later)
        | [] => none
      else if isBasicCharacter character then before (some character) (basic? rest)
      else none

def literal? : List Char → Option (List Char × List Char)
  | [] => none
  | character :: rest =>
      if character = '\'' then some ([], rest)
      else if isLiteralCharacter character then before (some character) (literal? rest)
      else none

/-! ### Several lines -/

def withoutFirstLineEnd (source : List Char) : List Char :=
  (lineEnd? source).getD source

/-- A basic string over several lines. A backslash at the end of a line takes the line end and all
blanks and line ends after it away; `joining` says whether these are being taken away. Three quotes
close the string, and one or two more before them belong to it. -/
def basicLines? : Bool → List Char → Option (List Char × List Char)
  | _, [] => none
  | joining, character :: rest =>
      if joining && (isBlank character || character == '\n') then basicLines? true rest
      else if character = '\r' then
        match rest with
        | '\n' :: later =>
            if joining then basicLines? true later
            else before (some '\n') (basicLines? false later)
        | _ => none
      else if character = '\n' then before (some '\n') (basicLines? false rest)
      else if character = '"' then
        match rest with
        | '"' :: '"' :: '"' :: '"' :: later => some (['"', '"'], later)
        | '"' :: '"' :: '"' :: later => some (['"'], later)
        | '"' :: '"' :: later => some ([], later)
        | _ => before (some '"') (basicLines? false rest)
      else if character = '\\' then
        if (lineEnd? (skipBlanks rest)).isSome then basicLines? true rest
        else
          match rest with
          | 'u' :: a :: b :: c :: d :: later =>
              before (numbered? [a, b, c, d]) (basicLines? false later)
          | 'U' :: a :: b :: c :: d :: e :: f :: g :: h :: later =>
              before (numbered? [a, b, c, d, e, f, g, h]) (basicLines? false later)
          | escaped :: later => before (simpleEscape? escaped) (basicLines? false later)
          | [] => none
      else if isBasicCharacter character then before (some character) (basicLines? false rest)
      else none

def literalLines? : List Char → Option (List Char × List Char)
  | [] => none
  | character :: rest =>
      if character = '\r' then
        match rest with
        | '\n' :: later => before (some '\n') (literalLines? later)
        | _ => none
      else if character = '\n' then before (some '\n') (literalLines? rest)
      else if character = '\'' then
        match rest with
        | '\'' :: '\'' :: '\'' :: '\'' :: later => some (['\'', '\''], later)
        | '\'' :: '\'' :: '\'' :: later => some (['\''], later)
        | '\'' :: '\'' :: later => some ([], later)
        | _ => before (some '\'') (literalLines? rest)
      else if isLiteralCharacter character then before (some character) (literalLines? rest)
      else none

def quoted? : List Char → Option (List Char × List Char)
  | '"' :: '"' :: '"' :: rest => basicLines? false (withoutFirstLineEnd rest)
  | '"' :: rest => basic? rest
  | '\'' :: '\'' :: '\'' :: rest => literalLines? (withoutFirstLineEnd rest)
  | '\'' :: rest => literal? rest
  | _ => none

/-! ### Keys -/

def keyPart? (source : List Char) : Option (String × List Char) :=
  match source with
  | '"' :: rest => (basic? rest).map (fun (content, after) => (String.ofList content, after))
  | '\'' :: rest => (literal? rest).map (fun (content, after) => (String.ofList content, after))
  | _ =>
      let bare := source.takeWhile isBareKeyCharacter
      if bare.isEmpty then none
      else some (String.ofList bare, source.dropWhile isBareKeyCharacter)

def keyParts? : Nat → List Char → Option (List String × List Char)
  | 0, _ => none
  | parts + 1, source => do
      let (first, after) ← keyPart? (skipBlanks source)
      match skipBlanks after with
      | '.' :: later => do
          let (others, rest) ← keyParts? parts later
          return (first :: others, rest)
      | rest => return ([first], rest)

def keyPartLimit : Nat := 79

def key? (source : List Char) : Option (List String × List Char) :=
  keyParts? keyPartLimit source

end TokenGrammar.Toml
