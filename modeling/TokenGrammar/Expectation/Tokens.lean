import TokenGrammar.Expectation

set_option autoImplicit false

/-! What can be expected of a token sequence, as a whole or token by token. -/

namespace TokenGrammar

inductive TokenExpectation where
  | count (wanted : Nat)
  | kinds (wanted : List TokenKind)
  | texts (wanted : List String)
  | covers (source : List Char)
  | kindAt (index : Nat) (wanted : TokenKind)
  | textAt (index : Nat) (wanted : String)
  | boundsAt (index start stop : Nat)

namespace TokenExpectation

open Expectation

def summary (tokens : List Token) : List Char :=
  Text.joined ", ".toList (tokens.map Token.prettyText)

def place (index : Nat) : List Char :=
  "tokens[".toList ++ Text.decimalDigits index ++ [']']

def tokenAt (tokens : List Token) (index : Nat) : Except Fault Token :=
  match tokens[index]? with
  | some token => .ok token
  | none =>
      .error (.unmet (String.ofList ("Token index ".toList ++ Text.decimalDigits index ++
        " out of bounds (sequence has ".toList ++ Text.decimalDigits tokens.length ++
        " tokens: [".toList ++ summary tokens ++ "])".toList)))

/-- Passes if each span starts where the one before it ended; gives the end of the last one. `index`
and `reached` are the number of tokens and the bytes before these. -/
def adjoining : Nat → Nat → List Token → Except Fault Nat
  | _, reached, [] => .ok reached
  | index, reached, token :: later => do
      equal Text.decimalDigits
        (some (place index ++ " starts at ".toList ++ Text.decimalDigits token.span.start ++
          " but the previous token ended at ".toList ++ Text.decimalDigits reached))
        token.span.start reached
      adjoining (index + 1) token.span.stop later

def rebuilt (source : List Char) : List Token → Except Fault (List Char)
  | [] => .ok []
  | token :: later => do
      let characters ← token.span.slice source
      let rest ← rebuilt source later
      return characters ++ rest

/-- Passes if the spans lie end to end from the first byte of the source to its last, cut it only
between characters, and give it back when joined. -/
def checkCovers (tokens : List Token) (source : List Char) : Except Fault Unit := do
  let reached ← adjoining 0 0 tokens
  let length := Text.byteLength source
  equal Text.decimalDigits
    (some ("Tokens stop at ".toList ++ Text.decimalDigits reached ++ " of ".toList ++
      Text.decimalDigits length))
    reached length
  let characters ← rebuilt source tokens
  equal Text.quoted none characters source

def check (tokens : List Token) : TokenExpectation → Except Fault Unit
  | count wanted =>
      equal Text.decimalDigits
        (some ("Expected ".toList ++ Text.decimalDigits wanted ++ " tokens, found ".toList ++
          Text.decimalDigits tokens.length ++ ": [".toList ++ summary tokens ++ [']']))
        tokens.length wanted
  | kinds wanted =>
      equal shownKinds (some ("Token kinds differ: [".toList ++ summary tokens ++ [']']))
        (tokens.map Token.kind) wanted
  | texts wanted =>
      equal shownTexts (some "Token texts differ".toList) (tokens.map Token.text) wanted
  | covers source => checkCovers tokens source
  | kindAt index wanted => do
      let token ← tokenAt tokens index
      equal (fun kind => kind.title.toList)
        (some (place index ++ ": expected ".toList ++ wanted.name.toList ++ ", found ".toList ++
          token.prettyText))
        token.kind wanted
  | textAt index wanted => do
      let token ← tokenAt tokens index
      equal shownText
        (some (place index ++ ": unexpected text in ".toList ++ token.prettyText))
        token.text wanted
  | boundsAt index start stop => do
      let token ← tokenAt tokens index
      equal shownBounds
        (some (place index ++ ": unexpected span for ".toList ++ token.prettyText))
        (token.span.start, token.span.stop) (start, stop)

end TokenExpectation

end TokenGrammar
