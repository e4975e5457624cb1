import TokenGrammar.Token

set_option autoImplicit false

/-! Cursors: positions in token sequences. A cursor stands before one of the tokens or at the end.
Sequences with the same tokens may still be kept apart: each has a storage of its own, and a cursor
takes over positions only from cursors over the same storage. -/

namespace TokenGrammar

structure TokenSequence where
  storage : Nat
  tokens : List Token
  deriving DecidableEq

namespace TokenSequence

/-- Whether two sequences are one and the same, and not only equal. -/
def sharesStorage (left right : TokenSequence) : Bool :=
  left.storage == right.storage

def sameTokens (left right : TokenSequence) : Bool :=
  left.tokens == right.tokens

def get? (sequence : TokenSequence) (index : Nat) : Option Token :=
  sequence.tokens[index]?

def get (sequence : TokenSequence) (index : Nat) : Except Fault Token :=
  match sequence.get? index with
  | some token => .ok token
  | none => .error (.indexOutOfBounds sequence.tokens.length index)

end TokenSequence

structure Cursor where
  sequence : TokenSequence
  position : Nat
  deriving DecidableEq

namespace Cursor

def start (sequence : TokenSequence) : Cursor := { sequence, position := 0 }

def isExhausted (cursor : Cursor) : Bool :=
  cursor.position == cursor.sequence.tokens.length

def peek? (cursor : Cursor) : Option Token :=
  cursor.sequence.get? cursor.position

def current (cursor : Cursor) : Except Fault Token :=
  match cursor.peek? with
  | some token => .ok token
  | none => .error (.readPastEnd cursor.position cursor.sequence.tokens.length)

def advance (cursor : Cursor) : Except Fault Cursor :=
  if cursor.isExhausted then .error (.advancedPastEnd cursor.sequence.tokens.length)
  else .ok { cursor with position := cursor.position + 1 }

def advanceBy (cursor : Cursor) : Nat → Except Fault Cursor
  | 0 => .ok cursor
  | count + 1 => do
      let moved ← cursor.advance
      moved.advanceBy count

def remaining (cursor : Cursor) : Except Fault (List Token) :=
  if cursor.position ≤ cursor.sequence.tokens.length then
    .ok (cursor.sequence.tokens.drop cursor.position)
  else .error .offBoundary

/-- The cursor at the position that another one has reached; a cursor over another storage is a
fault. -/
def commit (cursor reached : Cursor) : Except Fault Cursor :=
  if cursor.sequence.sharesStorage reached.sequence then
    .ok { cursor with position := reached.position }
  else .error .foreignCursor

end Cursor

end TokenGrammar
