import TokenGrammar.Output
import TokenGrammar.Search.Matching

set_option autoImplicit false

/-! Sessions: named cursors and named streams over a fixed list of token sequences, and the steps
that work on them. A step answers with a reply; a step that faults changes nothing. -/

namespace TokenGrammar

structure OpenStream where
  stream : DerivationStream
  last : Option Cursor

structure Session where
  sequences : List TokenSequence
  grammars : List (String × Matcher)
  cursors : List (String × Cursor)
  streams : List (String × OpenStream)

/-- One thing to do. Cursors, streams and grammars go by name, sequences by index. -/
inductive Step where
  | newCursor (target : String) (sequence : Nat)
  | cloneCursor (target source : String)
  | advance (cursor : String)
  | commit (cursor reached : String)
  | current (cursor : String)
  | peek (cursor : String)
  | isExhausted (cursor : String)
  | remaining (cursor : String)
  | isOperator (cursor text : String)
  | sharesStorage (left right : String)
  | sameTokens (left right : Nat)
  | tokenAt? (sequence index : Nat)
  | tokenAt (sequence index : Nat)
  | matchAll (cursor grammar : String) (limit : Option Nat)
  | openStream (stream cursor grammar : String)
  | pull (stream : String)
  | adopt (cursor stream : String)

inductive Reply where
  | nothing
  | flag (value : Bool)
  | token (value : Token)
  | tokens (values : List Token)
  | derivation (value : Derivation)
  | derivations (values : List Derivation)
  | fault (cause : Fault)
  | unknown

namespace Session

def initial (sequences : List (List Token)) (grammars : List (String × Matcher)) : Session :=
  { sequences := sequences.zipIdx.map (fun (tokens, storage) => { storage, tokens })
    grammars
    cursors := []
    streams := [] }

def assign {α : Type} (name : String) (value : α) : List (String × α) → List (String × α)
  | [] => [(name, value)]
  | (other, old) :: later =>
      if other = name then (name, value) :: later else (other, old) :: assign name value later

def cursor? (session : Session) (name : String) : Option Cursor := session.cursors.lookup name

def setCursor (session : Session) (name : String) (cursor : Cursor) : Session :=
  { session with cursors := assign name cursor session.cursors }

def setStream (session : Session) (name : String) (stream : OpenStream) : Session :=
  { session with streams := assign name stream session.streams }

structure Outcome where
  reply : Reply
  records : List Record
  session : Session

def answer (session : Session) (reply : Reply) : Outcome := { reply, records := [], session }

def move (session : Session) (name : String) : Except Fault Cursor → Outcome
  | .ok cursor => { reply := .nothing, records := [], session := session.setCursor name cursor }
  | .error fault => session.answer (.fault fault)

def tokenReply : Except Fault Token → Reply
  | .ok token => .token token
  | .error fault => .fault fault

def tokensReply : Except Fault (List Token) → Reply
  | .ok tokens => .tokens tokens
  | .error fault => .fault fault

def optionalTokenReply : Option Token → Reply
  | some token => .token token
  | none => .nothing

def step? (session : Session) : Step → Option Outcome
  | .newCursor target sequence => do
      let tokens ← session.sequences[sequence]?
      return session.move target (.ok (Cursor.start tokens))
  | .cloneCursor target source => do
      let cursor ← session.cursor? source
      return session.move target (.ok cursor)
  | .advance name => do
      let cursor ← session.cursor? name
      return session.move name cursor.advance
  | .commit name reached => do
      let cursor ← session.cursor? name
      let trial ← session.cursor? reached
      return session.move name (cursor.commit trial)
  | .current name => do
      let cursor ← session.cursor? name
      return session.answer (tokenReply cursor.current)
  | .peek name => do
      let cursor ← session.cursor? name
      return session.answer (optionalTokenReply cursor.peek?)
  | .isExhausted name => do
      let cursor ← session.cursor? name
      return session.answer (.flag cursor.isExhausted)
  | .remaining name => do
      let cursor ← session.cursor? name
      return session.answer (tokensReply cursor.remaining)
  | .isOperator name text => do
      let cursor ← session.cursor? name
      return session.answer (match cursor.peek? with
        | some token => .flag (token.isOperator text)
        | none => .nothing)
  | .sharesStorage left right => do
      let leftCursor ← session.cursor? left
      let rightCursor ← session.cursor? right
      return session.answer (.flag (leftCursor.sequence.sharesStorage rightCursor.sequence))
  | .sameTokens left right => do
      let leftSequence ← session.sequences[left]?
      let rightSequence ← session.sequences[right]?
      return session.answer (.flag (leftSequence.sameTokens rightSequence))
  | .tokenAt? sequence index => do
      let tokens ← session.sequences[sequence]?
      return session.answer (optionalTokenReply (tokens.get? index))
  | .tokenAt sequence index => do
      let tokens ← session.sequences[sequence]?
      return session.answer (tokenReply (tokens.get index))
  | .matchAll name grammar limit => do
      let cursor ← session.cursor? name
      let matcher ← session.grammars.lookup grammar
      return match matcher.matchAll cursor limit with
        | .ok run =>
            { reply := .derivations run.results
              records := run.records
              session := session.setCursor name run.cursor }
        | .error fault => session.answer (.fault fault)
  | .openStream name source grammar => do
      let cursor ← session.cursor? source
      let matcher ← session.grammars.lookup grammar
      let (records, stream) := DerivationStream.start matcher cursor
      return {
        reply := .nothing
        records
        session := session.setStream name { stream, last := none } }
  | .pull name => do
      let opened ← session.streams.lookup name
      match opened.stream.pull with
      | (records, some found, stream) =>
          return {
            reply := .derivation found
            records
            session := session.setStream name { stream, last := some (stream.reached found) } }
      | (records, none, stream) =>
          return {
            reply := .nothing
            records
            session := session.setStream name { opened with stream } }
  | .adopt name source => do
      let cursor ← session.cursor? name
      let opened ← session.streams.lookup source
      let reached ← opened.last
      return session.move name (cursor.commit reached)

/-- Runs a step; names that stand for nothing are said to be unknown. -/
def step (session : Session) (next : Step) : Outcome :=
  (session.step? next).getD (session.answer .unknown)

end Session

end TokenGrammar
