import TokenGrammar.Cursor
import TokenGrammar.Search.Derive

set_option autoImplicit false

/-! Streams and matchings. A stream gives the derivations of a grammar one by one on demand and
never moves the cursor that it was opened from. A matching does move its cursor: each value that
it hands out commits the cursor to the position reached. -/

namespace TokenGrammar

structure DerivationStream where
  sequence : TokenSequence
  pending : Unit → Search

namespace DerivationStream

def start (matcher : Matcher) (cursor : Cursor) : List Record × DerivationStream :=
  let opening := matcher.derive cursor.sequence.tokens cursor.position
  (opening.records, { sequence := cursor.sequence, pending := opening.pending })

/-- The next derivation if there is one, what finding it told, and the rest of the stream. A stream
that has ended stays ended and tells nothing. -/
def pull (stream : DerivationStream) : List Record × Option Derivation × DerivationStream :=
  match (stream.pending ()).next with
  | (records, some (found, rest)) => (records, some found, { stream with pending := rest })
  | (records, none) => (records, none, { stream with pending := fun _ => .done })

def reached (stream : DerivationStream) (found : Derivation) : Cursor :=
  { sequence := stream.sequence, position := found.position }

end DerivationStream

structure Matching where
  cursor : Cursor
  stream : DerivationStream

namespace Matching

def start (matcher : Matcher) (cursor : Cursor) : List Record × Matching :=
  let (records, stream) := DerivationStream.start matcher cursor
  (records, { cursor, stream })

/-- The next value if there is one. The cursor moves exactly if there is one, and to the position
that its derivation has reached. -/
def next (matching : Matching) : Except Fault (List Record × Option Value × Matching) :=
  match matching.stream.pull with
  | (records, some found, stream) => do
      let cursor ← matching.cursor.commit (stream.reached found)
      return (records ++ [.committed cursor.position], some found.value, { cursor, stream })
  | (records, none, stream) => .ok (records, none, { matching with stream })

end Matching

structure MatchRun where
  records : List Record
  results : List Derivation
  ended : Bool
  cursor : Cursor

namespace Matching

def take : Nat → Matching → Except Fault MatchRun
  | 0, matching => .ok { records := [], results := [], ended := false, cursor := matching.cursor }
  | pulls + 1, matching => do
      match ← matching.next with
      | (records, none, later) =>
          return { records, results := [], ended := true, cursor := later.cursor }
      | (records, some value, later) => do
          let run ← later.take pulls
          return { run with
            records := records ++ run.records
            results := ⟨value, later.cursor.position⟩ :: run.results }

def pullsToEnd (matching : Matching) : Nat :=
  (matching.stream.pending ()).found.length + 1

end Matching

def Matcher.matchAll (matcher : Matcher) (cursor : Cursor) (limit : Option Nat) :
    Except Fault MatchRun := do
  let (opening, matching) := Matching.start matcher cursor
  let run ← matching.take (limit.getD matching.pullsToEnd)
  return { run with records := opening ++ run.records }

end TokenGrammar
