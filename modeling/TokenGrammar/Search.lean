import TokenGrammar.Search.Record

set_option autoImplicit false

/-! Searches: lazy enumerations of derivations that tell what they do as they go. A search is run
only as far as it is asked to; what lies behind a record or a yield is suspended. The operations
here know nothing of grammars. -/

namespace TokenGrammar

structure Derivation where
  value : Value
  position : Nat

/-- A suspended enumeration, run up to its next event. -/
inductive Search where
  | done
  | record (entry : Record) (rest : Unit → Search)
  | yield (found : Derivation) (rest : Unit → Search)

namespace Search

instance : Inhabited Search := ⟨done⟩

/-! ### Building searches -/

def ofList : List Derivation → Search
  | [] => done
  | found :: later => yield found (fun _ => ofList later)

def emit : List Record → (Unit → Search) → Search
  | [], rest => rest ()
  | entry :: later, rest => record entry (fun _ => emit later rest)

def append : Search → (Unit → Search) → Search
  | done, next => next ()
  | record entry rest, next => record entry (fun _ => append (rest ()) next)
  | yield found rest, next => yield found (fun _ => append (rest ()) next)

/-- A search in which each derivation is replaced by a search of its own, run to its end before the
first one is resumed. -/
def bind : Search → (Derivation → Search) → Search
  | done, _ => done
  | record entry rest, resume => record entry (fun _ => bind (rest ()) resume)
  | yield found rest, resume => append (resume found) (fun _ => bind (rest ()) resume)

/-! ### Running searches -/

def found : Search → List Derivation
  | done => []
  | record _ rest => found (rest ())
  | yield derivation rest => derivation :: found (rest ())

def next : Search → List Record × Option (Derivation × (Unit → Search))
  | done => ([], none)
  | record entry rest =>
      let (entries, outcome) := next (rest ())
      (entry :: entries, outcome)
  | yield derivation rest => ([], some (derivation, rest))

end Search

/-- A search that has been opened: what opening it told, and the search itself, not yet run. -/
structure Opening where
  records : List Record
  pending : Unit → Search

namespace Opening

def suspend (pending : Unit → Search) : Opening := { records := [], pending }

def run (opening : Opening) : Search :=
  Search.emit opening.records opening.pending

def bind (opening : Opening) (resume : Derivation → Search) : Opening :=
  { opening with pending := fun _ => (opening.pending ()).bind resume }

end Opening

end TokenGrammar
