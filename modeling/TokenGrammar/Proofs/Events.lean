import TokenGrammar.Proofs.Streams

set_option autoImplicit false

/-! Searches seen as lists of events. The list of what a search finds forgets when things are told;
the list of its events keeps the order of records and yields, and forgets only the values. Each
operation that builds searches does one thing to that list, and a pull runs to its next yield. -/

namespace TokenGrammar

/-- What a search does, seen from outside: it tells something, or it yields a derivation that
reaches a position. -/
inductive Event where
  | told (record : Record)
  | yielded (position : Nat)

namespace Event

def record? : Event → Option Record
  | told record => some record
  | yielded _ => none

def position? : Event → Option Nat
  | told _ => none
  | yielded position => some position

/-- What stands in the place of an event when other events follow each yield instead of it. -/
def resumed (following : Nat → List Event) : Event → List Event
  | told record => [told record]
  | yielded position => following position

/-! ### Lists of events -/

def records (events : List Event) : List Record := events.filterMap record?

def positions (events : List Event) : List Nat := events.filterMap position?

def untilYield : List Event → List Record
  | [] => []
  | told record :: later => record :: untilYield later
  | yielded _ :: _ => []

def afterYield : List Event → List Event
  | [] => []
  | told _ :: later => afterYield later
  | yielded _ :: later => later

def untilYields : Nat → List Event → List Record
  | 0, _ => []
  | count + 1, events => untilYield events ++ untilYields count (afterYield events)

@[simp]
theorem records_told (record : Record) (later : List Event) :
    records (told record :: later) = record :: records later := rfl

@[simp]
theorem records_yielded (position : Nat) (later : List Event) :
    records (yielded position :: later) = records later := rfl

@[simp]
theorem records_append (events later : List Event) :
    records (events ++ later) = records events ++ records later :=
  List.filterMap_append

@[simp]
theorem records_map_told (entries : List Record) : records (entries.map told) = entries := by
  rw [records, List.filterMap_map]
  exact List.filterMap_some

@[simp]
theorem untilYields_nil (count : Nat) : untilYields count [] = [] := by
  induction count with
  | zero => rfl
  | succ count inductionHypothesis => exact inductionHypothesis

theorem untilYields_told (count : Nat) (record : Record) (later : List Event) :
    untilYields (count + 1) (told record :: later) =
      record :: untilYields (count + 1) later := rfl

theorem untilYields_yielded (count position : Nat) (later : List Event) :
    untilYields (count + 1) (yielded position :: later) = untilYields count later := rfl

theorem untilYields_of_few (count : Nat) (events : List Event)
    (few : (positions events).length < count) : untilYields count events = records events := by
  induction events generalizing count with
  | nil => exact untilYields_nil count
  | cons event later inductionHypothesis =>
      cases count with
      | zero => cases few
      | succ count =>
          cases event with
          | told record =>
              rw [untilYields_told, inductionHypothesis (count + 1) few, records_told]
          | yielded position =>
              have fewer : (positions later).length < count := Nat.lt_of_succ_lt_succ few
              rw [untilYields_yielded, inductionHypothesis count fewer, records_yielded]

theorem flatMap_resumed_told (following : Nat → List Event) (entries : List Record) :
    (entries.map told).flatMap (resumed following) = entries.map told := by
  induction entries with
  | nil => rfl
  | cons entry later inductionHypothesis =>
      rw [List.map_cons, List.flatMap_cons, inductionHypothesis, resumed, List.singleton_append]

theorem told_mem_flatMap_resumed (following : Nat → List Event) (events : List Event)
    (record : Record) :
    told record ∈ events.flatMap (resumed following) ↔
      told record ∈ events ∨
        ∃ position, yielded position ∈ events ∧ told record ∈ following position := by
  rw [List.mem_flatMap]
  constructor
  · rintro ⟨event, member, present⟩
    cases event with
    | told other =>
        rw [List.mem_singleton.mp present]
        exact Or.inl member
    | yielded position => exact Or.inr ⟨position, member, present⟩
  · rintro (member | ⟨position, member, present⟩)
    · exact ⟨told record, member, List.mem_singleton_self _⟩
    · exact ⟨yielded position, member, present⟩

end Event

namespace Search

def events : Search → List Event
  | done => []
  | record entry rest => .told entry :: events (rest ())
  | yield derivation rest => .yielded derivation.position :: events (rest ())

theorem records_events (search : Search) : Event.records search.events = search.records := by
  induction search with
  | done => rfl
  | record entry rest inductionHypothesis =>
      rw [events, Event.records_told, inductionHypothesis (), records]
  | yield derivation rest inductionHypothesis =>
      rw [events, Event.records_yielded, inductionHypothesis (), records]

theorem positions_events (search : Search) :
    Event.positions search.events = search.found.map Derivation.position := by
  induction search with
  | done => rfl
  | record entry rest inductionHypothesis => exact inductionHypothesis ()
  | yield derivation rest inductionHypothesis =>
      exact congrArg (derivation.position :: ·) (inductionHypothesis ())

@[simp]
theorem events_ofList (derivations : List Derivation) :
    (ofList derivations).events =
      derivations.map (fun derivation => .yielded derivation.position) := by
  induction derivations with
  | nil => rfl
  | cons first later inductionHypothesis =>
      rw [ofList, events, inductionHypothesis, List.map_cons]

@[simp]
theorem events_emit (entries : List Record) (rest : Unit → Search) :
    (emit entries rest).events = entries.map .told ++ (rest ()).events := by
  induction entries with
  | nil => rfl
  | cons entry later inductionHypothesis =>
      rw [emit, events, inductionHypothesis, List.map_cons, List.cons_append]

@[simp]
theorem events_append (search : Search) (following : Unit → Search) :
    (search.append following).events = search.events ++ (following ()).events := by
  induction search with
  | done => rfl
  | record entry rest inductionHypothesis =>
      rw [append, events, inductionHypothesis (), events, List.cons_append]
  | yield derivation rest inductionHypothesis =>
      rw [append, events, inductionHypothesis (), events, List.cons_append]

theorem events_bind (search : Search) (resume : Derivation → Search)
    (following : Nat → List Event)
    (same : ∀ derivation, (resume derivation).events = following derivation.position) :
    (search.bind resume).events = search.events.flatMap (Event.resumed following) := by
  -- events hold no values, so what follows a yield may depend on its position only
  induction search with
  | done => rfl
  | record entry rest inductionHypothesis =>
      rw [bind, events, inductionHypothesis (), events, List.flatMap_cons, Event.resumed,
        List.singleton_append]
  | yield derivation rest inductionHypothesis =>
      rw [bind, events_append, inductionHypothesis (), same, events, List.flatMap_cons,
        Event.resumed]

theorem next_events (search : Search) :
    search.next.1 = Event.untilYield search.events ∧
      match search.next.2 with
      | none => Event.afterYield search.events = []
      | some (_, rest) => (rest ()).events = Event.afterYield search.events := by
  induction search with
  | done => exact ⟨rfl, rfl⟩
  | record entry rest inductionHypothesis =>
      obtain ⟨told, onward⟩ := inductionHypothesis ()
      exact ⟨congrArg (entry :: ·) told, onward⟩
  | yield derivation rest _ => exact ⟨rfl, rfl⟩

end Search

namespace Opening

def events (opening : Opening) : List Event := opening.run.events

theorem events_eq (opening : Opening) :
    opening.events = opening.records.map .told ++ (opening.pending ()).events :=
  Search.events_emit _ _

theorem events_suspend (pending : Unit → Search) :
    (suspend pending).events = (pending ()).events := rfl

theorem events_bind (opening : Opening) (resume : Derivation → Search)
    (following : Nat → List Event)
    (same : ∀ derivation, (resume derivation).events = following derivation.position) :
    (opening.bind resume).events = opening.events.flatMap (Event.resumed following) := by
  rw [events_eq, events_eq, List.flatMap_append, Event.flatMap_resumed_told]
  exact congrArg _ (Search.events_bind (opening.pending ()) resume following same)

end Opening

namespace DerivationStream

def events (stream : DerivationStream) : List Event := (stream.pending ()).events

def toldBy : Nat → DerivationStream → List Record
  | 0, _ => []
  | count + 1, stream => stream.pull.1 ++ toldBy count stream.pull.2.2

theorem pull_events (stream : DerivationStream) :
    stream.pull.1 = Event.untilYield stream.events ∧
      stream.pull.2.2.events = Event.afterYield stream.events := by
  have split := Search.next_events (stream.pending ())
  unfold events pull
  cases outcome : (stream.pending ()).next with
  | mk entries result =>
      rw [outcome] at split
      obtain ⟨told, onward⟩ := split
      cases result with
      | none => exact ⟨told, onward.symm⟩
      | some derivation => exact ⟨told, onward⟩

theorem toldBy_eq (count : Nat) (stream : DerivationStream) :
    stream.toldBy count = Event.untilYields count stream.events := by
  induction count generalizing stream with
  | zero => rfl
  | succ count inductionHypothesis =>
      obtain ⟨told, onward⟩ := pull_events stream
      rw [toldBy, told, inductionHypothesis, onward, Event.untilYields]

end DerivationStream

end TokenGrammar
