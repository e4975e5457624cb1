import TokenGrammar.Search.Matching

set_option autoImplicit false

/-! Searches and streams seen as lists. A search run to its end finds a list of derivations, and
each operation that builds searches does one thing to that list. A pull takes the head of what a
stream still holds, so the outcome of every later pull can be read off the list. -/

namespace TokenGrammar

namespace Search

def records : Search → List Record
  | done => []
  | record entry rest => entry :: records (rest ())
  | yield _ rest => records (rest ())

@[simp]
theorem found_ofList (derivations : List Derivation) :
    (ofList derivations).found = derivations := by
  induction derivations with
  | nil => rfl
  | cons first later inductionHypothesis =>
      simp only [ofList, found, inductionHypothesis]

@[simp]
theorem found_emit (entries : List Record) (rest : Unit → Search) :
    (emit entries rest).found = (rest ()).found := by
  induction entries with
  | nil => rfl
  | cons entry later inductionHypothesis =>
      simp only [emit, found, inductionHypothesis]

@[simp]
theorem records_emit (entries : List Record) (rest : Unit → Search) :
    (emit entries rest).records = entries ++ (rest ()).records := by
  induction entries with
  | nil => rfl
  | cons entry later inductionHypothesis =>
      rw [emit, records, inductionHypothesis, List.cons_append]

@[simp]
theorem found_append (search : Search) (following : Unit → Search) :
    (search.append following).found = search.found ++ (following ()).found := by
  induction search with
  | done => rfl
  | record entry rest inductionHypothesis =>
      simp only [append, found, inductionHypothesis ()]
  | yield derivation rest inductionHypothesis =>
      simp only [append, found, inductionHypothesis (), List.cons_append]

@[simp]
theorem records_append (search : Search) (following : Unit → Search) :
    (search.append following).records = search.records ++ (following ()).records := by
  induction search with
  | done => rfl
  | record entry rest inductionHypothesis =>
      simp only [append, records, inductionHypothesis (), List.cons_append]
  | yield derivation rest inductionHypothesis =>
      simp only [append, records, inductionHypothesis ()]

@[simp]
theorem found_bind (search : Search) (resume : Derivation → Search) :
    (search.bind resume).found =
      search.found.flatMap (fun derivation => (resume derivation).found) := by
  induction search with
  | done => rfl
  | record entry rest inductionHypothesis =>
      simp only [bind, found, inductionHypothesis ()]
  | yield derivation rest inductionHypothesis =>
      simp only [bind, found, found_append, inductionHypothesis (), List.flatMap_cons]

theorem found_eq_of_next (search : Search) :
    search.found =
      match search.next.2 with
      | none => []
      | some (derivation, rest) => derivation :: (rest ()).found := by
  induction search with
  | done => rfl
  | record entry rest inductionHypothesis => exact inductionHypothesis ()
  | yield derivation rest _ => rfl

end Search

namespace Opening

def found (opening : Opening) : List Derivation := (opening.pending ()).found

@[simp]
theorem found_suspend (pending : Unit → Search) :
    (suspend pending).found = (pending ()).found := rfl

@[simp]
theorem found_run (opening : Opening) : opening.run.found = opening.found := by
  rw [run, Search.found_emit, found]

@[simp]
theorem found_bind (opening : Opening) (resume : Derivation → Search) :
    (opening.bind resume).found =
      opening.found.flatMap (fun derivation => (resume derivation).found) :=
  Search.found_bind (opening.pending ()) resume

@[simp]
theorem found_announce (matcher : Matcher) (position : Nat) (inner : Opening) :
    (announce matcher position inner).found =
      inner.found.map (fun derivation =>
        { derivation with value := matcher.applyTransform derivation.value }) := by
  unfold announce
  change (inner.bind _).found = _
  rw [found_bind]
  exact List.map_eq_flatMap.symm

end Opening

namespace DerivationStream

/-- What a stream still holds: the derivations that later pulls will give. -/
def held (stream : DerivationStream) : List Derivation := (stream.pending ()).found

def after : Nat → DerivationStream → DerivationStream
  | 0, stream => stream
  | count + 1, stream => after count stream.pull.2.2

/-- A pull gives the head of what the stream holds and leaves the tail; an ended stream gives
nothing and stays ended. -/
theorem pull_held (stream : DerivationStream) :
    stream.pull.2.1 = stream.held.head? ∧ stream.pull.2.2.held = stream.held.tail := by
  have split := Search.found_eq_of_next (stream.pending ())
  unfold held pull
  rw [split]
  cases outcome : (stream.pending ()).next with
  | mk entries result =>
      cases result with
      | none => exact ⟨rfl, rfl⟩
      | some derivation => exact ⟨rfl, rfl⟩

theorem held_after (stream : DerivationStream) (count : Nat) :
    (stream.after count).held = stream.held.drop count := by
  induction count generalizing stream with
  | zero => rfl
  | succ count inductionHypothesis =>
      rw [after, inductionHypothesis, (pull_held stream).2, List.drop_tail]

theorem pull_after (stream : DerivationStream) (count : Nat) :
    (stream.after count).pull.2.1 = stream.held[count]? := by
  rw [(pull_held (stream.after count)).1, held_after, List.head?_drop]

theorem sequence_pull (stream : DerivationStream) :
    stream.pull.2.2.sequence = stream.sequence := by
  unfold pull
  split <;> rfl

end DerivationStream

/-! ### Matchings -/

theorem Cursor.commit_of_sequence_eq (cursor reached : Cursor)
    (same : reached.sequence = cursor.sequence) :
    cursor.commit reached = .ok { cursor with position := reached.position } := by
  unfold commit TokenSequence.sharesStorage
  rw [same, beq_self_eq_true, if_pos rfl]

namespace Matching

/-- A matching that searches the sequence of its cursor never faults. It hands out the value of the
next derivation and moves the cursor to where that derivation got to. -/
theorem next_eq (matching : Matching)
    (same : matching.stream.sequence = matching.cursor.sequence) :
    ∃ records stream,
      matching.next =
        .ok (records, matching.stream.held.head?.map Derivation.value,
          { cursor := ⟨matching.cursor.sequence,
              (matching.stream.held.head?.map Derivation.position).getD matching.cursor.position⟩
            stream }) ∧
      stream.sequence = matching.stream.sequence ∧ stream.held = matching.stream.held.tail := by
  have pulled := DerivationStream.pull_held matching.stream
  have kept := DerivationStream.sequence_pull matching.stream
  unfold next
  cases outcome : matching.stream.pull with
  | mk records result =>
      rcases result with ⟨found, stream⟩
      rw [outcome] at pulled kept
      obtain ⟨head, tail⟩ := pulled
      dsimp only at head
      rw [← head]
      cases found with
      | none => exact ⟨records, stream, rfl, kept, tail⟩
      | some found =>
          have reached : (stream.reached found).sequence = matching.cursor.sequence :=
            kept.trans same
          dsimp only
          rw [Cursor.commit_of_sequence_eq _ _ reached]
          exact ⟨_, stream, rfl, kept, tail⟩

/-- Any number of pulls of such a matching: the values and positions are those of the derivations
in front, and the cursor stands where the last of them got to, or where it stood before. -/
theorem take_eq (pulls : Nat) (matching : Matching)
    (same : matching.stream.sequence = matching.cursor.sequence) :
    ∃ records, matching.take pulls =
      .ok
        { records
          results := matching.stream.held.take pulls
          ended := decide (matching.stream.held.length < pulls)
          cursor := ⟨matching.cursor.sequence,
            ((matching.stream.held.take pulls).getLast?.map Derivation.position).getD
              matching.cursor.position⟩ } := by
  induction pulls generalizing matching with
  | zero => exact ⟨[], by simp [take]⟩
  | succ pulls inductionHypothesis =>
      obtain ⟨records, stream, pulled, searched, rest⟩ := next_eq matching same
      rw [take, pulled]
      cases held : matching.stream.held with
      | nil => exact ⟨records, by simp [bind, Except.bind, pure, Except.pure]⟩
      | cons found others =>
          obtain ⟨laterRecords, run⟩ := inductionHypothesis
            { cursor := ⟨matching.cursor.sequence, found.position⟩, stream }
            (searched.trans same)
          rw [rest, held] at run
          have ends : (found :: others).length < pulls + 1 ↔ others.length < pulls := by simp
          refine ⟨records ++ laterRecords, ?_⟩
          simp only [bind, Except.bind, pure, Except.pure, List.head?_cons, Option.map_some,
            Option.getD_some, run, List.tail_cons, List.take_succ_cons, List.getLast?_cons,
            decide_eq_decide.mpr ends]
          cases (others.take pulls).getLast? with
          | none => rfl
          | some last => rfl

def after : Nat → Matching → Except Fault Matching
  | 0, matching => .ok matching
  | count + 1, matching => do
      let (_, _, later) ← matching.next
      later.after count

theorem after_eq (count : Nat) (matching : Matching)
    (same : matching.stream.sequence = matching.cursor.sequence) :
    ∃ later, matching.after count = .ok later ∧
      later.cursor = ⟨matching.cursor.sequence,
        ((matching.stream.held.map Derivation.position).take count).getLast?.getD
          matching.cursor.position⟩ ∧
      later.stream.sequence = matching.stream.sequence ∧
      later.stream.held = matching.stream.held.drop count := by
  induction count generalizing matching with
  | zero => exact ⟨matching, rfl, by simp, rfl, rfl⟩
  | succ count inductionHypothesis =>
      obtain ⟨records, stream, pulled, searched, rest⟩ := next_eq matching same
      obtain ⟨later, ran, moved, kept, left⟩ := inductionHypothesis
        { cursor := ⟨matching.cursor.sequence,
            (matching.stream.held.head?.map Derivation.position).getD matching.cursor.position⟩
          stream } (searched.trans same)
      refine ⟨later, ?_, ?_, kept.trans searched, ?_⟩
      · rw [after, pulled]
        exact ran
      · rw [moved, rest]
        cases matching.stream.held with
        | nil => simp
        | cons found others => simp [List.getLast?_cons]
      · rw [left, rest, List.drop_tail]

end Matching

namespace Matcher

/-- Everything that the search of a matcher from a position finds, in order. -/
def derivations (tokens : List Token) (matcher : Matcher) (position : Nat) : List Derivation :=
  (matcher.derive tokens position).found

theorem held_start (matcher : Matcher) (cursor : Cursor) :
    (DerivationStream.start matcher cursor).2.held =
      matcher.derivations cursor.sequence.tokens cursor.position := rfl

theorem matchAll_eq (matcher : Matcher) (cursor : Cursor) (limit : Option Nat) :
    let all := matcher.derivations cursor.sequence.tokens cursor.position
    let pulls := limit.getD (all.length + 1)
    ∃ records, matcher.matchAll cursor limit =
      .ok
        { records
          results := all.take pulls
          ended := decide (all.length < pulls)
          cursor := ⟨cursor.sequence,
            ((all.take pulls).getLast?.map Derivation.position).getD cursor.position⟩ } := by
  intro all pulls
  obtain ⟨records, run⟩ := (Matching.start matcher cursor).2.take_eq pulls rfl
  refine ⟨(Matching.start matcher cursor).1 ++ records, ?_⟩
  unfold matchAll
  change ((Matching.start matcher cursor).2.take pulls >>= fun run =>
    .ok { run with records := (Matching.start matcher cursor).1 ++ run.records }) = _
  rw [run]
  rfl

end Matcher

end TokenGrammar
