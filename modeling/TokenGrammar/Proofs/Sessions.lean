import TokenGrammar.Proofs.Derivations
import TokenGrammar.Session

set_option autoImplicit false

/-! Cursors in sessions. A step of a session either changes nothing, or gives one cursor a new
place, or gives one stream a new state, and every new place lies within the tokens of the sequence
that it belongs to. What holds of cursors after any run of steps follows from this. -/

namespace TokenGrammar

/-! ### Single cursors -/

theorem TokenSequence.get_faults_iff (sequence : TokenSequence) (index : Nat) :
    (∃ fault, sequence.get index = .error fault) ↔ sequence.tokens.length ≤ index := by
  unfold get get?
  rw [← List.getElem?_eq_none_iff]
  cases sequence.tokens[index]? <;> simp

namespace Cursor

/-- The cursor stands over one of the sequences, before one of its tokens or at its end. -/
structure Within (sequences : List TokenSequence) (cursor : Cursor) : Prop where
  sequence : cursor.sequence ∈ sequences
  position : cursor.position ≤ cursor.sequence.tokens.length

theorem isExhausted_iff (cursor : Cursor) :
    cursor.isExhausted = true ↔ cursor.position = cursor.sequence.tokens.length := by
  unfold isExhausted
  exact beq_iff_eq

theorem peek?_eq_none_iff (cursor : Cursor)
    (inBounds : cursor.position ≤ cursor.sequence.tokens.length) :
    cursor.peek? = none ↔ cursor.isExhausted = true := by
  rw [isExhausted_iff]
  unfold peek? TokenSequence.get?
  rw [List.getElem?_eq_none_iff]
  omega

theorem current_faults_iff (cursor : Cursor)
    (inBounds : cursor.position ≤ cursor.sequence.tokens.length) :
    (∃ fault, cursor.current = .error fault) ↔ cursor.isExhausted = true := by
  rw [← peek?_eq_none_iff cursor inBounds]
  unfold current
  cases cursor.peek? <;> simp

theorem advance_faults_iff (cursor : Cursor) :
    (∃ fault, cursor.advance = .error fault) ↔ cursor.isExhausted = true := by
  unfold advance
  cases cursor.isExhausted <;> simp

theorem commit_faults_iff (cursor reached : Cursor) :
    (∃ fault, cursor.commit reached = .error fault) ↔
      cursor.sequence.sharesStorage reached.sequence = false := by
  unfold commit
  cases cursor.sequence.sharesStorage reached.sequence <;> simp

theorem remaining_eq (cursor : Cursor)
    (inBounds : cursor.position ≤ cursor.sequence.tokens.length) :
    cursor.remaining = .ok (cursor.sequence.tokens.drop cursor.position) := by
  unfold remaining
  rw [if_pos inBounds]

theorem within_start {sequences : List TokenSequence} {sequence : TokenSequence}
    (member : sequence ∈ sequences) : (start sequence).Within sequences :=
  ⟨member, Nat.zero_le _⟩

namespace Within

variable {sequences : List TokenSequence} {cursor : Cursor}

theorem advance (within : cursor.Within sequences) {moved : Cursor}
    (advanced : cursor.advance = .ok moved) : moved.Within sequences := by
  unfold Cursor.advance at advanced
  split at advanced
  · cases advanced
  · rename_i notExhausted
    rw [isExhausted_iff] at notExhausted
    cases advanced
    refine ⟨within.sequence, ?_⟩
    have inBounds := within.position
    change cursor.position + 1 ≤ cursor.sequence.tokens.length
    omega

/-- Storage tells sequences apart, so a position is only ever taken over from a cursor over the same
tokens. -/
theorem commit (within : cursor.Within sequences) {reached moved : Cursor}
    (reachedWithin : reached.Within sequences)
    (apart : ∀ left ∈ sequences, ∀ right ∈ sequences,
      left.storage = right.storage → left = right)
    (committed : cursor.commit reached = .ok moved) : moved.Within sequences := by
  unfold Cursor.commit TokenSequence.sharesStorage at committed
  split at committed
  · rename_i shared
    have same : cursor.sequence = reached.sequence :=
      apart _ within.sequence _ reachedWithin.sequence (beq_iff_eq.mp shared)
    cases committed
    refine ⟨within.sequence, ?_⟩
    have inBounds := reachedWithin.position
    rw [← same] at inBounds
    exact inBounds
  · cases committed

open Enumeration in
theorem derivation (within : cursor.Within sequences) (matcher : Matcher) {found : Derivation}
    (member : found ∈ matcher.derivations cursor.sequence.tokens cursor.position) :
    Within sequences ⟨cursor.sequence, found.position⟩ := by
  rw [Matcher.derivations_eq_enumerate] at member
  have reach := matcher.enumerate_staysInReach _ _ found member
  have farthest : found.position ≤ max cursor.position cursor.sequence.tokens.length := reach.2
  have inBounds := within.position
  exact ⟨within.sequence, by dsimp only; omega⟩

theorem matchAll (within : cursor.Within sequences) (matcher : Matcher) (limit : Option Nat) :
    ∃ run, matcher.matchAll cursor limit = .ok run ∧ run.cursor.Within sequences := by
  obtain ⟨records, run⟩ := matcher.matchAll_eq cursor limit
  refine ⟨_, run, ?_⟩
  dsimp only
  cases last : (List.take (limit.getD ((matcher.derivations cursor.sequence.tokens
      cursor.position).length + 1)) (matcher.derivations cursor.sequence.tokens
      cursor.position)).getLast? with
  | none => exact within
  | some found =>
      have given := List.mem_of_getLast? last
      exact within.derivation matcher (List.mem_of_mem_take given)

end Within

end Cursor

/-- The stream searches one of the sequences, what it holds lies within that sequence, and so does
what it gave last. -/
structure OpenStream.Within (sequences : List TokenSequence) (opened : OpenStream) : Prop where
  held : ∀ found ∈ opened.stream.held,
    Cursor.Within sequences (opened.stream.reached found)
  last : ∀ reached ∈ opened.last, reached.Within sequences

namespace OpenStream.Within

variable {sequences : List TokenSequence}

theorem start {cursor : Cursor} (within : cursor.Within sequences) (matcher : Matcher) :
    OpenStream.Within sequences
      { stream := (DerivationStream.start matcher cursor).2, last := none } := by
  refine ⟨?_, fun reached impossible => by cases impossible⟩
  intro found member
  exact within.derivation matcher member

theorem pull {opened : OpenStream} (within : opened.Within sequences) (reached : Option Cursor)
    (lastWithin : ∀ cursor ∈ reached, cursor.Within sequences) :
    OpenStream.Within sequences { stream := opened.stream.pull.2.2, last := reached } := by
  refine ⟨?_, lastWithin⟩
  intro found member
  rw [(DerivationStream.pull_held opened.stream).2] at member
  have earlier := within.held found (List.mem_of_mem_tail member)
  unfold DerivationStream.reached at earlier ⊢
  rw [DerivationStream.sequence_pull]
  exact earlier

end OpenStream.Within

/-! ### Steps -/

def Step.target? : Step → Option String
  | .newCursor target _ => some target
  | .cloneCursor target _ => some target
  | .advance cursor => some cursor
  | .commit cursor _ => some cursor
  | .matchAll cursor _ _ => some cursor
  | .adopt cursor _ => some cursor
  | _ => none

namespace Session

theorem lookup_assign {α : Type} (name other : String) (value : α)
    (entries : List (String × α)) :
    (assign name value entries).lookup other =
      if other = name then some value else entries.lookup other := by
  induction entries with
  | nil =>
      rw [assign, List.lookup_cons]
      by_cases same : other = name
      · rw [if_pos same, beq_iff_eq.mpr same]
      · rw [if_neg same, beq_false_of_ne same]
  | cons entry later inductionHypothesis =>
      rcases entry with ⟨key, old⟩
      rw [assign, List.lookup_cons]
      by_cases found : key = name
      · subst found
        rw [if_pos rfl, List.lookup_cons]
        by_cases same : other = key
        · rw [if_pos same, beq_iff_eq.mpr same]
        · rw [if_neg same, beq_false_of_ne same]
      · rw [if_neg found, List.lookup_cons, inductionHypothesis]
        by_cases here : other = key
        · have differs : other ≠ name := fun same => found (here.symm.trans same)
          rw [if_neg differs, if_neg differs, beq_iff_eq.mpr here]
        · rw [beq_false_of_ne here]

/-- Every cursor and every stream of the session stays within the session's sequences, and these
are told apart by their storage. -/
structure Sound (session : Session) : Prop where
  cursors : ∀ name cursor, session.cursor? name = some cursor →
    cursor.Within session.sequences
  streams : ∀ name opened, session.streams.lookup name = some opened →
    opened.Within session.sequences
  apart : ∀ left ∈ session.sequences, ∀ right ∈ session.sequences,
    left.storage = right.storage → left = right

def Outcome.Faults (outcome : Outcome) : Prop := ∃ fault, outcome.reply = .fault fault

/-- Everything that a step can do to a session: answer and change nothing, give the cursor that it
is applied to a place within the sequences, or give a stream a state within the sequences. -/
inductive Effect (session : Session) (next : Step) : Outcome → Prop
  | answered (reply : Reply) (records : List Record) :
      Effect session next { reply, records, session }
  | moved (name : String) (cursor : Cursor) (reply : Reply) (records : List Record)
      (target : next.target? = some name) (within : cursor.Within session.sequences)
      (faultless : ∀ fault, reply ≠ .fault fault) :
      Effect session next { reply, records, session := session.setCursor name cursor }
  | streamed (name : String) (opened : OpenStream) (reply : Reply) (records : List Record)
      (within : opened.Within session.sequences) (faultless : ∀ fault, reply ≠ .fault fault) :
      Effect session next { reply, records, session := session.setStream name opened }

namespace Effect

variable {session : Session} {next : Step}

theorem of_bind {α : Type} (needed : Option α) (resume : α → Option Outcome)
    (present : ∀ value, needed = some value →
      Effect session next ((resume value).getD (session.answer .unknown))) :
    Effect session next ((needed >>= resume).getD (session.answer .unknown)) := by
  cases needed with
  | none => exact .answered _ _
  | some value => exact present value rfl

theorem of_move (name : String) (result : Except Fault Cursor)
    (target : next.target? = some name)
    (within : ∀ cursor, result = .ok cursor → cursor.Within session.sequences) :
    Effect session next (session.move name result) := by
  cases result with
  | ok cursor => exact .moved name cursor _ _ target (within cursor rfl) (by simp)
  | error fault => exact .answered _ _

end Effect

theorem effect_step (session : Session) (sound : session.Sound) (next : Step) :
    Effect session next (session.step next) := by
  unfold step
  cases next with
  | newCursor target sequence =>
      refine Effect.of_bind _ _ (fun tokens present => ?_)
      have within := Cursor.within_start (List.mem_of_getElem? present)
      exact .moved target (Cursor.start tokens) _ _ rfl within (by simp)
  | cloneCursor target source =>
      refine Effect.of_bind _ _ (fun cursor present => ?_)
      have within := sound.cursors source cursor present
      exact .moved target cursor _ _ rfl within (by simp)
  | advance name =>
      refine Effect.of_bind _ _ (fun cursor present => ?_)
      refine Effect.of_move name _ rfl (fun moved advanced => ?_)
      exact (sound.cursors name cursor present).advance advanced
  | commit name reached =>
      refine Effect.of_bind _ _ (fun cursor present => ?_)
      refine Effect.of_bind _ _ (fun trial trialPresent => ?_)
      refine Effect.of_move name _ rfl (fun moved committed => ?_)
      exact (sound.cursors name cursor present).commit
        (sound.cursors reached trial trialPresent) sound.apart committed
  | current name => exact Effect.of_bind _ _ (fun _ _ => .answered _ _)
  | peek name => exact Effect.of_bind _ _ (fun _ _ => .answered _ _)
  | isExhausted name => exact Effect.of_bind _ _ (fun _ _ => .answered _ _)
  | remaining name => exact Effect.of_bind _ _ (fun _ _ => .answered _ _)
  | isOperator name text => exact Effect.of_bind _ _ (fun _ _ => .answered _ _)
  | sharesStorage left right =>
      exact Effect.of_bind _ _ (fun _ _ => Effect.of_bind _ _ (fun _ _ => .answered _ _))
  | sameTokens left right =>
      exact Effect.of_bind _ _ (fun _ _ => Effect.of_bind _ _ (fun _ _ => .answered _ _))
  | tokenAt? sequence index => exact Effect.of_bind _ _ (fun _ _ => .answered _ _)
  | tokenAt sequence index => exact Effect.of_bind _ _ (fun _ _ => .answered _ _)
  | matchAll name grammar limit =>
      refine Effect.of_bind _ _ (fun cursor present => ?_)
      refine Effect.of_bind _ _ (fun matcher _ => ?_)
      obtain ⟨run, finished, within⟩ :=
        (sound.cursors name cursor present).matchAll matcher limit
      rw [finished]
      exact .moved name run.cursor _ _ rfl within (by simp)
  | openStream name source grammar =>
      refine Effect.of_bind _ _ (fun cursor present => ?_)
      refine Effect.of_bind _ _ (fun matcher _ => ?_)
      exact .streamed name _ _ _
        (OpenStream.Within.start (sound.cursors source cursor present) matcher) (by simp)
  | pull name =>
      refine Effect.of_bind _ _ (fun opened present => ?_)
      have within := sound.streams name opened present
      have pulled := DerivationStream.pull_held opened.stream
      have kept := DerivationStream.sequence_pull opened.stream
      have onward := within.pull
      -- a pull that gives nothing leaves the last derivation as it was
      cases outcome : opened.stream.pull with
      | mk records result =>
          rcases result with ⟨found, stream⟩
          rw [outcome] at pulled kept onward
          cases found with
          | none => exact .streamed name _ _ _ (onward opened.last within.last) (by simp)
          | some found =>
              have member : found ∈ opened.stream.held := List.mem_of_head? pulled.1.symm
              have reached : (stream.reached found).Within session.sequences := by
                unfold DerivationStream.reached
                rw [show stream.sequence = opened.stream.sequence from kept]
                exact within.held found member
              refine .streamed name _ _ _ (onward (some (stream.reached found)) ?_) (by simp)
              rintro cursor ⟨⟩
              exact reached
  | adopt name source =>
      refine Effect.of_bind _ _ (fun cursor present => ?_)
      refine Effect.of_bind _ _ (fun opened opening => ?_)
      refine Effect.of_bind _ _ (fun reached last => ?_)
      refine Effect.of_move name _ rfl (fun moved committed => ?_)
      exact (sound.cursors name cursor present).commit
        ((sound.streams source opened opening).last reached last) sound.apart committed

/-! ### What one step keeps -/

theorem cursor?_setCursor (session : Session) (name other : String) (cursor : Cursor) :
    (session.setCursor name cursor).cursor? other =
      if other = name then some cursor else session.cursor? other :=
  lookup_assign name other cursor session.cursors

theorem lookup_setStream (session : Session) (name other : String) (opened : OpenStream) :
    (session.setStream name opened).streams.lookup other =
      if other = name then some opened else session.streams.lookup other :=
  lookup_assign name other opened session.streams

theorem Sound.step {session : Session} (sound : session.Sound) (next : Step) :
    (session.step next).session.Sound := by
  have effect := session.effect_step sound next
  generalize session.step next = outcome at effect
  cases effect with
  | answered reply records => exact sound
  | moved name cursor reply records target within faultless =>
      refine ⟨?_, sound.streams, sound.apart⟩
      intro other found present
      rw [cursor?_setCursor] at present
      split at present
      · cases present
        exact within
      · exact sound.cursors other found present
  | streamed name opened reply records within faultless =>
      refine ⟨sound.cursors, ?_, sound.apart⟩
      intro other found present
      rw [lookup_setStream] at present
      split at present
      · cases present
        exact within
      · exact sound.streams other found present

theorem session_eq_of_faults {session : Session} (sound : session.Sound) (next : Step)
    (faults : (session.step next).Faults) : (session.step next).session = session := by
  obtain ⟨fault, replied⟩ := faults
  have effect := session.effect_step sound next
  generalize session.step next = outcome at effect replied
  cases effect with
  | answered reply records => rfl
  | moved name cursor reply records target within faultless =>
      exact absurd replied (faultless fault)
  | streamed name opened reply records within faultless =>
      exact absurd replied (faultless fault)

theorem cursor?_step_of_ne {session : Session} (sound : session.Sound) (next : Step)
    (name : String) (untouched : next.target? ≠ some name) :
    (session.step next).session.cursor? name = session.cursor? name := by
  have effect := session.effect_step sound next
  generalize session.step next = outcome at effect
  cases effect with
  | answered reply records => rfl
  | moved target cursor reply records isTarget within faultless =>
      have differs : name ≠ target := by
        intro same
        exact untouched (same ▸ isTarget)
      rw [cursor?_setCursor, if_neg differs]
  | streamed target opened reply records within faultless => rfl

/-! ### Which steps fault -/

/-- The promises that a step can break: moving or reading at the end, taking over a position from
another storage, and asking for a token that a sequence does not have. -/
def Breaks (session : Session) : Step → Prop
  | .advance name =>
      ∃ cursor, session.cursor? name = some cursor ∧ cursor.isExhausted = true
  | .current name =>
      ∃ cursor, session.cursor? name = some cursor ∧ cursor.isExhausted = true
  | .commit name reached =>
      ∃ cursor, session.cursor? name = some cursor ∧
        ∃ trial, session.cursor? reached = some trial ∧
          cursor.sequence.sharesStorage trial.sequence = false
  | .adopt name source =>
      ∃ cursor, session.cursor? name = some cursor ∧
        ∃ opened, session.streams.lookup source = some opened ∧
          ∃ reached, opened.last = some reached ∧
            cursor.sequence.sharesStorage reached.sequence = false
  | .tokenAt sequence index =>
      ∃ tokens, session.sequences[sequence]? = some tokens ∧ tokens.tokens.length ≤ index
  | _ => False

theorem faults_bind_iff {α : Type} {session : Session} (needed : Option α)
    (resume : α → Option Outcome) {broken : α → Prop}
    (present : ∀ value, needed = some value →
      (((resume value).getD (session.answer .unknown)).Faults ↔ broken value)) :
    ((needed >>= resume).getD (session.answer .unknown)).Faults ↔
      ∃ value, needed = some value ∧ broken value := by
  cases needed with
  | none =>
      constructor
      · rintro ⟨fault, impossible⟩
        cases impossible
      · rintro ⟨value, impossible, _⟩
        cases impossible
  | some value =>
      have here := present value rfl
      constructor
      · intro faults
        exact ⟨value, rfl, here.mp faults⟩
      · rintro ⟨other, ⟨⟩, isBroken⟩
        exact here.mpr isBroken

theorem faults_bind_iff_false {α : Type} {session : Session} (needed : Option α)
    (resume : α → Option Outcome)
    (faultless : ∀ value, needed = some value →
      ¬ ((resume value).getD (session.answer .unknown)).Faults) :
    ((needed >>= resume).getD (session.answer .unknown)).Faults ↔ False := by
  refine (faults_bind_iff needed resume (fun value isNeeded =>
    iff_false_intro (faultless value isNeeded))).trans ?_
  simp

@[simp] theorem faults_mk_iff (reply : Reply) (records : List Record) (session : Session) :
    Outcome.Faults { reply, records, session } ↔ ∃ fault, reply = .fault fault :=
  Iff.rfl

@[simp] theorem faults_answer_iff (session : Session) (reply : Reply) :
    (session.answer reply).Faults ↔ ∃ fault, reply = .fault fault :=
  Iff.rfl

@[simp] theorem faults_move_iff (session : Session) (name : String)
    (result : Except Fault Cursor) :
    (session.move name result).Faults ↔ ∃ fault, result = .error fault := by
  cases result <;> simp [move]

@[simp] theorem tokenReply_eq_fault_iff (result : Except Fault Token) (fault : Fault) :
    tokenReply result = .fault fault ↔ result = .error fault := by
  cases result <;> simp [tokenReply]

@[simp] theorem tokensReply_eq_fault_iff (result : Except Fault (List Token)) (fault : Fault) :
    tokensReply result = .fault fault ↔ result = .error fault := by
  cases result <;> simp [tokensReply]

@[simp] theorem optionalTokenReply_ne_fault (token : Option Token) (fault : Fault) :
    optionalTokenReply token ≠ .fault fault := by
  cases token <;> simp [optionalTokenReply]

theorem faults_iff_breaks {session : Session} (sound : session.Sound) (next : Step) :
    (session.step next).Faults ↔ session.Breaks next := by
  unfold step
  cases next with
  | newCursor target sequence =>
      refine faults_bind_iff_false _ _ (fun tokens present => ?_)
      simp
  | cloneCursor target source =>
      refine faults_bind_iff_false _ _ (fun cursor present => ?_)
      simp
  | advance name =>
      refine faults_bind_iff _ _ (fun cursor present => ?_)
      simpa using cursor.advance_faults_iff
  | commit name reached =>
      refine faults_bind_iff _ _ (fun cursor present => ?_)
      refine faults_bind_iff _ _ (fun trial trialPresent => ?_)
      simpa using cursor.commit_faults_iff trial
  | current name =>
      refine faults_bind_iff _ _ (fun cursor present => ?_)
      have within := sound.cursors name cursor present
      simpa using cursor.current_faults_iff within.position
  | peek name =>
      refine faults_bind_iff_false _ _ (fun cursor present => ?_)
      simp
  | isExhausted name =>
      refine faults_bind_iff_false _ _ (fun cursor present => ?_)
      simp
  | remaining name =>
      refine faults_bind_iff_false _ _ (fun cursor present => ?_)
      have within := sound.cursors name cursor present
      simp [cursor.remaining_eq within.position]
  | isOperator name text =>
      refine faults_bind_iff_false _ _ (fun cursor present => ?_)
      rcases cursor.peek? with _ | token
      · simp
      · simp
  | sharesStorage left right =>
      refine faults_bind_iff_false _ _ (fun leftCursor leftPresent => ?_)
      refine (faults_bind_iff_false _ _ (fun rightCursor rightPresent => ?_)).mp
      simp
  | sameTokens left right =>
      refine faults_bind_iff_false _ _ (fun leftSequence leftPresent => ?_)
      refine (faults_bind_iff_false _ _ (fun rightSequence rightPresent => ?_)).mp
      simp
  | tokenAt? sequence index =>
      refine faults_bind_iff_false _ _ (fun tokens present => ?_)
      simp
  | tokenAt sequence index =>
      refine faults_bind_iff _ _ (fun tokens present => ?_)
      simpa using tokens.get_faults_iff index
  | matchAll name grammar limit =>
      refine faults_bind_iff_false _ _ (fun cursor present => ?_)
      refine (faults_bind_iff_false _ _ (fun matcher _ => ?_)).mp
      obtain ⟨run, finished, _⟩ := (sound.cursors name cursor present).matchAll matcher limit
      rw [finished]
      simp
  | openStream name source grammar =>
      refine faults_bind_iff_false _ _ (fun cursor present => ?_)
      refine (faults_bind_iff_false _ _ (fun matcher _ => ?_)).mp
      simp
  | pull name =>
      refine faults_bind_iff_false _ _ (fun opened present => ?_)
      rcases opened.stream.pull with ⟨records, _ | found, stream⟩
      · simp
      · simp
  | adopt name source =>
      refine faults_bind_iff _ _ (fun cursor present => ?_)
      refine faults_bind_iff _ _ (fun opened opening => ?_)
      refine faults_bind_iff _ _ (fun reached last => ?_)
      simpa using cursor.commit_faults_iff reached

/-! ### Whole runs -/

def after (session : Session) (steps : List Step) : Session :=
  steps.foldl (fun earlier next => (earlier.step next).session) session

theorem sound_initial (sequences : List (List Token)) (grammars : List (String × Matcher)) :
    (initial sequences grammars).Sound := by
  refine ⟨?_, ?_, ?_⟩
  · intro name cursor impossible
    cases impossible
  · intro name opened impossible
    cases impossible
  · intro left leftMember right rightMember sameStorage
    obtain ⟨⟨leftTokens, leftIndex⟩, leftListed, rfl⟩ := List.mem_map.mp leftMember
    obtain ⟨⟨rightTokens, rightIndex⟩, rightListed, rfl⟩ := List.mem_map.mp rightMember
    -- the storage of a sequence is its index, and an index belongs to one sequence
    rw [List.mk_mem_zipIdx_iff_getElem?] at leftListed rightListed
    dsimp only at sameStorage
    rw [sameStorage, rightListed] at leftListed
    rw [sameStorage, Option.some.inj leftListed]

theorem Sound.after {session : Session} (sound : session.Sound) (steps : List Step) :
    (session.after steps).Sound := by
  induction steps generalizing session with
  | nil => exact sound
  | cons next later inductionHypothesis => exact inductionHypothesis (sound.step next)

/-- What can be relied on at a moment of a session. -/
structure Reliable (session : Session) : Prop where
  in_bounds : ∀ name cursor, session.cursor? name = some cursor →
    cursor.sequence ∈ session.sequences ∧ cursor.position ≤ cursor.sequence.tokens.length
  reached_in_bounds : ∀ name opened reached, session.streams.lookup name = some opened →
    opened.last = some reached →
      reached.sequence ∈ session.sequences ∧ reached.position ≤ reached.sequence.tokens.length
  remaining : ∀ name cursor, session.cursor? name = some cursor →
    cursor.remaining = .ok (cursor.sequence.tokens.drop cursor.position)
  peek : ∀ name cursor, session.cursor? name = some cursor →
    (cursor.peek? = none ↔ cursor.isExhausted = true)
  leaf : ∀ (cursor : Cursor) (test : TokenTest),
    ∀ found ∈ Search.ofToken cursor.sequence.tokens test cursor.position,
      cursor.advance = .ok { cursor with position := found.position }
  faults : ∀ next, (session.step next).Faults ↔ session.Breaks next
  atomic : ∀ next, (session.step next).Faults → (session.step next).session = session
  frame : ∀ next name, next.target? ≠ some name →
    (session.step next).session.cursor? name = session.cursor? name

theorem advance_of_leaf (cursor : Cursor) (test : TokenTest) (found : Derivation)
    (member : found ∈ Search.ofToken cursor.sequence.tokens test cursor.position) :
    cursor.advance = .ok { cursor with position := found.position } := by
  rw [Matcher.ofToken_eq] at member
  obtain ⟨token, present, rfl⟩ := List.mem_map.mp member
  have atPosition := (Option.mem_filter_iff.mp (Option.mem_toList.mp present)).1
  have inside := (List.getElem?_eq_some_iff.mp atPosition).1
  have notExhausted : ¬ cursor.isExhausted = true := by
    rw [Cursor.isExhausted_iff]
    omega
  unfold Cursor.advance
  rw [if_neg notExhausted]

/-- However cursors are made, cloned, advanced, committed and matched, and streams opened, pulled
and adopted from, whatever the sequences and the grammars: all of this can be relied on. -/
theorem reliable_after_every_run (sequences : List (List Token))
    (grammars : List (String × Matcher)) (steps : List Step) :
    ((initial sequences grammars).after steps).Reliable := by
  have sound := (sound_initial sequences grammars).after steps
  refine
    { in_bounds := ?_
      reached_in_bounds := ?_
      remaining := ?_
      peek := ?_
      leaf := advance_of_leaf
      faults := faults_iff_breaks sound
      atomic := session_eq_of_faults sound
      frame := cursor?_step_of_ne sound }
  · intro name cursor present
    have within := sound.cursors name cursor present
    exact ⟨within.sequence, within.position⟩
  · intro name opened reached present last
    have within := (sound.streams name opened present).last reached last
    exact ⟨within.sequence, within.position⟩
  · intro name cursor present
    exact cursor.remaining_eq (sound.cursors name cursor present).position
  · intro name cursor present
    exact cursor.peek?_eq_none_iff (sound.cursors name cursor present).position

/-- A cursor at the end cannot advance, and it takes over no position from an equal sequence that
is stored elsewhere; neither attempt changes anything. -/
theorem exhausted_and_foreign_fault :
    let token : Token := ⟨.identifier, "a", ⟨0, 1, "."⟩⟩
    let session := (initial [[token], [token]] []).after
      [.newCursor "left" 0, .newCursor "right" 1, .advance "left"]
    session.cursor? "left" = some ⟨⟨0, [token]⟩, 1⟩ ∧
      session.cursor? "right" = some ⟨⟨1, [token]⟩, 0⟩ ∧
      (session.step (.advance "left")).Faults ∧
      (session.step (.commit "left" "right")).Faults ∧
      (session.step (.commit "left" "right")).session = session := by
  intro token session
  have reliable : session.Reliable := reliable_after_every_run [[token], [token]] []
    [.newCursor "left" 0, .newCursor "right" 1, .advance "left"]
  have left : session.cursor? "left" = some ⟨⟨0, [token]⟩, 1⟩ := by decide +kernel
  have right : session.cursor? "right" = some ⟨⟨1, [token]⟩, 0⟩ := by decide +kernel
  have exhausted : (session.step (.advance "left")).Faults :=
    (reliable.faults _).mpr ⟨_, left, rfl⟩
  have foreign : (session.step (.commit "left" "right")).Faults :=
    (reliable.faults _).mpr ⟨_, left, _, right, rfl⟩
  exact ⟨left, right, exhausted, foreign, reliable.atomic _ foreign⟩

end Session

end TokenGrammar
