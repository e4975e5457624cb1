import TokenGrammar.Proofs.Sessions

set_option autoImplicit false

/-! Streams in sessions. A step that neither opens nor pulls a stream leaves it as it is, and a pull
does to it what a pull does to a stream outside any session. So between its opening and its next
opening a stream gives what it would give alone, whatever is done to the cursor that it was opened
from and to other streams in the meantime. -/

namespace TokenGrammar

namespace Step

def openedStream? : Step → Option String
  | .openStream stream _ _ => some stream
  | _ => none

def pulledStream? : Step → Option String
  | .pull stream => some stream
  | _ => none

def pullsOf (name : String) (steps : List Step) : Nat :=
  steps.countP (fun step => step.pulledStream? == some name)

end Step

def Reply.ofPull : Option Derivation → Reply
  | some found => .derivation found
  | none => .nothing

namespace Session

/-! ### One step -/

/-- The outcome leaves a stream as it was. -/
def Keeps (session : Session) (name : String) (outcome : Outcome) : Prop :=
  outcome.session.streams.lookup name = session.streams.lookup name

namespace Keeps

variable {session : Session} {name : String}

theorem of_bind {α : Type} (needed : Option α) (resume : α → Option Outcome)
    (present : ∀ value, Keeps session name ((resume value).getD (session.answer .unknown))) :
    Keeps session name ((needed >>= resume).getD (session.answer .unknown)) := by
  cases needed with
  | none => rfl
  | some value => exact present value

theorem of_move (target : String) (result : Except Fault Cursor) :
    Keeps session name (session.move target result) := by
  cases result <;> rfl

theorem of_setStream (other : String) (opened : OpenStream) (reply : Reply)
    (records : List Record) (differs : name ≠ other) :
    Keeps session name { reply, records, session := session.setStream other opened } :=
  (lookup_setStream session other name opened).trans (if_neg differs)

end Keeps

theorem keeps_step (session : Session) (next : Step) (name : String)
    (notOpened : next.openedStream? ≠ some name) (notPulled : next.pulledStream? ≠ some name) :
    Keeps session name (session.step next) := by
  unfold step
  cases next with
  | advance => exact Keeps.of_bind _ _ (fun _ => Keeps.of_move _ _)
  | commit =>
      refine Keeps.of_bind _ _ (fun cursor => ?_)
      exact Keeps.of_bind _ _ (fun trial => Keeps.of_move _ _)
  | adopt =>
      refine Keeps.of_bind _ _ (fun cursor => ?_)
      refine Keeps.of_bind _ _ (fun opened => ?_)
      exact Keeps.of_bind _ _ (fun reached => Keeps.of_move _ _)
  | sharesStorage => exact Keeps.of_bind _ _ (fun _ => Keeps.of_bind _ _ (fun _ => rfl))
  | sameTokens => exact Keeps.of_bind _ _ (fun _ => Keeps.of_bind _ _ (fun _ => rfl))
  | matchAll target grammar limit =>
      refine Keeps.of_bind _ _ (fun cursor => ?_)
      refine Keeps.of_bind _ _ (fun matcher => ?_)
      cases matcher.matchAll cursor limit <;> rfl
  | openStream other source grammar =>
      have differs : name ≠ other := fun same => notOpened (congrArg some same.symm)
      refine Keeps.of_bind _ _ (fun cursor => ?_)
      exact Keeps.of_bind _ _ (fun matcher => Keeps.of_setStream other _ _ _ differs)
  | pull other =>
      have differs : name ≠ other := fun same => notPulled (congrArg some same.symm)
      refine Keeps.of_bind _ _ (fun opened => ?_)
      rcases opened.stream.pull with ⟨records, _ | found, stream⟩
      · exact Keeps.of_setStream other _ _ _ differs
      · exact Keeps.of_setStream other _ _ _ differs
  | _ => exact Keeps.of_bind _ _ (fun _ => rfl)

private theorem step_openStream (session : Session) (name source grammar : String) (cursor : Cursor)
    (matcher : Matcher) (cursorKnown : session.cursor? source = some cursor)
    (grammarKnown : session.grammars.lookup grammar = some matcher) :
    (session.step (.openStream name source grammar)).session =
      session.setStream name
        { stream := (DerivationStream.start matcher cursor).2, last := none } := by
  simp [step, step?, cursorKnown, grammarKnown]

theorem step_pull (session : Session) (name : String) (opened : OpenStream)
    (present : session.streams.lookup name = some opened) :
    ∃ last, session.step (.pull name) =
      { reply := .ofPull opened.stream.pull.2.1
        records := opened.stream.pull.1
        session := session.setStream name { stream := opened.stream.pull.2.2, last } } := by
  simp only [step, step?, present, Option.bind_eq_bind, Option.bind_some]
  rcases opened.stream.pull with ⟨records, _ | found, stream⟩
  · exact ⟨opened.last, rfl⟩
  · exact ⟨some (stream.reached found), rfl⟩

/-! ### Whole runs -/

/-- Through any steps that do not open it anew, a stream is pulled as often as the steps pull it,
and nothing else happens to it. -/
theorem lookup_after (session : Session) (name : String) (opened : OpenStream)
    (present : session.streams.lookup name = some opened) (steps : List Step)
    (notReopened : ∀ step ∈ steps, step.openedStream? ≠ some name) :
    ∃ last, (session.after steps).streams.lookup name =
      some { stream := opened.stream.after (Step.pullsOf name steps), last } := by
  induction steps generalizing session opened with
  | nil => exact ⟨opened.last, present⟩
  | cons next later inductionHypothesis =>
      have laterNotReopened : ∀ step ∈ later, step.openedStream? ≠ some name :=
        fun step member => notReopened step (List.mem_cons_of_mem next member)
      by_cases pulls : next.pulledStream? = some name
      · have isPull : next = .pull name := by
          cases next with
          | pull other => rw [Option.some.inj pulls]
          | _ => cases pulls
        subst isPull
        obtain ⟨last, pulled⟩ := session.step_pull name opened present
        have onward : (session.step (.pull name)).session.streams.lookup name =
            some { stream := opened.stream.pull.2.2, last } := by
          rw [pulled, lookup_setStream, if_pos rfl]
        obtain ⟨final, run⟩ := inductionHypothesis _ _ onward laterNotReopened
        refine ⟨final, run.trans ?_⟩
        rw [Step.pullsOf, Step.pullsOf, List.countP_cons_of_pos (by simp [Step.pulledStream?]),
          DerivationStream.after]
      · have kept := session.keeps_step next name (notReopened next List.mem_cons_self) pulls
        obtain ⟨final, run⟩ := inductionHypothesis _ _ (kept.trans present) laterNotReopened
        refine ⟨final, run.trans ?_⟩
        rw [Step.pullsOf, Step.pullsOf, List.countP_cons_of_neg (by simpa using pulls)]

/-- A stream is opened from a cursor, and any steps follow that do not open it anew: cursors are
made, moved and matched, this stream and others are pulled, others are opened. Then a pull of it
gives what a pull gives of the same stream outside the session, opened where the cursor stood at
the opening and pulled as often as the steps have pulled it, and it tells the same. If that is the
end, every later pull is at the end too. -/
theorem pull_as_if_alone (session : Session) (name source grammar : String) (cursor : Cursor)
    (matcher : Matcher) (cursorKnown : session.cursor? source = some cursor)
    (grammarKnown : session.grammars.lookup grammar = some matcher) (steps : List Step)
    (notReopened : ∀ step ∈ steps, step.openedStream? ≠ some name) :
    let alone := (DerivationStream.start matcher cursor).2
    let pulls := Step.pullsOf name steps
    let outcome := (session.after (.openStream name source grammar :: steps)).step (.pull name)
    outcome.reply = .ofPull (alone.after pulls).pull.2.1 ∧
      outcome.records = (alone.after pulls).pull.1 ∧
      ((alone.after pulls).pull.2.1 = none →
        ∀ later, pulls ≤ later → (alone.after later).pull.2.1 = none) := by
  intro alone pulls outcome
  have opened : (session.step (.openStream name source grammar)).session.streams.lookup name =
      some { stream := alone, last := none } := by
    rw [step_openStream session name source grammar cursor matcher cursorKnown grammarKnown,
      lookup_setStream, if_pos rfl]
  obtain ⟨last, run⟩ := lookup_after _ name _ opened steps notReopened
  obtain ⟨_, pulled⟩ := step_pull _ name _ run
  refine ⟨congrArg Outcome.reply pulled, congrArg Outcome.records pulled, ?_⟩
  intro ended later after
  rw [DerivationStream.pull_after, List.getElem?_eq_none_iff] at ended ⊢
  omega

/-- Two streams over the same grammar from the same cursor, which is then moved and matched. The
second pull of the first stream still gives its second derivation. -/
theorem interleaved_pull_gives_second :
    let plus : Token := ⟨.operator, "+", ⟨0, 1, "."⟩⟩
    let pluses := Matcher.repetition (Matcher.ofText "+") 0 none none
    let session := (initial [[plus, plus]] [("pluses", pluses)]).after [.newCursor "here" 0]
    let steps : List Step := [.openStream "other" "here" "pluses", .pull "one", .advance "here",
      .pull "other", .matchAll "here" "pluses" none, .pull "other"]
    session.cursor? "here" = some ⟨⟨0, [plus, plus]⟩, 0⟩ ∧
      (∀ step ∈ steps, step.openedStream? ≠ some "one") ∧
      ((session.after (.openStream "one" "here" "pluses" :: steps)).step (.pull "one")).reply =
        .derivation ⟨.list [.token plus], 1⟩ := by
  intro plus pluses session steps
  have here : session.cursor? "here" = some ⟨⟨0, [plus, plus]⟩, 0⟩ := rfl
  have grammar : session.grammars.lookup "pluses" = some pluses := rfl
  have notReopened : ∀ step ∈ steps, step.openedStream? ≠ some "one" := by
    simp [steps, Step.openedStream?]
  obtain ⟨replied, _⟩ := pull_as_if_alone session "one" "here" "pluses" _ pluses here grammar
    steps notReopened
  refine ⟨here, notReopened, replied.trans ?_⟩
  rw [DerivationStream.pull_after, Matcher.held_start, Matcher.derivations_eq_enumerate]
  cbv

end Session

end TokenGrammar
