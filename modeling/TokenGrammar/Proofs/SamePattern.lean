import TokenGrammar.Proofs.SearchLog

set_option autoImplicit false

/-! Matchers that differ in their transforms only. The interpreter of a matcher without its
transforms gives the events of the matcher, with the transforms taken out of the records; since the
text of a record does not show them, two matchers of one pattern search, tell and move cursors
alike, whatever their transforms do to values. -/

namespace TokenGrammar

namespace Matcher

/-- The pattern tree of a matcher: the same nodes without transforms. -/
def bare : Matcher → Matcher
  | .token test _ => .token test none
  | .finish _ => .finish none
  | .alternation branches _ => .alternation (branches.map bare) none
  | .sequence items _ => .sequence (items.map bare) none
  | .repetition item least most _ => .repetition item.bare least most none

end Matcher

def Record.bare : Record → Record
  | .tried matcher position => .tried matcher.bare position
  | .matched matcher position => .matched matcher.bare position
  | other => other

/-! ### Texts -/

namespace Matcher

private theorem compactTexts_congr (separator : List Char) (change : Matcher → Matcher)
    (matchers : List Matcher)
    (same : ∀ matcher ∈ matchers, (change matcher).compactText = matcher.compactText) :
    compactTexts separator (matchers.map change) = compactTexts separator matchers := by
  induction matchers with
  | nil => rfl
  | cons first later inductionHypothesis =>
      have firstSame := same first List.mem_cons_self
      have laterSame := inductionHypothesis
        (fun matcher member => same matcher (List.mem_cons_of_mem first member))
      cases later with
      | nil => simp only [List.map_cons, List.map_nil, compactTexts, firstSame]
      | cons second others =>
          rw [List.map_cons] at laterSame
          simp only [List.map_cons, compactTexts, firstSame, laterSame]

theorem compactText_bare (matcher : Matcher) : matcher.bare.compactText = matcher.compactText := by
  induction matcher with
  | token test transform => simp only [bare, compactText]
  | finish transform => simp only [bare, compactText]
  | alternation branches transform each =>
      simp only [bare, compactText, compactTexts_congr _ bare branches each]
  | sequence items transform each =>
      simp only [bare, compactText, compactTexts_congr _ bare items each]
  | repetition item least most transform itemSame =>
      simp only [bare, compactText, itemSame]

end Matcher

private theorem Record.line_bare (record : Record) : record.bare.line = record.line := by
  cases record with
  | tried matcher position =>
      simp only [bare, line, level, text, Matcher.compact, Matcher.compactText_bare]
  | matched matcher position =>
      simp only [bare, line, level, text, Matcher.compact, Matcher.compactText_bare]
  | tokenized count file => rfl
  | committed position => rfl

private theorem map_line_eq_of_bare (left right : List Record)
    (same : left.map Record.bare = right.map Record.bare) :
    left.map Record.line = right.map Record.line := by
  have lines := congrArg (List.map Record.line) same
  rw [List.map_map, List.map_map] at lines
  simpa only [Function.comp_def, Record.line_bare] using lines

/-! ### Events with other records -/

namespace Event

def relabel (change : Record → Record) : Event → Event
  | told record => told (change record)
  | yielded position => yielded position

variable (change : Record → Record)

private theorem records_relabel (events : List Event) :
    records (events.map (relabel change)) = (records events).map change := by
  induction events with
  | nil => rfl
  | cons event later inductionHypothesis =>
      cases event with
      | told record => exact congrArg (change record :: ·) inductionHypothesis
      | yielded position => exact inductionHypothesis

theorem positions_relabel (events : List Event) :
    positions (events.map (relabel change)) = positions events := by
  induction events with
  | nil => rfl
  | cons event later inductionHypothesis =>
      cases event with
      | told record => exact inductionHypothesis
      | yielded position => exact congrArg (position :: ·) inductionHypothesis

theorem untilYield_relabel (events : List Event) :
    untilYield (events.map (relabel change)) = (untilYield events).map change := by
  induction events with
  | nil => rfl
  | cons event later inductionHypothesis =>
      cases event with
      | told record => exact congrArg (change record :: ·) inductionHypothesis
      | yielded position => rfl

theorem afterYield_relabel (events : List Event) :
    afterYield (events.map (relabel change)) = (afterYield events).map (relabel change) := by
  induction events with
  | nil => rfl
  | cons event later inductionHypothesis =>
      cases event with
      | told record => exact inductionHypothesis
      | yielded position => rfl

private theorem relabel_flatMap_resumed (following : Nat → List Event) (events : List Event) :
    (events.flatMap (resumed following)).map (relabel change) =
      (events.map (relabel change)).flatMap
        (resumed (fun stop => (following stop).map (relabel change))) := by
  rw [List.map_flatMap, List.flatMap_map]
  congr 1
  funext event
  cases event <;> rfl

end Event

namespace Interpretation

open Event (relabel)

variable (change : Record → Record)

private theorem relabel_inTurn (steps : List (Nat → List Event)) (position : Nat) :
    (inTurn steps position).map (relabel change) =
      inTurn (steps.map (fun step start => (step start).map (relabel change))) position := by
  induction steps generalizing position with
  | nil => rfl
  | cons step later inductionHypothesis =>
      rw [inTurn, Event.relabel_flatMap_resumed, List.map_cons, inTurn]
      congr 2
      funext stop
      exact inductionHypothesis stop

private theorem relabel_collected (tokens : List Token) (step : Nat → List Event) (least : Nat)
    (most : Option Nat) (count position : Nat) :
    (collected tokens step least most count position).map (relabel change) =
      collected tokens (fun start => (step start).map (relabel change)) least most count
        position := by
  fun_induction collected tokens step least most count position with
  | case1 count position inductionHypothesis =>
      rw [Event.relabel_flatMap_resumed, collected]
      congr 2
      funext stop
      rw [List.map_append]
      congr 1
      · split <;> rfl
      · split
        · rename_i extending
          exact inductionHypothesis stop extending
        · rfl

private theorem relabel_collection (tokens : List Token) (step : Nat → List Event) (least : Nat)
    (most : Option Nat) (position : Nat) :
    (collection tokens step least most position).map (relabel change) =
      collection tokens (fun start => (step start).map (relabel change)) least most position := by
  rw [collection, collection, List.map_append]
  congr 1
  · split <;> rfl
  · split
    · rfl
    · exact relabel_collected change tokens step least most 0 position

private theorem relabel_repeated (tokens : List Token) (step : Nat → List Event) (least : Nat)
    (most : Option Nat) (position : Nat) :
    (repeated tokens step least most position).map (relabel change) =
      repeated tokens (fun start => (step start).map (relabel change)) least most position := by
  rw [repeated, repeated, ← relabel_collection, Event.records_relabel, Event.positions_relabel,
    List.map_append, List.map_map, List.map_map, List.map_map]
  rfl

private theorem relabel_announced (matcher : Matcher) (position : Nat) (inner : List Event) :
    (announced matcher position inner).map (relabel Record.bare) =
      announced matcher.bare position (inner.map (relabel Record.bare)) := by
  rw [announced, announced, announcing, announcing, List.map_cons,
    Event.relabel_flatMap_resumed]
  rfl

end Interpretation

namespace Matcher

open Event (relabel)
open Interpretation

theorem interpret_bare (tokens : List Token) (matcher : Matcher) (position : Nat) :
    matcher.bare.interpret tokens position =
      (matcher.interpret tokens position).map (relabel Record.bare) := by
  induction matcher generalizing position with
  | token test transform =>
      rw [interpret, relabel_announced, bare, interpret, List.map_map]
      rfl
  | finish transform =>
      rw [interpret, relabel_announced, bare, interpret]
      congr 1
      split <;> rfl
  | alternation branches transform each =>
      rw [interpret, relabel_announced, bare, interpret, List.map_flatMap, List.flatMap_map]
      congr 1
      apply List.flatMap_congr
      intro branch member
      exact each branch member position
  | sequence items transform each =>
      have steps : (items.map bare).map (fun item => item.interpret tokens) =
          (items.map (fun item => item.interpret tokens)).map
            (fun step start => (step start).map (relabel Record.bare)) := by
        rw [List.map_map, List.map_map]
        exact List.map_congr_left (fun item member => funext (each item member))
      rw [interpret, relabel_announced, bare, interpret, relabel_inTurn, steps]
  | repetition item least most transform itemSame =>
      have step : item.bare.interpret tokens =
          fun start => (item.interpret tokens start).map (relabel Record.bare) :=
        funext itemSame
      rw [interpret, relabel_announced, bare, interpret, relabel_repeated, step]

private theorem leftEdge_bare (matcher : Matcher) :
    matcher.bare.leftEdge = matcher.leftEdge.map bare := by
  induction matcher with
  | sequence items transform each =>
      cases items with
      | nil => simp [bare, leftEdge]
      | cons first later => simp [bare, leftEdge, each first List.mem_cons_self]
  | _ => simp [bare, leftEdge]

theorem records_derive_bare (tokens : List Token) (matcher : Matcher) (position : Nat) :
    (matcher.derive tokens position).records.map Record.bare =
      (matcher.bare.derive tokens position).records := by
  rw [records_derive, records_derive, leftEdge_bare, List.map_map, List.map_map]
  rfl

theorem pending_derive_bare (tokens : List Token) (matcher : Matcher) (position : Nat) :
    ((matcher.derive tokens position).pending ()).events.map (relabel Record.bare) =
      ((matcher.bare.derive tokens position).pending ()).events := by
  have all := matcher.interpret_bare tokens position
  rw [← events_derive, ← events_derive, Opening.events_eq, Opening.events_eq, List.map_append,
    List.map_map] at all
  -- opening tells as many records with transforms as without, so the rest starts at the same event
  have opening := congrArg List.length (matcher.records_derive_bare tokens position)
  rw [List.length_map] at opening
  exact (List.append_inj_right all (by simp [opening])).symm

end Matcher

/-! ### Streams that go alike -/

/-- Two streams whose pulls tell and reach the same, whatever values they give. -/
def DerivationStream.Alike (left right : DerivationStream) : Prop :=
  left.events.map (Event.relabel Record.bare) = right.events.map (Event.relabel Record.bare)

namespace DerivationStream.Alike

variable {left right : DerivationStream}

theorem start (first second : Matcher) (same : first.bare = second.bare) (cursor : Cursor) :
    Alike (DerivationStream.start first cursor).2 (DerivationStream.start second cursor).2 := by
  have firstEvents := first.pending_derive_bare cursor.sequence.tokens cursor.position
  rw [same, ← second.pending_derive_bare] at firstEvents
  exact firstEvents

theorem told (alike : Alike left right) :
    left.pull.1.map Record.bare = right.pull.1.map Record.bare := by
  rw [(pull_events left).1, (pull_events right).1, ← Event.untilYield_relabel,
    alike, Event.untilYield_relabel]

theorem pull (alike : Alike left right) : Alike left.pull.2.2 right.pull.2.2 := by
  unfold Alike at alike ⊢
  rw [(pull_events left).2, (pull_events right).2, ← Event.afterYield_relabel,
    alike, Event.afterYield_relabel]

theorem after (alike : Alike left right) (count : Nat) :
    Alike (left.after count) (right.after count) := by
  induction count generalizing left right with
  | zero => exact alike
  | succ count inductionHypothesis => exact inductionHypothesis alike.pull

theorem positions (alike : Alike left right) :
    left.held.map Derivation.position = right.held.map Derivation.position := by
  have same := congrArg Event.positions alike
  rw [Event.positions_relabel, Event.positions_relabel, DerivationStream.events,
    DerivationStream.events, Search.positions_events, Search.positions_events] at same
  exact same

end DerivationStream.Alike

namespace Matcher

/-- Two matchers of one pattern, whatever transforms they carry: their derivations reach the same
positions in the same order, opening them and each pull tell the same lines, and after any number
of calls their matchings have moved the cursor to the same place. -/
theorem transforms_do_not_steer (left right : Matcher) (samePattern : left.bare = right.bare)
    (cursor : Cursor) :
    let leftOpened := DerivationStream.start left cursor
    let rightOpened := DerivationStream.start right cursor
    (left.derivations cursor.sequence.tokens cursor.position).map Derivation.position =
      (right.derivations cursor.sequence.tokens cursor.position).map Derivation.position ∧
    leftOpened.1.map Record.line = rightOpened.1.map Record.line ∧
    (∀ count, (leftOpened.2.after count).pull.1.map Record.line =
      (rightOpened.2.after count).pull.1.map Record.line) ∧
    (∀ count, ∃ leftMatching rightMatching,
      (Matching.start left cursor).2.after count = .ok leftMatching ∧
      (Matching.start right cursor).2.after count = .ok rightMatching ∧
      leftMatching.cursor = rightMatching.cursor) := by
  intro leftOpened rightOpened
  have alike := DerivationStream.Alike.start left right samePattern cursor
  refine ⟨alike.positions, ?_, ?_, ?_⟩
  · apply map_line_eq_of_bare
    have opening := left.records_derive_bare cursor.sequence.tokens cursor.position
    rw [samePattern, ← right.records_derive_bare] at opening
    exact opening
  · intro count
    exact map_line_eq_of_bare _ _ (alike.after count).told
  · intro count
    obtain ⟨leftMatching, leftRun, leftMoved, _⟩ :=
      (Matching.start left cursor).2.after_eq count rfl
    obtain ⟨rightMatching, rightRun, rightMoved, _⟩ :=
      (Matching.start right cursor).2.after_eq count rfl
    refine ⟨leftMatching, rightMatching, leftRun, rightRun, ?_⟩
    rw [leftMoved, rightMoved]
    change Cursor.mk cursor.sequence ((leftOpened.2.held.map Derivation.position).take
        count |>.getLast?.getD cursor.position) = _
    rw [alike.positions]
    rfl

/-- The first matcher forgets its tokens and counts them, the second keeps them. Their values
differ; where they get to and what they tell does not. -/
theorem counted_pluses_go_alike :
    let plus : Token := ⟨.operator, "+", ⟨0, 1, "."⟩⟩
    let counting := repetition (token (.text "+") (some Transform.toNull)) 1 none
      (some Transform.count)
    let plain := repetition (ofText "+") 1 none none
    let cursor : Cursor := ⟨⟨0, [plus, plus]⟩, 0⟩
    counting.bare = plain.bare ∧
      counting.derivations [plus, plus] 0 = [⟨.integer 2, 2⟩, ⟨.integer 1, 1⟩] ∧
      (plain.derivations [plus, plus] 0).map Derivation.position = [2, 1] ∧
      (∀ count,
        ((DerivationStream.start counting cursor).2.after count).pull.1.map Record.line =
          ((DerivationStream.start plain cursor).2.after count).pull.1.map Record.line) := by
  intro plus counting plain cursor
  have samePattern : counting.bare = plain.bare := by
    cbv
  obtain ⟨positions, _, lines, _⟩ := transforms_do_not_steer counting plain samePattern cursor
  have counted : counting.derivations [plus, plus] 0 = [⟨.integer 2, 2⟩, ⟨.integer 1, 1⟩] := by
    rw [derivations_eq_enumerate]
    cbv
  refine ⟨samePattern, counted, ?_, lines⟩
  rw [← positions]
  exact congrArg (List.map Derivation.position) counted

end Matcher

end TokenGrammar
