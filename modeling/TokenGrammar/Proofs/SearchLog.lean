import TokenGrammar.Proofs.Derivations
import TokenGrammar.Proofs.Events

set_option autoImplicit false

/-! The log of a search. An eager interpreter runs a grammar tree from a position, with nothing
suspended, and gives the events in the order in which they happen. The main statement is that a
stream tells exactly what the interpreter tells, up to the record that announces the last
derivation asked for, and that opening the stream tells no more than that the nodes along its left
edge are tried. -/

namespace TokenGrammar

namespace Interpretation

open Enumeration (extendable room room_lt_of_extendable)

def announcing (matcher : Matcher) (inner : List Event) : List Event :=
  inner.flatMap (Event.resumed (fun stop => [.told (.matched matcher stop), .yielded stop]))

def announced (matcher : Matcher) (position : Nat) (inner : List Event) : List Event :=
  .told (.tried matcher position) :: announcing matcher inner

/-- The events of steps in turn: at each yield of a step the later steps run from there, before the
step is resumed. -/
def inTurn : List (Nat → List Event) → Nat → List Event
  | [], position => [.yielded position]
  | step :: later, position => (step position).flatMap (Event.resumed (inTurn later))

/-- The events of a depth-first collection of step lists, where `count` steps have been taken
before. Each list that is long enough is found before the lists that extend it. -/
def collected (tokens : List Token) (step : Nat → List Event) (least : Nat) (most : Option Nat)
    (count position : Nat) : List Event :=
  (step position).flatMap (Event.resumed (fun stop =>
    (if least ≤ count + 1 then [.yielded stop] else []) ++
      if extendable tokens most (count + 1) position stop then
        collected tokens step least most (count + 1) stop
      else []))
termination_by room tokens most count position
decreasing_by exact room_lt_of_extendable ‹_›

def collection (tokens : List Token) (step : Nat → List Event) (least : Nat) (most : Option Nat)
    (position : Nat) : List Event :=
  (if least = 0 then [.yielded position] else []) ++
    if most = some 0 then [] else collected tokens step least most 0 position

def repeated (tokens : List Token) (step : Nat → List Event) (least : Nat) (most : Option Nat)
    (position : Nat) : List Event :=
  let events := collection tokens step least most position
  (Event.records events).map .told ++ (Event.positions events).reverse.map .yielded

end Interpretation

namespace Matcher

open Interpretation

/-- Runs a grammar tree from a position, eagerly. -/
def interpret (tokens : List Token) : Matcher → Nat → List Event
  | .token test transform, position =>
      announced (.token test transform) position
        ((tokens[position]?.filter test.accepts).toList.map (fun _ => .yielded (position + 1)))
  | .finish transform, position =>
      announced (.finish transform) position
        (if position = tokens.length then [.yielded position] else [])
  | .alternation branches transform, position =>
      announced (.alternation branches transform) position
        (branches.flatMap (fun branch => branch.interpret tokens position))
  | .sequence items transform, position =>
      announced (.sequence items transform) position
        (inTurn (items.map (fun item => item.interpret tokens)) position)
  | .repetition item least most transform, position =>
      announced (.repetition item least most transform) position
        (repeated tokens (item.interpret tokens) least most position)

def log (tokens : List Token) (matcher : Matcher) (position : Nat) : List Record :=
  Event.records (matcher.interpret tokens position)

/-- The nodes that are tried as soon as a matcher is: the matcher itself, and as long as it is a
sequence with a first item, the first item. -/
def leftEdge : Matcher → List Matcher
  | .sequence (first :: later) transform => .sequence (first :: later) transform :: leftEdge first
  | matcher => [matcher]

end Matcher

/-- Whether a record announces a derivation of the matcher. A log names matchers by their compact
text. -/
def Record.announces (matcher : Matcher) : Record → Bool
  | .matched node _ => node.compactText == matcher.compactText
  | _ => false

/-- A log cut right after a number of records that announce a derivation of the matcher, or all of
it if there are fewer. -/
def Matcher.cutAfter (matcher : Matcher) : List Record → Nat → List Record
  | _, 0 => []
  | [], _ => []
  | entry :: later, count + 1 =>
      entry :: cutAfter matcher later (if entry.announces matcher then count else count + 1)

/-! ### Searches run like the interpreter -/

namespace Opening

open Interpretation

theorem events_pending_announce (matcher : Matcher) (position : Nat) (inner : Opening) :
    ((announce matcher position inner).pending ()).events =
      announcing matcher (inner.pending ()).events :=
  Search.events_bind (inner.pending ()) _ _ (fun _ => rfl)

private theorem events_announce (matcher : Matcher) (position : Nat) (inner : Opening) :
    (announce matcher position inner).events = announced matcher position inner.events := by
  have quiet := Event.flatMap_resumed_told
    (fun stop => [.told (.matched matcher stop), .yielded stop]) inner.records
  rw [events_eq, events_pending_announce, announced, announcing, announcing, inner.events_eq,
    List.flatMap_append, quiet]
  rfl

end Opening

namespace Repetition

open Enumeration (StaysInReach)
open Interpretation

theorem events_kept (repetition : Repetition) (values : List Value) (position : Nat)
    (following : Unit → Search) :
    (repetition.kept values position following).events =
      (if repetition.least ≤ values.length then [.yielded position] else []) ++
        (following ()).events := by
  unfold kept
  split <;> rfl

private theorem events_extensions (repetition : Repetition) (tokens : List Token)
    (values : List Value) (position : Nat) :
    (repetition.extensions tokens values position).events =
      collected tokens (fun start => (repetition.item start).events) repetition.least
        repetition.most values.length position := by
  fun_induction extensions repetition tokens values position with
  | case1 values position inductionHypothesis =>
      rw [collected]
      apply Opening.events_bind
      intro step
      -- of the values in front only their number is left
      have counted : (values ++ [step.value]).length = values.length + 1 := by simp
      rw [events_kept, counted]
      congr 1
      split
      · rename_i extending
        rw [inductionHypothesis step extending, counted]
      · rfl

private theorem events_discoveries (repetition : Repetition) (tokens : List Token)
    (position : Nat) :
    (repetition.discoveries tokens position).events =
      collection tokens (fun start => (repetition.item start).events) repetition.least
        repetition.most position := by
  rw [discoveries, events_kept, List.length_nil, collection]
  congr 1
  · simp only [Nat.le_zero]
  · split
    · rfl
    · exact repetition.events_extensions tokens [] position

private theorem events_search (repetition : Repetition) (tokens : List Token)
    (stay : StaysInReach tokens (fun position => (repetition.item position).found))
    (position : Nat) :
    (repetition.search position).events =
      repeated tokens (fun start => (repetition.item start).events) repetition.least
        repetition.most position := by
  rw [search_eq repetition tokens stay, Search.events_emit, Search.events_ofList, repeated,
    ← events_discoveries, Search.records_events, Search.positions_events, ← List.map_reverse,
    List.map_map]
  rfl

end Repetition

namespace Matcher

open Enumeration (StaysInReach)
open Interpretation

/-- What the interpreter does between trying a node and announcing its derivations. -/
def inside (tokens : List Token) : Matcher → Nat → List Event
  | .token test _, position =>
      (tokens[position]?.filter test.accepts).toList.map (fun _ => .yielded (position + 1))
  | .finish _, position => if position = tokens.length then [.yielded position] else []
  | .alternation branches _, position =>
      branches.flatMap (fun branch => branch.interpret tokens position)
  | .sequence items _, position => inTurn (items.map (fun item => item.interpret tokens)) position
  | .repetition item least most _, position =>
      repeated tokens (item.interpret tokens) least most position

theorem interpret_eq (tokens : List Token) (matcher : Matcher) (position : Nat) :
    matcher.interpret tokens position =
      announced matcher position (matcher.inside tokens position) := by
  cases matcher <;> rw [interpret, inside]

private theorem events_deriveBranches (tokens : List Token) (branches : List Matcher)
    (position : Nat) :
    (deriveBranches tokens branches position).events =
      branches.flatMap (fun branch => (branch.derive tokens position).events) := by
  induction branches with
  | nil => simp [deriveBranches, Search.events]
  | cons branch later inductionHypothesis =>
      rw [deriveBranches, Search.events_append, inductionHypothesis, List.flatMap_cons,
        Opening.events]

private theorem events_deriveItems (tokens : List Token) (items : List Matcher) (position : Nat)
    (values : List Value) :
    (deriveItems tokens items position values).events =
      inTurn (items.map (fun item start => (item.derive tokens start).events)) position := by
  induction items generalizing position values with
  | nil => simp [deriveItems, inTurn, Opening.events_suspend]
  | cons item later inductionHypothesis =>
      rw [deriveItems, List.map_cons, inTurn]
      apply Opening.events_bind
      intro found
      exact inductionHypothesis found.position (values ++ [found.value])

/-- Deriving a node announces the node around what runs like the interpreter's inside of it, as
soon as the parts of the node run like the interpreter. -/
theorem exists_inner_of_parts (tokens : List Token) (matcher : Matcher) (position : Nat)
    (partsAgree : ∀ part ∈ matcher.parts, ∀ start,
      (part.derive tokens start).events = part.interpret tokens start) :
    ∃ inner, matcher.derive tokens position = .announce matcher position inner ∧
      inner.events = matcher.inside tokens position := by
  cases matcher with
  | token test transform =>
      refine ⟨_, by rw [derive], ?_⟩
      rw [Opening.events_suspend, Search.events_ofList, ofToken_eq, List.map_map, inside]
      rfl
  | finish transform =>
      refine ⟨_, by rw [derive], ?_⟩
      rw [Opening.events_suspend, Search.events_ofList, Search.ofFinish, inside]
      split <;> rfl
  | alternation branches transform =>
      refine ⟨_, by rw [derive], ?_⟩
      rw [Opening.events_suspend, events_deriveBranches, inside]
      apply List.flatMap_congr
      intro branch member
      exact partsAgree branch member position
  | sequence items transform =>
      have steps : items.map (fun item start => (item.derive tokens start).events) =
          items.map (fun item => item.interpret tokens) :=
        List.map_congr_left (fun item member => funext (partsAgree item member))
      refine ⟨_, by rw [derive], ?_⟩
      rw [events_deriveItems, steps, inside]
  | repetition item least most transform =>
      have step : (fun start => (item.derive tokens start).events) = item.interpret tokens :=
        funext (partsAgree item List.mem_cons_self)
      have stay : StaysInReach tokens (fun start => (item.derive tokens start).found) :=
        item.derivations_staysInReach tokens
      refine ⟨_, by rw [derive], ?_⟩
      rw [Opening.events_suspend, Repetition.events_search _ tokens stay, step, inside]

theorem events_derive (tokens : List Token) (matcher : Matcher) (position : Nat) :
    (matcher.derive tokens position).events = matcher.interpret tokens position := by
  induction matcher using induction_on_parts generalizing position with
  | node matcher partsAgree =>
      obtain ⟨inner, opened, runs⟩ := exists_inner_of_parts tokens matcher position partsAgree
      rw [opened, Opening.events_announce, runs, interpret_eq]

theorem records_derive (tokens : List Token) (matcher : Matcher) (position : Nat) :
    (matcher.derive tokens position).records =
      matcher.leftEdge.map (fun node => .tried node position) := by
  induction matcher with
  | token test transform => rw [derive, leftEdge] <;> simp [Opening.announce, Opening.suspend]
  | finish transform => rw [derive, leftEdge] <;> simp [Opening.announce, Opening.suspend]
  | alternation branches transform _ =>
      rw [derive, leftEdge] <;> simp [Opening.announce, Opening.suspend]
  | sequence items transform itemsOpen =>
      cases items with
      | nil => rw [derive, deriveItems, leftEdge] <;> simp [Opening.announce, Opening.suspend]
      | cons first later =>
          rw [derive, deriveItems, leftEdge, List.map_cons, ← itemsOpen first List.mem_cons_self]
          rfl
  | repetition item least most transform _ =>
      rw [derive, leftEdge] <;> simp [Opening.announce, Opening.suspend]

end Matcher

/-! ### Whose records -/

namespace Interpretation

private theorem told_of_mem_inTurn (steps : List (Nat → List Event)) (position : Nat)
    (record : Record) (member : .told record ∈ inTurn steps position) :
    ∃ step ∈ steps, ∃ start, .told record ∈ step start := by
  induction steps generalizing position with
  | nil => simp [inTurn] at member
  | cons step later inductionHypothesis =>
      rw [inTurn, Event.told_mem_flatMap_resumed] at member
      rcases member with here | ⟨stop, _, inLater⟩
      · exact ⟨step, List.mem_cons_self, position, here⟩
      · obtain ⟨other, isLater, start, there⟩ := inductionHypothesis stop inLater
        exact ⟨other, List.mem_cons_of_mem step isLater, start, there⟩

private theorem told_of_mem_collected (tokens : List Token) (step : Nat → List Event) (least : Nat)
    (most : Option Nat) (count position : Nat) (record : Record)
    (member : .told record ∈ collected tokens step least most count position) :
    ∃ start, .told record ∈ step start := by
  fun_induction collected tokens step least most count position with
  | case1 count position inductionHypothesis =>
      rw [Event.told_mem_flatMap_resumed] at member
      rcases member with here | ⟨stop, _, inLonger⟩
      · exact ⟨position, here⟩
      · rcases List.mem_append.mp inLonger with found | longer
        · split at found <;> simp at found
        · split at longer
          · rename_i extending
            exact inductionHypothesis stop extending longer
          · cases longer

private theorem told_of_mem_repeated (tokens : List Token) (step : Nat → List Event) (least : Nat)
    (most : Option Nat) (position : Nat) (record : Record)
    (member : .told record ∈ repeated tokens step least most position) :
    ∃ start, .told record ∈ step start := by
  have discovered : .told record ∈ collection tokens step least most position := by
    rcases List.mem_append.mp member with told | yielded
    · obtain ⟨other, present, same⟩ := List.mem_map.mp told
      obtain ⟨event, isEvent, isRecord⟩ := List.mem_filterMap.mp present
      cases same
      cases event with
      | told => exact Option.some.inj isRecord ▸ isEvent
      | yielded => cases isRecord
    · obtain ⟨stop, _, impossible⟩ := List.mem_map.mp yielded
      cases impossible
  rcases List.mem_append.mp discovered with empty | steps
  · split at empty <;> simp at empty
  · split at steps
    · cases steps
    · exact told_of_mem_collected tokens step least most 0 position record steps

end Interpretation

namespace Matcher

open Interpretation

theorem told_of_mem_inside (tokens : List Token) (matcher : Matcher) (position : Nat)
    (record : Record) (member : .told record ∈ matcher.inside tokens position) :
    ∃ part ∈ matcher.parts, ∃ start, .told record ∈ part.interpret tokens start := by
  cases matcher with
  | token test transform => simp [inside] at member
  | finish transform =>
      rw [inside] at member
      split at member <;> simp at member
  | alternation branches transform =>
      obtain ⟨branch, isBranch, here⟩ := List.mem_flatMap.mp member
      exact ⟨branch, isBranch, position, here⟩
  | sequence items transform =>
      obtain ⟨step, isStep, start, here⟩ := told_of_mem_inTurn _ position record member
      obtain ⟨item, isItem, rfl⟩ := List.mem_map.mp isStep
      exact ⟨item, isItem, start, here⟩
  | repetition item least most transform =>
      obtain ⟨start, here⟩ := told_of_mem_repeated _ _ _ _ position record member
      exact ⟨item, List.mem_cons_self, start, here⟩

theorem length_compactText_le_of_mem (separator : List Char) (matchers : List Matcher)
    (matcher : Matcher) (member : matcher ∈ matchers) :
    matcher.compactText.length ≤ (compactTexts separator matchers).length := by
  induction matchers with
  | nil => cases member
  | cons first later inductionHypothesis =>
      cases later with
      | nil =>
          apply Nat.le_of_eq
          rw [List.mem_singleton.mp member, compactTexts]
      | cons second others =>
          rw [compactTexts, List.length_append, List.length_append]
          · rcases List.mem_cons.mp member with rfl | inLater
            · omega
            · have bounded := inductionHypothesis inLater
              omega
          · simp

theorem length_compactText_lt_of_part (matcher part : Matcher) (isPart : part ∈ matcher.parts) :
    part.compactText.length < matcher.compactText.length := by
  cases matcher with
  | token test transform => cases isPart
  | finish transform => cases isPart
  | alternation branches transform =>
      have bounded := length_compactText_le_of_mem " | ".toList branches part isPart
      rw [compactText, List.length_cons, List.length_append]
      omega
  | sequence items transform =>
      have bounded := length_compactText_le_of_mem [' '] items part isPart
      rw [compactText, List.length_cons, List.length_append]
      omega
  | repetition item least most transform =>
      rw [List.mem_singleton.mp isPart, compactText, List.length_append, boundsText,
        List.length_cons]
      omega

private theorem length_compactText_le_of_told (tokens : List Token) (matcher node : Matcher)
    (position stop : Nat)
    (member : .told (.matched node stop) ∈ matcher.interpret tokens position) :
    node.compactText.length ≤ matcher.compactText.length := by
  induction matcher using induction_on_parts generalizing position with
  | node matcher partsBound =>
      rw [interpret_eq, announced, announcing, List.mem_cons,
        Event.told_mem_flatMap_resumed] at member
      rcases member with opening | within | ⟨reached, _, own⟩
      · cases opening
      · obtain ⟨part, isPart, start, here⟩ := told_of_mem_inside tokens matcher position _ within
        have shorter := length_compactText_lt_of_part matcher part isPart
        have bounded := partsBound part isPart start here
        omega
      · simp only [List.mem_cons, Event.told.injEq, Record.matched.injEq, reduceCtorEq,
          List.not_mem_nil, or_false] at own
        exact Nat.le_of_eq (by rw [own.1])

theorem not_announces_of_mem_inside (tokens : List Token) (matcher : Matcher) (position : Nat)
    (record : Record) (member : .told record ∈ matcher.inside tokens position) :
    record.announces matcher = false := by
  obtain ⟨part, isPart, start, here⟩ := told_of_mem_inside tokens matcher position record member
  cases record with
  | matched node stop =>
      have bounded := length_compactText_le_of_told tokens part node start stop here
      have shorter := length_compactText_lt_of_part matcher part isPart
      apply beq_false_of_ne
      intro same
      rw [same] at bounded
      omega
  | _ => rfl

/-! ### Cutting the log -/

private theorem cutAfter_append_of_quiet (matcher : Matcher) (entries later : List Record)
    (count : Nat) (quiet : ∀ record ∈ entries, record.announces matcher = false) :
    matcher.cutAfter (entries ++ later) (count + 1) =
      entries ++ matcher.cutAfter later (count + 1) := by
  induction entries with
  | nil => rfl
  | cons entry others inductionHypothesis =>
      have othersQuiet : ∀ record ∈ others, record.announces matcher = false :=
        fun record member => quiet record (List.mem_cons_of_mem entry member)
      rw [List.cons_append, cutAfter, quiet entry List.mem_cons_self, if_neg Bool.false_ne_true,
        inductionHypothesis othersQuiet, List.cons_append]

private theorem untilYields_announcing (matcher : Matcher) (inner : List Event) (count : Nat)
    (quiet : ∀ record, .told record ∈ inner → record.announces matcher = false) :
    Event.untilYields count (announcing matcher inner) =
      matcher.cutAfter (Event.records (announcing matcher inner)) count := by
  -- over the inner events; a yield of the node comes right after the record that announces it
  induction inner generalizing count with
  | nil =>
      rw [announcing, List.flatMap_nil, Event.untilYields_nil]
      cases count <;> rfl
  | cons event later inductionHypothesis =>
      have laterQuiet : ∀ record, .told record ∈ later → record.announces matcher = false :=
        fun record member => quiet record (List.mem_cons_of_mem event member)
      cases count with
      | zero => simp [Event.untilYields, cutAfter]
      | succ count =>
          cases event with
          | told record =>
              change Event.untilYields (count + 1) (.told record :: announcing matcher later) =
                matcher.cutAfter (record :: Event.records (announcing matcher later)) (count + 1)
              rw [Event.untilYields_told, inductionHypothesis (count + 1) laterQuiet, cutAfter,
                quiet record List.mem_cons_self, if_neg Bool.false_ne_true]
          | yielded stop =>
              have own : (Record.matched matcher stop).announces matcher = true :=
                beq_self_eq_true _
              change Event.untilYields (count + 1) (.told (.matched matcher stop) ::
                  .yielded stop :: announcing matcher later) =
                matcher.cutAfter (.matched matcher stop ::
                  Event.records (announcing matcher later)) (count + 1)
              rw [Event.untilYields_told, Event.untilYields_yielded,
                inductionHypothesis count laterQuiet, cutAfter, own, if_pos rfl]

theorem log_eq (tokens : List Token) (matcher : Matcher) (position : Nat) :
    matcher.log tokens position =
      (matcher.derive tokens position).records ++
        Event.records ((matcher.derive tokens position).pending ()).events := by
  rw [log, ← events_derive, Opening.events_eq, Event.records_append, Event.records_map_told]

private theorem untilYields_start (matcher : Matcher) (cursor : Cursor) (count : Nat) :
    let stream := (DerivationStream.start matcher cursor).2
    Event.untilYields count stream.events =
      matcher.cutAfter (Event.records stream.events) count := by
  intro stream
  obtain ⟨inner, opened, runs⟩ := exists_inner_of_parts cursor.sequence.tokens matcher
    cursor.position (fun part _ => events_derive cursor.sequence.tokens part)
  have announces : stream.events = announcing matcher (inner.pending ()).events := by
    rw [← Opening.events_pending_announce, ← opened]
    rfl
  rw [announces]
  apply untilYields_announcing
  intro record member
  apply not_announces_of_mem_inside cursor.sequence.tokens matcher cursor.position
  rw [← runs, Opening.events_eq]
  exact List.mem_append_right _ member

/-- What opening a stream and then pulling it tells, against the eager interpreter. Opening it
tells that the nodes of the left edge are tried. Up to and with each pull the stream has told the
interpreter's log, cut right after the record that announces as many derivations of the matcher as
there were pulls; once a pull gives nothing it has told the whole log. -/
theorem told_by_pulls_eq_cut (matcher : Matcher) (cursor : Cursor) :
    let opened := DerivationStream.start matcher cursor
    let log := matcher.log cursor.sequence.tokens cursor.position
    opened.1 = matcher.leftEdge.map (fun node => .tried node cursor.position) ∧
      (∀ count, opened.1 ++ opened.2.toldBy (count + 1) = matcher.cutAfter log (count + 1)) ∧
      (∀ count, (opened.2.after count).pull.2.1 = none →
        opened.1 ++ opened.2.toldBy (count + 1) = log) := by
  intro opened log
  have logged : log = opened.1 ++ Event.records opened.2.events :=
    matcher.log_eq cursor.sequence.tokens cursor.position
  have edge : opened.1 = matcher.leftEdge.map (fun node => .tried node cursor.position) :=
    matcher.records_derive cursor.sequence.tokens cursor.position
  refine ⟨edge, ?_, ?_⟩
  · intro count
    have edgeQuiet : ∀ record ∈ opened.1, record.announces matcher = false := by
      intro record member
      rw [edge] at member
      obtain ⟨node, _, rfl⟩ := List.mem_map.mp member
      rfl
    rw [logged, cutAfter_append_of_quiet matcher _ _ count edgeQuiet, DerivationStream.toldBy_eq,
      untilYields_start]
  · intro count ended
    rw [DerivationStream.pull_after, List.getElem?_eq_none_iff] at ended
    rw [logged, DerivationStream.toldBy_eq, Event.untilYields_of_few]
    have few : (Event.positions opened.2.events).length = opened.2.held.length := by
      rw [DerivationStream.events, Search.positions_events, List.length_map]
      rfl
    omega

/-- Over one plus sign, any number of plus signs and then the end: opening tries the first two
nodes, the first pull collects before anything is yielded, and the second one backtracks in
vain. -/
theorem plus_then_end_told :
    let plus := ofText "+"
    let pluses := repetition plus 0 none none
    let matcher := sequence [pluses, finish none] none
    let cursor : Cursor := ⟨⟨0, [⟨.operator, "+", ⟨0, 1, "."⟩⟩]⟩, 0⟩
    let opened := DerivationStream.start matcher cursor
    opened.1 = [.tried matcher 0, .tried pluses 0] ∧
      opened.1 ++ opened.2.toldBy 1 =
        [.tried matcher 0, .tried pluses 0, .tried plus 0, .matched plus 1, .tried plus 1,
          .matched pluses 1, .tried (finish none) 1, .matched (finish none) 1,
          .matched matcher 1] ∧
      (opened.2.after 1).pull.2.1 = none ∧
      opened.1 ++ opened.2.toldBy 2 =
        [.tried matcher 0, .tried pluses 0, .tried plus 0, .matched plus 1, .tried plus 1,
          .matched pluses 1, .tried (finish none) 1, .matched (finish none) 1,
          .matched matcher 1, .matched pluses 0, .tried (finish none) 0] := by
  intro plus pluses matcher cursor opened
  obtain ⟨edge, cut, whole⟩ := told_by_pulls_eq_cut matcher cursor
  have ended : (opened.2.after 1).pull.2.1 = none := by
    rw [DerivationStream.pull_after, held_start, derivations_eq_enumerate]
    cbv
  refine ⟨edge.trans ?_, (cut 0).trans ?_, ended, (whole 1 ended).trans ?_⟩
  · cbv
  · cbv
  · cbv

end Matcher

end TokenGrammar
