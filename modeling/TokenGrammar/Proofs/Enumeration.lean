import Mathlib.Data.List.Basic
import TokenGrammar.Search

set_option autoImplicit false

/-! The reference enumeration: the derivations of a grammar tree as plain lists, by recursion
over the tree, with no records and nothing suspended. -/

namespace TokenGrammar

namespace Enumeration

/-! ### Combining steps

A step stands for a matcher: from a position it gives derivations. -/

/-- The ways to take steps in turn, each from where the one before it stopped: the values on the
way and the position at the end. Every way through the later steps comes before the next
derivation of the first one. -/
def inTurn : List (Nat → List Derivation) → Nat → List (List Value × Nat)
  | [], position => [([], position)]
  | step :: later, position =>
      (step position).flatMap (fun first =>
        (inTurn later first.position).map (fun (values, stop) => (first.value :: values, stop)))

def consumes (tokens : List Token) (start stop : Nat) : Bool :=
  !((tokens.drop start).take (stop - start)).isEmpty

/-- Whether a list of `count` steps, the last of which went from `start` to `stop`, is extended:
the count is below the upper bound, and the last step consumed a token or there is an upper
bound. -/
def extendable (tokens : List Token) (most : Option Nat) (count start stop : Nat) : Bool :=
  most.all (fun bound => count < bound) && (most.isSome || consumes tokens start stop)

theorem consumes_iff (tokens : List Token) (start stop : Nat) :
    consumes tokens start stop = true ↔ start < stop ∧ start < tokens.length := by
  simp only [consumes, Bool.not_eq_true', List.isEmpty_eq_false_iff, ne_eq,
    ← List.length_eq_zero_iff, List.length_take, List.length_drop]
  omega

@[simp]
theorem extendable_some_iff (tokens : List Token) (bound count start stop : Nat) :
    extendable tokens (some bound) count start stop = true ↔ count < bound := by
  simp [extendable]

@[simp]
theorem extendable_none_iff (tokens : List Token) (count start stop : Nat) :
    extendable tokens none count start stop = true ↔ start < stop ∧ start < tokens.length := by
  simp [extendable, consumes_iff]

/-- How far a list of `count` steps may still be extended from a position: by the steps that the
upper bound leaves, and without one by the tokens that are left. -/
def room (tokens : List Token) (most : Option Nat) (count position : Nat) : Nat :=
  most.elim (tokens.length - position) (fun bound => bound - count)

theorem room_lt_of_extendable {tokens : List Token} {most : Option Nat} {count start stop : Nat}
    (extending : extendable tokens most (count + 1) start stop = true) :
    room tokens most (count + 1) stop < room tokens most count start := by
  cases most with
  | some bound =>
      have below := (extendable_some_iff tokens bound _ _ _).mp extending
      simp only [room, Option.elim]
      omega
  | none =>
      have advanced := (extendable_none_iff tokens _ _ _).mp extending
      simp only [room, Option.elim]
      omega

/-- The non-empty lists of steps from a position where `count` steps have been taken before, in
preorder: each list comes right before the lists that extend it. -/
def stepLists (tokens : List Token) (step : Nat → List Derivation) (most : Option Nat)
    (count position : Nat) : List (List Value × Nat) :=
  (step position).flatMap (fun found =>
    ([found.value], found.position) ::
      if extendable tokens most (count + 1) position found.position then
        (stepLists tokens step most (count + 1) found.position).map
          (fun (values, stop) => (found.value :: values, stop))
      else [])
termination_by room tokens most count position
decreasing_by exact room_lt_of_extendable ‹_›

/-- The lists of steps that a repetition allows, from the last discovered to the first. The
empty list is discovered first. -/
def repeated (tokens : List Token) (step : Nat → List Derivation) (least : Nat)
    (most : Option Nat) (position : Nat) : List (List Value × Nat) :=
  let discovered := ([], position) ::
    if most = some 0 then [] else stepLists tokens step most 0 position
  (discovered.filter (fun (values, _) => least ≤ values.length)).reverse

end Enumeration

open Enumeration in
/-- Every derivation of a matcher from a position, in order. -/
def Matcher.enumerate (tokens : List Token) : Matcher → Nat → List Derivation
  | .token test transform, position =>
      (tokens[position]?.filter test.accepts).toList.map (fun token =>
        ⟨(Matcher.token test transform).applyTransform (.token token), position + 1⟩)
  | .finish transform, position =>
      if position = tokens.length then
        [⟨(Matcher.finish transform).applyTransform .null, position⟩]
      else []
  | .alternation branches transform, position =>
      (branches.flatMap (fun branch => branch.enumerate tokens position)).map (fun found =>
        { found with value := (Matcher.alternation branches transform).applyTransform found.value })
  | .sequence items transform, position =>
      (inTurn (items.map (fun item => item.enumerate tokens)) position).map (fun (values, stop) =>
        ⟨(Matcher.sequence items transform).applyTransform (.list values), stop⟩)
  | .repetition item least most transform, position =>
      (repeated tokens (item.enumerate tokens) least most position).map (fun (values, stop) =>
        ⟨(Matcher.repetition item least most transform).applyTransform (.list values), stop⟩)

namespace Enumeration

/-! ### Where a derivation can get to -/

def InReach (tokens : List Token) (start stop : Nat) : Prop :=
  start ≤ stop ∧ stop ≤ max start tokens.length

theorem InReach.refl (tokens : List Token) (position : Nat) : InReach tokens position position :=
  ⟨Nat.le_refl position, Nat.le_max_left position tokens.length⟩

theorem InReach.trans {tokens : List Token} {start middle stop : Nat}
    (first : InReach tokens start middle) (second : InReach tokens middle stop) :
    InReach tokens start stop := by
  unfold InReach at first second ⊢
  omega

def StaysInReach (tokens : List Token) (step : Nat → List Derivation) : Prop :=
  ∀ position, ∀ found ∈ step position, InReach tokens position found.position

theorem inReach_of_mem_inTurn (tokens : List Token) (steps : List (Nat → List Derivation))
    (stay : ∀ step ∈ steps, StaysInReach tokens step) (position : Nat)
    (taken : List Value × Nat) (member : taken ∈ inTurn steps position) :
    InReach tokens position taken.2 := by
  induction steps generalizing position taken with
  | nil =>
      rw [List.mem_singleton.mp member]
      exact InReach.refl tokens position
  | cons step later inductionHypothesis =>
      obtain ⟨first, inStep, inRest⟩ := List.mem_flatMap.mp member
      obtain ⟨rest, inLater, rfl⟩ := List.mem_map.mp inRest
      have firstReach := stay step List.mem_cons_self position first inStep
      have laterReach := inductionHypothesis
        (fun other inside => stay other (List.mem_cons_of_mem step inside))
        first.position rest inLater
      exact firstReach.trans laterReach

theorem inReach_of_mem_stepLists (tokens : List Token) (step : Nat → List Derivation)
    (most : Option Nat) (stay : StaysInReach tokens step) (count position : Nat)
    (taken : List Value × Nat) (member : taken ∈ stepLists tokens step most count position) :
    InReach tokens position taken.2 := by
  fun_induction stepLists tokens step most count position generalizing taken with
  | case1 count position inductionHypothesis =>
      obtain ⟨found, inStep, inRest⟩ := List.mem_flatMap.mp member
      have firstReach := stay position found inStep
      rcases List.mem_cons.mp inRest with rfl | inLonger
      · exact firstReach
      · split at inLonger
        · rename_i extending
          obtain ⟨rest, inLater, rfl⟩ := List.mem_map.mp inLonger
          exact firstReach.trans (inductionHypothesis found extending rest inLater)
        · cases inLonger

theorem inReach_of_mem_repeated (tokens : List Token) (step : Nat → List Derivation)
    (least : Nat) (most : Option Nat) (stay : StaysInReach tokens step) (position : Nat)
    (taken : List Value × Nat) (member : taken ∈ repeated tokens step least most position) :
    InReach tokens position taken.2 := by
  have discovered := (List.mem_filter.mp (List.mem_reverse.mp member)).1
  rcases List.mem_cons.mp discovered with rfl | nonempty
  · exact InReach.refl tokens position
  · split at nonempty
    · cases nonempty
    · exact inReach_of_mem_stepLists tokens step most stay 0 position taken nonempty

end Enumeration

open Enumeration in
theorem Matcher.enumerate_staysInReach (tokens : List Token) (matcher : Matcher) :
    StaysInReach tokens (matcher.enumerate tokens) := by
  intro position found member
  induction matcher generalizing position found with
  | token test transform =>
      rw [enumerate] at member
      obtain ⟨token, present, rfl⟩ := List.mem_map.mp member
      have atPosition := (Option.mem_filter_iff.mp (Option.mem_toList.mp present)).1
      have inside := (List.getElem?_eq_some_iff.mp atPosition).1
      unfold InReach
      dsimp only
      omega
  | finish transform =>
      rw [enumerate] at member
      split at member
      · rw [List.mem_singleton.mp member]
        exact InReach.refl tokens position
      · cases member
  | alternation branches transform branchesStay =>
      rw [enumerate] at member
      obtain ⟨inner, present, rfl⟩ := List.mem_map.mp member
      obtain ⟨branch, inBranches, inBranch⟩ := List.mem_flatMap.mp present
      exact branchesStay branch inBranches position inner inBranch
  | sequence items transform itemsStay =>
      rw [enumerate] at member
      obtain ⟨taken, present, rfl⟩ := List.mem_map.mp member
      refine inReach_of_mem_inTurn tokens _ ?_ position taken present
      intro step inSteps
      obtain ⟨item, inItems, rfl⟩ := List.mem_map.mp inSteps
      exact itemsStay item inItems
  | repetition item least most transform itemStays =>
      rw [enumerate] at member
      obtain ⟨taken, present, rfl⟩ := List.mem_map.mp member
      exact inReach_of_mem_repeated tokens _ least most itemStays position taken present

end TokenGrammar
