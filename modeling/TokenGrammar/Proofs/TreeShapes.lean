import TokenGrammar.Proofs.Derivations

set_option autoImplicit false

/-! The shape of a matcher: its tree without transforms, in which an alternation of one branch
counts as a sequence of one item. Where a search gets to depends on the shape only: transforms
change values, and so does a list around the one value of a branch, but neither changes a
position. -/

namespace TokenGrammar

namespace Enumeration

/-! ### Steps that reach alike -/

/-- Two steps that reach the same positions, in the same order, from wherever they start. -/
def ReachAlike (step other : Nat → List Derivation) : Prop :=
  ∀ start, (step start).map Derivation.position = (other start).map Derivation.position

private theorem map_flatMap_alike {α β : Type} (label : α → β) (found others : List Derivation)
    (alike : found.map Derivation.position = others.map Derivation.position)
    (next otherNext : Derivation → List α)
    (follow : ∀ first second : Derivation, first.position = second.position →
      (next first).map label = (otherNext second).map label) :
    (found.flatMap next).map label = (others.flatMap otherNext).map label := by
  induction found generalizing others with
  | nil =>
      cases others with
      | nil => rfl
      | cons second more => cases alike
  | cons first later inductionHypothesis =>
      cases others with
      | nil => cases alike
      | cons second more =>
          obtain ⟨sameFirst, sameLater⟩ := List.cons.inj alike
          rw [List.flatMap_cons, List.flatMap_cons, List.map_append, List.map_append,
            follow first second sameFirst, inductionHypothesis more sameLater]

private theorem positions_inTurn_alike (items : List Matcher)
    (step other : Matcher → Nat → List Derivation)
    (each : ∀ item ∈ items, ReachAlike (step item) (other item)) (start : Nat) :
    (inTurn (items.map step) start).map Prod.snd =
      (inTurn (items.map other) start).map Prod.snd := by
  induction items generalizing start with
  | nil => rfl
  | cons item later inductionHypothesis =>
      rw [List.map_cons, List.map_cons, inTurn, inTurn]
      apply map_flatMap_alike Prod.snd _ _ (each item List.mem_cons_self start)
      intro first second samePosition
      have laterSame := inductionHypothesis
        (fun next member => each next (List.mem_cons_of_mem item member)) second.position
      rw [List.map_map, List.map_map, samePosition]
      exact laterSame

def extent (taken : List Value × Nat) : Nat × Nat :=
  (taken.1.length, taken.2)

private theorem extents_stepLists_alike (tokens : List Token) (step other : Nat → List Derivation)
    (alike : ReachAlike step other) (most : Option Nat) (count start : Nat) :
    (stepLists tokens step most count start).map extent =
      (stepLists tokens other most count start).map extent := by
  fun_induction stepLists tokens step most count start with
  | case1 count start inductionHypothesis =>
      rw [stepLists]
      apply map_flatMap_alike extent _ _ (alike start)
      intro first second samePosition
      rw [List.map_cons, List.map_cons, samePosition]
      congr 1
      split
      · rename_i extending
        have longer := congrArg (List.map (fun taken : Nat × Nat => (taken.1 + 1, taken.2)))
          (inductionHypothesis first (samePosition ▸ extending))
        rw [List.map_map, List.map_map, samePosition] at longer
        rw [List.map_map, List.map_map]
        exact longer
      · rfl

private theorem positions_repeated_alike (tokens : List Token) (step other : Nat → List Derivation)
    (alike : ReachAlike step other) (least : Nat) (most : Option Nat) (start : Nat) :
    (repeated tokens step least most start).map Prod.snd =
      (repeated tokens other least most start).map Prod.snd := by
  have discovered : (([], start) ::
      if most = some 0 then [] else stepLists tokens step most 0 start).map extent =
        (([], start) ::
          if most = some 0 then [] else stepLists tokens other most 0 start).map extent := by
    rw [List.map_cons, List.map_cons]
    congr 1
    split
    · rfl
    · exact extents_stepLists_alike tokens step other alike most 0 start
  -- a list of steps is kept by its number of steps, and then only its end counts
  have kept := congrArg
    (fun extents => ((extents.filter (fun taken => least ≤ taken.1)).map Prod.snd).reverse)
    discovered
  simp only [List.filter_map, List.map_map] at kept
  rw [repeated, repeated, List.map_reverse, List.map_reverse]
  exact kept

end Enumeration

namespace Matcher

open Enumeration

/-- The tree without transforms, with alternations of one branch as sequences of one item. -/
def shape : Matcher → Matcher
  | .token test _ => .token test none
  | .finish _ => .finish none
  | .alternation branches _ =>
      if branches.length = 1 then .sequence (branches.map shape) none
      else .alternation (branches.map shape) none
  | .sequence items _ => .sequence (items.map shape) none
  | .repetition item least most _ => .repetition item.shape least most none

theorem positions_sequence (tokens : List Token) (items : List Matcher)
    (transform : Option Transform) (start : Nat) :
    ((sequence items transform).enumerate tokens start).map Derivation.position =
      (inTurn (items.map (fun item => item.enumerate tokens)) start).map Prod.snd := by
  rw [enumerate, List.map_map]
  rfl

theorem positions_alternation (tokens : List Token) (branches : List Matcher)
    (transform : Option Transform) (start : Nat) :
    ((alternation branches transform).enumerate tokens start).map Derivation.position =
      (branches.flatMap (fun branch => branch.enumerate tokens start)).map
        Derivation.position := by
  rw [enumerate, List.map_map]
  rfl

theorem positions_repetition (tokens : List Token) (item : Matcher) (least : Nat)
    (most : Option Nat) (transform : Option Transform) (start : Nat) :
    ((repetition item least most transform).enumerate tokens start).map Derivation.position =
      (repeated tokens (item.enumerate tokens) least most start).map Prod.snd := by
  rw [enumerate, List.map_map]
  rfl

private theorem positions_single_item (tokens : List Token) (item : Matcher)
    (transform : Option Transform) (start : Nat) :
    ((sequence [item] transform).enumerate tokens start).map Derivation.position =
      (item.enumerate tokens start).map Derivation.position := by
  rw [positions_sequence, List.map_singleton, inTurn, List.map_flatMap]
  exact List.map_eq_flatMap.symm

theorem reachAlike_shape (tokens : List Token) (matcher : Matcher) :
    ReachAlike (matcher.shape.enumerate tokens) (matcher.enumerate tokens) := by
  induction matcher with
  | token test transform =>
      intro start
      rw [shape, enumerate, enumerate, List.map_map, List.map_map]
      rfl
  | finish transform =>
      intro start
      rw [shape, enumerate, enumerate]
      split <;> rfl
  | alternation branches transform each =>
      intro start
      have branchesSame : ((branches.map shape).flatMap
          (fun branch => branch.enumerate tokens start)).map Derivation.position =
          (branches.flatMap (fun branch => branch.enumerate tokens start)).map
            Derivation.position := by
        rw [List.flatMap_map, List.map_flatMap, List.map_flatMap]
        exact List.flatMap_congr (fun branch member => each branch member start)
      rw [positions_alternation, ← branchesSame, shape]
      split
      · rename_i single
        obtain ⟨branch, rfl⟩ := List.length_eq_one_iff.mp single
        rw [List.map_singleton, positions_single_item, List.flatMap_singleton]
      · rw [positions_alternation]
  | sequence items transform each =>
      intro start
      rw [shape, positions_sequence, positions_sequence, List.map_map]
      exact positions_inTurn_alike items _ _ each start
  | repetition item least most transform itemAlike =>
      intro start
      rw [shape, positions_repetition, positions_repetition]
      exact positions_repeated_alike tokens _ _ itemAlike least most start

theorem positions_eq_of_shape (tokens : List Token) (left right : Matcher)
    (same : left.shape = right.shape) (start : Nat) :
    (left.derivations tokens start).map Derivation.position =
      (right.derivations tokens start).map Derivation.position := by
  rw [derivations_eq_enumerate, derivations_eq_enumerate, ← reachAlike_shape tokens left start,
    same, reachAlike_shape tokens right start]

end Matcher

end TokenGrammar
