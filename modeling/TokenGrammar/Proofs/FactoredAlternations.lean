import Mathlib.Data.List.Perm.Basic
import TokenGrammar.Proofs.Derivations

set_option autoImplicit false

/-! Alternations inside sequences. A sequence with an alternation among its items may be written as
an alternation of sequences, one for each branch, which go through the items in front of the
alternation once for each branch instead of once. This finds the same derivations the same number
of times, but the branch is then chosen before the items in front of it, so unless the alternation
stands first the order may change. -/

namespace TokenGrammar

/-- Two nested loops may change places. -/
theorem perm_flatMap_flatMap {α β γ : Type} (outer : List α) (inner : List β)
    (items : α → β → List γ) :
    (outer.flatMap (fun first => inner.flatMap (items first))).Perm
      (inner.flatMap (fun second => outer.flatMap (fun first => items first second))) := by
  induction inner with
  | nil => simp
  | cons second later inductionHypothesis =>
      simp only [List.flatMap_cons]
      have apart := List.flatMap_append_perm outer (fun first => items first second)
        (fun first => later.flatMap (items first))
      exact apart.symm.trans (inductionHypothesis.append_left _)

namespace Enumeration

theorem inTurn_alternatives (branches : List (Nat → List Derivation))
    (later : List (Nat → List Derivation)) (start : Nat) :
    inTurn ((fun position => branches.flatMap (fun branch => branch position)) :: later) start =
      branches.flatMap (fun branch => inTurn (branch :: later) start) := by
  simp only [inTurn, List.flatMap_assoc]

private theorem perm_inTurn_alternatives (front branches later : List (Nat → List Derivation))
    (start : Nat) :
    (inTurn (front ++ (fun position => branches.flatMap (fun branch => branch position)) :: later)
        start).Perm
      (branches.flatMap (fun branch => inTurn (front ++ branch :: later) start)) := by
  induction front generalizing start with
  | nil => exact List.Perm.of_eq (inTurn_alternatives branches later start)
  | cons step front inductionHypothesis =>
      -- for each first step the branches come together; then first steps and branches change places
      have together := List.Perm.flatMap_left (step start) (fun first _ =>
        (inductionHypothesis first.position).map
          (fun taken => (first.value :: taken.1, taken.2)))
      simp only [List.map_flatMap] at together
      exact together.trans (perm_flatMap_flatMap (step start) branches _)

end Enumeration

namespace Matcher

open Enumeration

def stepsOf (tokens : List Token) (matchers : List Matcher) : List (Nat → List Derivation) :=
  matchers.map (fun part => part.derivations tokens)

theorem derivations_sequence_around (tokens : List Token) (front later : List Matcher)
    (item : Matcher) (start : Nat) :
    (sequence (front ++ [item] ++ later) none).derivations tokens start =
      (inTurn (stepsOf tokens front ++ item.derivations tokens :: stepsOf tokens later) start).map
        (fun taken => ⟨.list taken.1, taken.2⟩) := by
  rw [derivations_sequence, List.append_assoc, List.singleton_append, List.map_append,
    List.map_cons]
  rfl

theorem derivations_factored (tokens : List Token) (front branches later : List Matcher)
    (start : Nat) :
    (sequence (front ++ [alternation branches none] ++ later) none).derivations tokens start =
      (inTurn (stepsOf tokens front ++
        (fun position => (stepsOf tokens branches).flatMap (fun branch => branch position)) ::
          stepsOf tokens later) start).map (fun taken => ⟨.list taken.1, taken.2⟩) := by
  have chosen : (alternation branches none).derivations tokens =
      fun position => (stepsOf tokens branches).flatMap (fun branch => branch position) := by
    funext position
    rw [derivations_alternation, stepsOf, List.flatMap_map]
  rw [derivations_sequence_around, chosen]

theorem derivations_distributed (tokens : List Token) (front branches later : List Matcher)
    (start : Nat) :
    (alternation (branches.map (fun branch => sequence (front ++ [branch] ++ later) none))
        none).derivations tokens start =
      ((stepsOf tokens branches).flatMap (fun branch =>
        inTurn (stepsOf tokens front ++ branch :: stepsOf tokens later) start)).map
          (fun taken => ⟨.list taken.1, taken.2⟩) := by
  have branchSteps : stepsOf tokens branches =
      branches.map (fun branch => branch.derivations tokens) := rfl
  rw [derivations_alternation, List.flatMap_map, List.map_flatMap, branchSteps, List.flatMap_map]
  apply List.flatMap_congr
  intro branch _
  exact derivations_sequence_around tokens front later branch start

/-- A sequence around an alternation and the alternation of the sequences around its branches yield
the same values and positions equally often, and in the same order if the alternation stands
first. -/
theorem factored_alternation_yields_same (tokens : List Token)
    (front branches later : List Matcher) (start : Nat) :
    ((sequence (front ++ [alternation branches none] ++ later) none).derivations tokens start).Perm
      ((alternation (branches.map (fun branch => sequence (front ++ [branch] ++ later) none))
        none).derivations tokens start) ∧
    (sequence ([alternation branches none] ++ later) none).derivations tokens start =
      (alternation (branches.map (fun branch => sequence ([branch] ++ later) none))
        none).derivations tokens start := by
  constructor
  · rw [derivations_factored, derivations_distributed]
    exact (perm_inTurn_alternatives _ _ _ start).map _
  · have factored := derivations_factored tokens [] branches later start
    have distributed := derivations_distributed tokens [] branches later start
    exact factored.trans
      ((congrArg (List.map _) (inTurn_alternatives _ _ start)).trans distributed.symm)

-- behind an optional plus the branches of one way through it no longer stand together
example :
    let plus : Token := ⟨.operator, "+", ⟨0, 1, "."⟩⟩
    let front := optional (ofText "+")
    let branches := [sequence [] none, ofText "+"]
    let factored := sequence [front, alternation branches none] none
    let distributed := alternation (branches.map (fun branch => sequence [front, branch] none)) none
    (factored.derivations [plus, plus] 0).map Derivation.position = [1, 2, 0, 1] ∧
      (distributed.derivations [plus, plus] 0).map Derivation.position = [1, 0, 2, 1] := by
  intro plus front branches factored distributed
  rw [derivations_eq_enumerate, derivations_eq_enumerate]
  cbv

end Matcher

end TokenGrammar
