import TokenGrammar.Proofs.Worklist
import TokenGrammar.Search.Derive

set_option autoImplicit false

/-! The derivations that pulls give. The main statement is that the pulls of a stream give the
reference enumeration, item by item and in order, and nothing ever after. -/

namespace TokenGrammar

namespace Matcher

open Enumeration

private theorem found_deriveBranches (tokens : List Token) (branches : List Matcher)
    (position : Nat) :
    (deriveBranches tokens branches position).found =
      branches.flatMap (fun branch => branch.derivations tokens position) := by
  induction branches with
  | nil => simp [deriveBranches, Search.found]
  | cons branch later inductionHypothesis =>
      rw [deriveBranches, Search.found_append, Opening.found_run, inductionHypothesis,
        List.flatMap_cons, derivations]

private theorem found_deriveItems (tokens : List Token) (items : List Matcher) (position : Nat)
    (values : List Value) :
    (deriveItems tokens items position values).found =
      (inTurn (items.map (fun item => item.derivations tokens)) position).map
        (fun taken => ⟨.list (values ++ taken.1), taken.2⟩) := by
  induction items generalizing position values with
  | nil => simp [deriveItems, inTurn]
  | cons item later inductionHypothesis =>
      rw [deriveItems, Opening.found_bind, List.map_cons, inTurn, List.map_flatMap]
      apply List.flatMap_congr
      intro found _
      rw [Opening.found_run, inductionHypothesis, List.map_map]
      simp only [Function.comp_def, List.append_assoc, List.singleton_append]

theorem ofToken_eq (tokens : List Token) (test : TokenTest) (position : Nat) :
    Search.ofToken tokens test position =
      (tokens[position]?.filter test.accepts).toList.map
        (fun token => ⟨.token token, position + 1⟩) := by
  unfold Search.ofToken
  cases tokens[position]? with
  | none => rfl
  | some token =>
      by_cases accepted : test.accepts token = true
      · simp [Option.filter_some, accepted]
      · simp [Option.filter_some, accepted]

theorem derivations_eq_enumerate (tokens : List Token) (matcher : Matcher) (position : Nat) :
    matcher.derivations tokens position = matcher.enumerate tokens position := by
  induction matcher generalizing position with
  | token test transform =>
      rw [derivations, derive, Opening.found_announce, Opening.found_suspend,
        Search.found_ofList, ofToken_eq, List.map_map, enumerate]
      rfl
  | finish transform =>
      rw [derivations, derive, Opening.found_announce, Opening.found_suspend,
        Search.found_ofList, Search.ofFinish, enumerate]
      split <;> rfl
  | alternation branches transform branchesAgree =>
      rw [derivations, derive, Opening.found_announce, Opening.found_suspend,
        found_deriveBranches, enumerate]
      congr 1
      apply List.flatMap_congr
      intro branch member
      exact branchesAgree branch member position
  | sequence items transform itemsAgree =>
      have steps : items.map (fun item => item.derivations tokens) =
          items.map (fun item => item.enumerate tokens) :=
        List.map_congr_left (fun item member => funext (itemsAgree item member))
      rw [derivations, derive, Opening.found_announce, found_deriveItems, steps, List.map_map,
        enumerate]
      rfl
  | repetition item least most transform itemAgrees =>
      have step : (fun start => (item.derive tokens start).found) = item.enumerate tokens :=
        funext itemAgrees
      have stay : StaysInReach tokens (fun start => (item.derive tokens start).found) :=
        step ▸ item.enumerate_staysInReach tokens
      rw [derivations, derive, Opening.found_announce, Opening.found_suspend,
        Repetition.found_search _ tokens stay, step, List.map_map, enumerate]
      rfl

theorem derivations_repetition (tokens : List Token) (item : Matcher) (least : Nat)
    (most : Option Nat) (start : Nat) :
    (repetition item least most none).derivations tokens start =
      (repeated tokens (item.derivations tokens) least most start).map
        (fun taken => ⟨.list taken.1, taken.2⟩) := by
  have steps : item.derivations tokens = item.enumerate tokens :=
    funext (derivations_eq_enumerate tokens item)
  rw [derivations_eq_enumerate, enumerate, steps]
  rfl

theorem derivations_sequence (tokens : List Token) (items : List Matcher) (start : Nat) :
    (sequence items none).derivations tokens start =
      (inTurn (items.map (fun item => item.derivations tokens)) start).map
        (fun taken => ⟨.list taken.1, taken.2⟩) := by
  have steps : items.map (fun item => item.derivations tokens) =
      items.map (fun item => item.enumerate tokens) :=
    List.map_congr_left (fun item _ => funext (derivations_eq_enumerate tokens item))
  rw [derivations_eq_enumerate, enumerate, steps]
  rfl

theorem derivations_alternation (tokens : List Token) (branches : List Matcher) (start : Nat) :
    (alternation branches none).derivations tokens start =
      branches.flatMap (fun branch => branch.derivations tokens start) := by
  have alike : branches.flatMap (fun branch => branch.derivations tokens start) =
      branches.flatMap (fun branch => branch.enumerate tokens start) :=
    List.flatMap_congr (fun branch _ => derivations_eq_enumerate tokens branch start)
  rw [derivations_eq_enumerate, enumerate, alike]
  exact List.map_id _

theorem derivations_staysInReach (tokens : List Token) (matcher : Matcher) :
    StaysInReach tokens (matcher.derivations tokens) := by
  intro position found member
  rw [derivations_eq_enumerate] at member
  exact matcher.enumerate_staysInReach tokens position found member

end Matcher

end TokenGrammar
