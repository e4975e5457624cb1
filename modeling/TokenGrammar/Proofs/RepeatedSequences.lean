import TokenGrammar.Proofs.Derivations

set_option autoImplicit false

/-! Repetitions against sequences of equal items. A repetition finds its lists of steps in one
search, in which shorter and longer lists lie between each other. Under an upper bound the lists of
one length, taken out of that search, are those that a sequence of so many items finds, from the
last to the first. -/

namespace TokenGrammar

def Value.hasLength (count : Nat) (value : Value) : Bool :=
  value.asList?.any (fun items => items.length = count)

namespace Enumeration

private theorem length_bounds_of_mem_stepLists (tokens : List Token) (step : Nat → List Derivation)
    (bound count position : Nat) (below : count < bound) (taken : List Value × Nat)
    (member : taken ∈ stepLists tokens step (some bound) count position) :
    0 < taken.1.length ∧ count + taken.1.length ≤ bound := by
  fun_induction stepLists tokens step (some bound) count position generalizing taken with
  | case1 count position inductionHypothesis =>
      obtain ⟨found, _, inRest⟩ := List.mem_flatMap.mp member
      rcases List.mem_cons.mp inRest with rfl | inLonger
      · exact ⟨Nat.zero_lt_one, below⟩
      · split at inLonger
        · rename_i extending
          obtain ⟨rest, inLater, rfl⟩ := List.mem_map.mp inLonger
          have stillBelow := (extendable_some_iff tokens bound _ _ _).mp extending
          have bounds := inductionHypothesis found extending stillBelow rest inLater
          rw [List.length_cons]
          omega
        · cases inLonger

/-- As long as the upper bound cuts off none of them, the lists of steps of one length are the ways
to take so many steps in turn, in the same order. -/
theorem filter_stepLists_length (tokens : List Token) (step : Nat → List Derivation)
    (bound count position length : Nat) (nonempty : 0 < length) (fits : count + length ≤ bound) :
    (stepLists tokens step (some bound) count position).filter
        (fun taken => taken.1.length = length) =
      inTurn (List.replicate length step) position := by
  fun_induction stepLists tokens step (some bound) count position generalizing length with
  | case1 count position inductionHypothesis =>
      obtain ⟨rest, rfl⟩ : ∃ rest, length = rest + 1 := ⟨length - 1, by omega⟩
      rw [List.filter_flatMap, List.replicate_succ, inTurn]
      apply List.flatMap_congr
      intro found _
      cases rest with
      | zero =>
          -- the first step alone is the list that counts; every other one is longer
          have noneLonger : (if extendable tokens (some bound) (count + 1) position found.position
                then (stepLists tokens step (some bound) (count + 1) found.position).map
                  (fun later => (found.value :: later.1, later.2))
                else []).filter (fun taken => taken.1.length = 1) = [] := by
            apply List.filter_eq_nil_iff.mpr
            intro taken member
            split at member
            · rename_i extending
              obtain ⟨later, inLater, rfl⟩ := List.mem_map.mp member
              have below := (extendable_some_iff tokens bound _ _ _).mp extending
              have bounds := length_bounds_of_mem_stepLists tokens step bound (count + 1)
                found.position below later inLater
              have longer : ¬ later.1.length + 1 = 1 := by omega
              simpa using longer
            · cases member
          rw [List.filter_cons_of_pos (by simp)]
          exact congrArg _ noneLonger
      | succ rest =>
          have extending : extendable tokens (some bound) (count + 1) position found.position =
              true := by
            rw [extendable_some_iff]
            omega
          have later := inductionHypothesis found extending (rest + 1) (Nat.succ_pos rest) (by omega)
          rw [List.filter_cons_of_neg (by simp), if_pos extending, List.filter_map, ← later]
          simp only [Function.comp_def, List.length_cons, Nat.add_right_cancel_iff]

private theorem length_bounds_of_mem_longer (tokens : List Token) (step : Nat → List Derivation)
    (most start : Nat) (taken : List Value × Nat)
    (member : taken ∈ if some most = some 0 then [] else stepLists tokens step (some most) 0 start) :
    0 < taken.1.length ∧ taken.1.length ≤ most := by
  split at member
  · cases member
  · rename_i bounded
    have positive : 0 < most := Nat.pos_of_ne_zero (fun none => bounded (congrArg some none))
    have bounds := length_bounds_of_mem_stepLists tokens step most 0 start positive taken member
    omega

private theorem length_bounds_of_mem_repeated (tokens : List Token) (step : Nat → List Derivation)
    (least most start : Nat) (taken : List Value × Nat)
    (member : taken ∈ repeated tokens step least (some most) start) :
    least ≤ taken.1.length ∧ taken.1.length ≤ most := by
  obtain ⟨discovered, enough⟩ := List.mem_filter.mp (List.mem_reverse.mp member)
  refine ⟨by simpa using enough, ?_⟩
  rcases List.mem_cons.mp discovered with rfl | inLonger
  · exact Nat.zero_le most
  · exact (length_bounds_of_mem_longer tokens step most start taken inLonger).2

private theorem filter_repeated_length (tokens : List Token) (step : Nat → List Derivation)
    (least most count start : Nat) (enough : least ≤ count) (allowed : count ≤ most) :
    (repeated tokens step least (some most) start).filter (fun taken => taken.1.length = count) =
      (inTurn (List.replicate count step) start).reverse := by
  let longer := if some most = some 0 then [] else stepLists tokens step (some most) 0 start
  have discovered : (([], start) :: longer).filter (fun taken => taken.1.length = count) =
      inTurn (List.replicate count step) start := by
    rcases Nat.eq_zero_or_pos count with rfl | positive
    · have noMore : longer.filter (fun taken => taken.1.length = 0) = [] := by
        apply List.filter_eq_nil_iff.mpr
        intro taken member
        have bounds := length_bounds_of_mem_longer tokens step most start taken member
        simpa using Nat.ne_of_gt bounds.1
      rw [List.filter_cons_of_pos (by simp), noMore]
      rfl
    · have bounded : some most ≠ some 0 := by
        simp only [ne_eq, Option.some.injEq]
        omega
      rw [List.filter_cons_of_neg (by simpa using Nat.ne_of_lt positive)]
      simp only [longer, if_neg bounded]
      exact filter_stepLists_length tokens step most 0 start count positive (by omega)
  rw [← discovered, repeated, List.filter_reverse, List.filter_filter]
  congr 1
  apply List.filter_congr
  intro taken _
  by_cases counted : taken.1.length = count
  · simp [counted, enough]
  · simp [counted]

end Enumeration

namespace Matcher

open Enumeration

/-- Under an upper bound a repetition yields lists of every length between its bounds and of no
other. Those of one length are what a sequence of so many of its items yields, with the same values
and positions, from the last to the first. -/
theorem repetition_by_length_eq_sequences (tokens : List Token) (item : Matcher)
    (least most start : Nat) :
    (∀ count, least ≤ count → count ≤ most →
      ((repetition item least (some most) none).derivations tokens start).filter
          (fun found => found.value.hasLength count) =
        ((sequence (List.replicate count item) none).derivations tokens start).reverse) ∧
      ∀ found ∈ (repetition item least (some most) none).derivations tokens start,
        ∃ items, found.value = .list items ∧ least ≤ items.length ∧ items.length ≤ most := by
  rw [derivations_repetition]
  constructor
  · intro count enough allowed
    have inner := filter_repeated_length tokens (item.derivations tokens) least most count start
      enough allowed
    rw [derivations_sequence, List.map_replicate, ← List.map_reverse, ← inner, List.filter_map]
    rfl
  · intro found member
    obtain ⟨taken, inner, rfl⟩ := List.mem_map.mp member
    exact ⟨taken.1, rfl, length_bounds_of_mem_repeated tokens _ least most start taken inner⟩

/-- Two to three optional pluses over one plus: the plus may be taken by any of the steps, and the
lists of two and of three steps lie between each other. -/
theorem optional_pluses_by_length :
    let plus : Token := ⟨.operator, "+", ⟨0, 1, "."⟩⟩
    let item := optional (ofText "+")
    2 ≤ 2 ∧ 2 ≤ 3 ∧
      ((repetition item 2 (some 3) none).derivations [plus] 0).filter
          (fun found => found.value.hasLength 2) =
        [⟨.list [.list [], .list []], 0⟩, ⟨.list [.list [], .list [.token plus]], 1⟩,
          ⟨.list [.list [.token plus], .list []], 1⟩] := by
  intro plus item
  have listed : ((sequence (List.replicate 2 item) none).derivations [plus] 0).reverse =
      [⟨.list [.list [], .list []], 0⟩, ⟨.list [.list [], .list [.token plus]], 1⟩,
        ⟨.list [.list [.token plus], .list []], 1⟩] := by
    rw [derivations_eq_enumerate]
    cbv
  have lists := (repetition_by_length_eq_sequences [plus] item 2 3 0).1
  exact ⟨by decide, by decide, (lists 2 (by decide) (by decide)).trans listed⟩

end Matcher

end TokenGrammar
