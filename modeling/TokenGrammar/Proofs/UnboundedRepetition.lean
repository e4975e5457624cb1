import TokenGrammar.Proofs.DerivationTrees

set_option autoImplicit false

/-! Repetitions without an upper bound against those with one. Without an upper bound a step that
stands still is never followed by another step, so a list of steps survives the loss of the bound
only without the steps that stand still and are followed by others. If enough steps are left, the
unbounded repetition gets to the same position; if too few are left, it need not. Where no step
stands still, a bound of as many steps as there are tokens left makes no difference at all. -/

namespace TokenGrammar

namespace DerivationSteps

variable {tokens : List Token} {item : Matcher} {advancing : Bool} {count start stop : Nat}

/-- The number of steps that advance or are not followed by another step. -/
def lasting {tokens : List Token} {item : Matcher} {advancing : Bool} {count start stop : Nat} :
    DerivationSteps tokens item advancing count start stop → Nat
  | .nil _ _ _ => 0
  | @DerivationSteps.cons _ _ _ followers first middle _ _ rest _ =>
      if first < middle ∨ followers = 0 then rest.lasting + 1 else rest.lasting

private theorem lasting_le_count (steps : DerivationSteps tokens item advancing count start stop) :
    steps.lasting ≤ count := by
  induction count generalizing start with
  | zero =>
      cases steps
      exact Nat.le_refl 0
  | succ count inductionHypothesis =>
      cases steps with
      | cons first rest advances =>
          have bounded := inductionHypothesis rest
          rw [lasting]
          split <;> omega

private theorem lasting_pos (steps : DerivationSteps tokens item advancing count start stop)
    (someSteps : count ≠ 0) : 0 < steps.lasting := by
  induction count generalizing start with
  | zero => exact absurd rfl someSteps
  | succ count inductionHypothesis =>
      cases steps with
      | cons first rest advances =>
          rw [lasting]
          split
          · exact Nat.succ_pos _
          · rename_i followed
            exact inductionHypothesis rest (fun last => followed (Or.inr last))

theorem lasting_eq_count (steps : DerivationSteps tokens item advancing count start stop)
    (advance : advancing = true ∨
      ∀ first last, DerivationTree tokens item first last → first < last) :
    steps.lasting = count := by
  induction count generalizing start with
  | zero =>
      cases steps
      rfl
  | succ count inductionHypothesis =>
      cases steps with
      | @cons _ _ _ _ middle _ first rest advances =>
          have lasts : start < middle ∨ count = 0 := by
            rcases advance with demanded | always
            · by_cases last : count = 0
              · exact Or.inr last
              · exact Or.inl (advances demanded last)
            · exact Or.inl (always start middle first)
          rw [lasting, if_pos lasts, inductionHypothesis rest]

def free {tokens : List Token} {item : Matcher} {advancing : Bool} {count start stop : Nat} :
    DerivationSteps tokens item advancing count start stop →
      DerivationSteps tokens item false count start stop
  | .nil item _ position => .nil item false position
  | .cons first rest _ => .cons first rest.free Bool.noConfusion

private theorem lasting_free (steps : DerivationSteps tokens item advancing count start stop) :
    steps.free.lasting = steps.lasting := by
  induction count generalizing start with
  | zero =>
      cases steps
      rfl
  | succ count inductionHypothesis =>
      cases steps with
      | cons first rest advances => rw [free, lasting, lasting, inductionHypothesis rest]

theorem exists_advancing (steps : DerivationSteps tokens item advancing count start stop) :
    Nonempty (DerivationSteps tokens item true steps.lasting start stop) := by
  induction count generalizing start with
  | zero =>
      cases steps
      exact ⟨.nil item true _⟩
  | succ count inductionHypothesis =>
      cases steps with
      | @cons _ _ _ _ middle _ first rest advances =>
          obtain ⟨others⟩ := inductionHypothesis rest
          have forward : start ≤ middle :=
            (TreeFrom.inReach ⟨middle, first⟩ (enumerate_showsTrees tokens item)).1
          rw [lasting]
          split
          · rename_i lasts
            refine ⟨.cons first others (fun _ someFollow => ?_)⟩
            have followed : count ≠ 0 := by
              have fewer := rest.lasting_le_count
              omega
            exact lasts.resolve_right followed
          · rename_i idle
            have still : middle = start := by omega
            exact ⟨still ▸ others⟩

end DerivationSteps

def DerivationTree.lastingSteps {tokens : List Token} {item : Matcher} {least : Nat}
    {most : Option Nat} {transform : Option Transform} {start stop : Nat} :
    DerivationTree tokens (.repetition item least most transform) start stop → Nat
  | .repetition _ _ steps _ _ => steps.lasting

namespace Matcher

def Reaches (tokens : List Token) (matcher : Matcher) (start stop : Nat) : Prop :=
  ∃ found ∈ matcher.derivations tokens start, found.position = stop

def AlwaysAdvances (tokens : List Token) (matcher : Matcher) : Prop :=
  ∀ position, ∀ found ∈ matcher.derivations tokens position, position < found.position

theorem reaches_iff_tree (tokens : List Token) (matcher : Matcher) (start stop : Nat) :
    matcher.Reaches tokens start stop ↔ Nonempty (DerivationTree tokens matcher start stop) := by
  constructor
  · rintro ⟨⟨value, position⟩, member, rfl⟩
    obtain ⟨tree, _⟩ := (mem_derivations_iff ..).mp member
    exact ⟨tree⟩
  · rintro ⟨tree⟩
    exact ⟨⟨tree.value, stop⟩, (mem_derivations_iff ..).mpr ⟨tree, rfl⟩, rfl⟩

theorem reaches_of_enough_lasting (tokens : List Token) (item : Matcher) (least : Nat)
    (transform : Option Transform) {advancing : Bool} {count start stop : Nat}
    (steps : DerivationSteps tokens item advancing count start stop)
    (enough : least ≤ steps.lasting) :
    (repetition item least none transform).Reaches tokens start stop := by
  rw [reaches_iff_tree]
  obtain ⟨advancing⟩ := steps.exists_advancing
  exact ⟨.repetition transform steps.lasting advancing enough (fun bound none => by cases none)⟩

private theorem AlwaysAdvances.start_lt {tokens : List Token} {matcher : Matcher}
    (advances : matcher.AlwaysAdvances tokens) (start stop : Nat)
    (tree : DerivationTree tokens matcher start stop) : start < stop :=
  advances start ⟨tree.value, stop⟩ ((mem_derivations_iff ..).mpr ⟨tree, rfl⟩)

/-- Without an upper bound a repetition gets exactly where, under some upper bound, it gets by a
derivation with enough steps that advance or come last. So it gets wherever it gets under an upper
bound if one step is enough, or if what is repeated never stands still. -/
theorem unbounded_reaches_with_lasting_steps (tokens : List Token) (item : Matcher) (least : Nat)
    (boundedTransform unboundedTransform : Option Transform) (start stop : Nat) :
    ((repetition item least none unboundedTransform).Reaches tokens start stop ↔
      ∃ bound, ∃ tree : DerivationTree tokens
          (repetition item least (some bound) boundedTransform) start stop,
        least ≤ tree.lastingSteps) ∧
    (least ≤ 1 ∨ item.AlwaysAdvances tokens →
      ∀ bound, (repetition item least (some bound) boundedTransform).Reaches tokens start stop →
        (repetition item least none unboundedTransform).Reaches tokens start stop) := by
  constructor
  · constructor
    · intro reached
      obtain ⟨tree⟩ := (reaches_iff_tree ..).mp reached
      cases tree with
      | repetition _ count steps enough _ =>
          have lasts : steps.free.lasting = count :=
            steps.lasting_free.trans (steps.lasting_eq_count (Or.inl rfl))
          refine ⟨count, .repetition boundedTransform count steps.free enough ?_, ?_⟩
          · intro bound isBound
            exact Nat.le_of_eq (Option.some.inj isBound)
          · rw [DerivationTree.lastingSteps, lasts]
            exact enough
    · rintro ⟨bound, tree, enough⟩
      cases tree with
      | repetition _ count steps _ _ =>
          exact reaches_of_enough_lasting tokens item least unboundedTransform steps enough
  · intro easy bound reached
    obtain ⟨tree⟩ := (reaches_iff_tree ..).mp reached
    cases tree with
    | repetition _ count steps enough _ =>
        apply reaches_of_enough_lasting tokens item least unboundedTransform steps
        rcases easy with small | advances
        · by_cases noStep : count = 0
          · omega
          · have positive := steps.lasting_pos noStep
            omega
        · rw [steps.lasting_eq_count (Or.inr advances.start_lt)]
          exact enough

/-- The end of input up to three times, and at least once, gets where the end of input any number
of times gets, although no step advances. -/
theorem repeated_finish_reached :
    let bounded := repetition (finish none) 1 (some 3) none
    let unbounded := repetition (finish none) 1 none none
    bounded.Reaches [] 0 0 ∧ unbounded.Reaches [] 0 0 := by
  intro bounded unbounded
  have listed : bounded.derivations [] 0 =
      [⟨.list [.null, .null, .null], 0⟩, ⟨.list [.null, .null], 0⟩, ⟨.list [.null], 0⟩] := by
    rw [derivations_eq_enumerate]
    cbv
  have reached : bounded.Reaches [] 0 0 :=
    ⟨_, listed ▸ List.mem_cons_self, rfl⟩
  have keeps := (unbounded_reaches_with_lasting_steps [] (finish none) 1 none none 0 0).2
  exact ⟨reached, keeps (Or.inl (Nat.le_refl 1)) 3 reached⟩

/-- Exactly two ends of input are found, but two or more of them are not: the first one stands
still, and without an upper bound nothing follows it. -/
theorem unbounded_misses_idle_steps :
    (repetition (finish none) 2 (some 2) none).Reaches [] 0 0 ∧
      ¬ (repetition (finish none) 2 none none).Reaches [] 0 0 := by
  have bounded : (repetition (finish none) 2 (some 2) none).derivations [] 0 =
      [⟨.list [.null, .null], 0⟩] := by
    rw [derivations_eq_enumerate]
    cbv
  have unbounded : (repetition (finish none) 2 none none).derivations [] 0 = [] := by
    rw [derivations_eq_enumerate]
    cbv
  refine ⟨⟨_, bounded ▸ List.mem_cons_self, rfl⟩, ?_⟩
  rintro ⟨found, member, _⟩
  rw [unbounded] at member
  cases member

end Matcher

/-! ### Bounds that cut nothing off -/

namespace Enumeration

def Advances (tokens : List Token) (step : Nat → List Derivation) : Prop :=
  ∀ position ≤ tokens.length, ∀ found ∈ step position, position < found.position

theorem Advances.stepLists_at_end {tokens : List Token} {step : Nat → List Derivation}
    (advances : Advances tokens step) (stay : StaysInReach tokens step) (most : Option Nat)
    (count : Nat) : stepLists tokens step most count tokens.length = [] := by
  have nothing : step tokens.length = [] := by
    apply List.eq_nil_iff_forall_not_mem.mpr
    intro found isStep
    have further := advances tokens.length (Nat.le_refl _) found isStep
    have reach := stay tokens.length found isStep
    unfold InReach at reach
    omega
  rw [stepLists, nothing, List.flatMap_nil]

/-- Each step uses up a token at least. So a bound that leaves as many steps as there are tokens left
ends no list of steps that the tokens do not end. -/
theorem stepLists_none_eq_some (tokens : List Token) (step : Nat → List Derivation)
    (advances : Advances tokens step) (stay : StaysInReach tokens step)
    (bound count position : Nat) (inside : position ≤ tokens.length)
    (ample : count + (tokens.length - position) ≤ bound) :
    stepLists tokens step none count position =
      stepLists tokens step (some bound) count position := by
  fun_induction stepLists tokens step none count position with
  | case1 count position inductionHypothesis =>
      conv_rhs => rw [stepLists]
      apply List.flatMap_congr
      intro found isStep
      have further := advances position inside found isStep
      have reach := stay position found isStep
      unfold InReach at reach
      have extending : extendable tokens none (count + 1) position found.position = true :=
        (extendable_none_iff ..).mpr ⟨further, by omega⟩
      have same := inductionHypothesis found extending (by omega) (by omega)
      rw [if_pos extending, same]
      by_cases below : count + 1 < bound
      · rw [if_pos ((extendable_some_iff ..).mpr below)]
      · -- the bound is used up, and then so are the tokens
        have atEnd : found.position = tokens.length := by omega
        rw [if_neg (fun still => below ((extendable_some_iff ..).mp still)), atEnd,
          advances.stepLists_at_end stay, List.map_nil]

theorem repeated_none_eq_some (tokens : List Token) (step : Nat → List Derivation)
    (advances : Advances tokens step) (stay : StaysInReach tokens step)
    (least bound start : Nat) (inside : start ≤ tokens.length)
    (ample : tokens.length - start ≤ bound) :
    repeated tokens step least none start = repeated tokens step least (some bound) start := by
  have same := stepLists_none_eq_some tokens step advances stay bound 0 start inside (by omega)
  have longer : (if (none : Option Nat) = some 0 then [] else stepLists tokens step none 0 start) =
      if some bound = some 0 then [] else stepLists tokens step (some bound) 0 start := by
    rw [if_neg nofun, same]
    by_cases noSteps : bound = 0
    · have atEnd : start = tokens.length := by omega
      rw [atEnd, advances.stepLists_at_end stay, ite_self]
    · rw [if_neg (fun none => noSteps (Option.some.inj none))]
  unfold repeated
  rw [longer]

end Enumeration

namespace Matcher

open Enumeration

/-- If no derivation of the item stands still, a repetition yields the same without an upper bound
and under any bound that allows as many steps as there are tokens left: the same values and
positions, in the same order. -/
theorem unbounded_eq_ample_bound (tokens : List Token) (item : Matcher)
    (least bound start : Nat) (transform : Option Transform) (inside : start ≤ tokens.length)
    (advances : Advances tokens (item.derivations tokens))
    (ample : tokens.length - start ≤ bound) :
    (repetition item least none transform).derivations tokens start =
      (repetition item least (some bound) transform).derivations tokens start := by
  have steps : item.derivations tokens = item.enumerate tokens :=
    funext (derivations_eq_enumerate tokens item)
  rw [steps] at advances
  rw [derivations_eq_enumerate, derivations_eq_enumerate, enumerate, enumerate,
    repeated_none_eq_some tokens _ advances (item.enumerate_staysInReach tokens) least bound start
      inside ample]
  rfl

/-- Steps of one or two pluses over two pluses, behind the first of three tokens: a bound of two
steps is ample. -/
theorem pluses_under_ample_bound :
    let plus : Token := ⟨.operator, "+", ⟨0, 1, "."⟩⟩
    let tokens := [plus, plus, plus]
    let item := alternation [sequence [ofText "+", ofText "+"] none, ofText "+"] none
    let unbounded := repetition item 1 none none
    let bounded := repetition item 1 (some 2) none
    1 ≤ tokens.length ∧ Advances tokens (item.derivations tokens) ∧ tokens.length - 1 ≤ 2 ∧
      unbounded.derivations tokens 1 = bounded.derivations tokens 1 ∧
      bounded.derivations tokens 1 =
        [⟨.list [.token plus, .token plus], 3⟩, ⟨.list [.token plus], 2⟩,
          ⟨.list [.list [.token plus, .token plus]], 3⟩] := by
  intro plus tokens item unbounded bounded
  have advances : Advances tokens (item.derivations tokens) := by
    have checked : (List.range 4).all (fun position =>
        (item.enumerate tokens position).all (fun found => position < found.position)) = true := by
      cbv
    intro position inside found member
    rw [derivations_eq_enumerate] at member
    have inRange : position ∈ List.range 4 := List.mem_range.mpr (Nat.lt_succ_of_le inside)
    have fromPosition := List.all_eq_true.mp checked position inRange
    exact of_decide_eq_true (List.all_eq_true.mp fromPosition found member)
  have listed : bounded.derivations tokens 1 =
      [⟨.list [.token plus, .token plus], 3⟩, ⟨.list [.token plus], 2⟩,
        ⟨.list [.list [.token plus, .token plus]], 3⟩] := by
    rw [derivations_eq_enumerate]
    cbv
  exact ⟨by decide, advances, by decide,
    unbounded_eq_ample_bound tokens item 1 2 1 none (by decide) advances (by decide), listed⟩

end Matcher

end TokenGrammar
