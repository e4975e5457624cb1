import Mathlib.Data.List.Chain
import TokenGrammar.Proofs.Derivations

set_option autoImplicit false

/-! The order in which a repetition yields. Every yield has its steps behind it, and it is said
here of these in which order they come: each list of steps comes before the list without its last
step, and the first one is a list that no step may follow. Longer lists need not come before shorter
ones; only where there is no choice of steps do the lengths go down, and then one by one. -/

namespace TokenGrammar

namespace Enumeration

/-! ### Walks -/

/-- Steps one after the other, each from where the one before it stopped. -/
def IsWalk (step : Nat → List Derivation) : Nat → List Derivation → Prop
  | _, [] => True
  | start, found :: later => found ∈ step start ∧ IsWalk step found.position later

def walkEnd : Nat → List Derivation → Nat
  | start, [] => start
  | _, found :: later => walkEnd found.position later

def walkResult (start : Nat) (walk : List Derivation) : Derivation :=
  ⟨.list (walk.map Derivation.value), walkEnd start walk⟩

private theorem walkEnd_append (start : Nat) (walk : List Derivation) (last : Derivation) :
    walkEnd start (walk ++ [last]) = last.position := by
  induction walk generalizing start with
  | nil => rfl
  | cons found later inductionHypothesis => exact inductionHypothesis found.position

private theorem isWalk_append_iff (step : Nat → List Derivation) (start : Nat)
    (walk : List Derivation) (last : Derivation) :
    IsWalk step start (walk ++ [last]) ↔
      IsWalk step start walk ∧ last ∈ step (walkEnd start walk) := by
  induction walk generalizing start with
  | nil => simp [IsWalk, walkEnd]
  | cons found later inductionHypothesis =>
      rw [List.cons_append, IsWalk, IsWalk, walkEnd, inductionHypothesis, and_assoc]

/-- The walks behind the lists of steps, in the same order. -/
def stepWalks (tokens : List Token) (step : Nat → List Derivation) (most : Option Nat)
    (count position : Nat) : List (List Derivation) :=
  (step position).flatMap (fun found =>
    [found] ::
      if extendable tokens most (count + 1) position found.position then
        (stepWalks tokens step most (count + 1) found.position).map (fun later => found :: later)
      else [])
termination_by room tokens most count position
decreasing_by exact room_lt_of_extendable ‹_›

private theorem stepLists_eq_map_stepWalks (tokens : List Token) (step : Nat → List Derivation)
    (most : Option Nat) (count position : Nat) :
    stepLists tokens step most count position =
      (stepWalks tokens step most count position).map
        (fun walk => (walk.map Derivation.value, walkEnd position walk)) := by
  fun_induction stepWalks tokens step most count position with
  | case1 count position inductionHypothesis =>
      rw [stepLists, List.map_flatMap]
      apply List.flatMap_congr
      intro found _
      rw [List.map_cons]
      congr 1
      split
      · rename_i extending
        rw [inductionHypothesis found extending, List.map_map, List.map_map]
        rfl
      · rfl

theorem isWalk_of_mem_stepWalks (tokens : List Token) (step : Nat → List Derivation)
    (most : Option Nat) (count position : Nat) (walk : List Derivation)
    (member : walk ∈ stepWalks tokens step most count position) : IsWalk step position walk := by
  fun_induction stepWalks tokens step most count position generalizing walk with
  | case1 count position inductionHypothesis =>
      obtain ⟨found, inStep, inRest⟩ := List.mem_flatMap.mp member
      rcases List.mem_cons.mp inRest with rfl | inLonger
      · exact ⟨inStep, trivial⟩
      · split at inLonger
        · rename_i extending
          obtain ⟨later, inLater, rfl⟩ := List.mem_map.mp inLonger
          exact ⟨inStep, inductionHypothesis found extending later inLater⟩
        · cases inLonger

theorem stepWalks_eq_nil_iff (tokens : List Token) (step : Nat → List Derivation)
    (most : Option Nat) (count position : Nat) :
    stepWalks tokens step most count position = [] ↔ step position = [] := by
  rw [stepWalks, List.flatMap_eq_nil_iff]
  constructor
  · intro nothing
    apply List.eq_nil_iff_forall_not_mem.mpr
    intro found member
    exact List.cons_ne_nil _ _ (nothing found member)
  · intro nothing found member
    rw [nothing] at member
    cases member

def discoveredWalks (tokens : List Token) (step : Nat → List Derivation) (most : Option Nat)
    (start : Nat) : List (List Derivation) :=
  [] :: if most = some 0 then [] else stepWalks tokens step most 0 start

def repeatedWalks (tokens : List Token) (step : Nat → List Derivation) (least : Nat)
    (most : Option Nat) (start : Nat) : List (List Derivation) :=
  ((discoveredWalks tokens step most start).filter (fun walk => least ≤ walk.length)).reverse

private theorem repeated_eq_map_repeatedWalks (tokens : List Token) (step : Nat → List Derivation)
    (least : Nat) (most : Option Nat) (start : Nat) :
    repeated tokens step least most start =
      (repeatedWalks tokens step least most start).map
        (fun walk => (walk.map Derivation.value, walkEnd start walk)) := by
  have discovered : (([], start) ::
        if most = some 0 then [] else stepLists tokens step most 0 start) =
      (discoveredWalks tokens step most start).map
        (fun walk => (walk.map Derivation.value, walkEnd start walk)) := by
    rw [discoveredWalks, List.map_cons]
    congr 1
    split
    · rfl
    · exact stepLists_eq_map_stepWalks tokens step most 0 start
  rw [repeated, discovered, repeatedWalks, List.map_reverse, List.filter_map]
  simp only [Function.comp_def, List.length_map]

/-! ### Shorter walks are discovered first -/

/-- Wherever the list is cut off, the walks in front of the cut have in front of it the walks
without their last step, the empty one apart. -/
def ShorterFirst (walks : List (List Derivation)) : Prop :=
  ∀ count, ∀ walk ∈ walks.take count, walk.dropLast = [] ∨ walk.dropLast ∈ walks.take count

theorem ShorterFirst.append {walks others : List (List Derivation)} (first : ShorterFirst walks)
    (second : ShorterFirst others) : ShorterFirst (walks ++ others) := by
  intro count walk member
  rw [List.take_append] at member ⊢
  rcases List.mem_append.mp member with inFirst | inSecond
  · exact (first count walk inFirst).imp_right (List.mem_append_left _)
  · exact (second _ walk inSecond).imp_right (List.mem_append_right _)

theorem ShorterFirst.flatMap {α : Type} {items : List α} {walksOf : α → List (List Derivation)}
    (each : ∀ item ∈ items, ShorterFirst (walksOf item)) : ShorterFirst (items.flatMap walksOf) := by
  induction items with
  | nil =>
      intro count walk member
      simp at member
  | cons item later inductionHypothesis =>
      rw [List.flatMap_cons]
      exact (each item List.mem_cons_self).append
        (inductionHypothesis (fun other member => each other (List.mem_cons_of_mem item member)))

theorem ShorterFirst.behind {walks : List (List Derivation)} (shorterFirst : ShorterFirst walks)
    (found : Derivation) : ShorterFirst ([found] :: walks.map (fun later => found :: later)) := by
  intro count walk member
  cases count with
  | zero => cases member
  | succ count =>
      rw [List.take_succ_cons, ← List.map_take] at member ⊢
      rcases List.mem_cons.mp member with rfl | inLonger
      · exact Or.inl rfl
      · obtain ⟨later, inWalks, rfl⟩ := List.mem_map.mp inLonger
        cases later with
        | nil => exact Or.inl rfl
        | cons next others =>
            right
            rw [List.dropLast_cons_of_ne_nil (List.cons_ne_nil next others)]
            rcases shorterFirst count _ inWalks with single | shorter
            · rw [single]
              exact List.mem_cons_self
            · exact List.mem_cons_of_mem _ (List.mem_map_of_mem shorter)

theorem shorterFirst_stepWalks (tokens : List Token) (step : Nat → List Derivation)
    (most : Option Nat) (count position : Nat) :
    ShorterFirst (stepWalks tokens step most count position) := by
  fun_induction stepWalks tokens step most count position with
  | case1 count position inductionHypothesis =>
      apply ShorterFirst.flatMap
      intro found _
      split
      · rename_i extending
        exact (inductionHypothesis found extending).behind found
      · intro cut walk member
        have single : walk = [found] := List.mem_singleton.mp (List.mem_of_mem_take member)
        exact Or.inl (congrArg List.dropLast single)

private theorem dropLast_mem_of_discoveredWalks (tokens : List Token) (step : Nat → List Derivation)
    (most : Option Nat) (start : Nat) (before after : List (List Derivation))
    (walk : List Derivation) (nonempty : walk ≠ [])
    (split : discoveredWalks tokens step most start = before ++ walk :: after) :
    walk.dropLast ∈ before := by
  cases before with
  | nil => exact absurd (List.cons.inj split).1.symm nonempty
  | cons first earlier =>
      rw [discoveredWalks, List.cons_append] at split
      obtain ⟨rfl, rest⟩ := List.cons.inj split
      have shorterFirst : ShorterFirst (earlier ++ walk :: after) := by
        rw [← rest]
        split
        · intro count other member
          simp at member
        · exact shorterFirst_stepWalks tokens step most 0 start
      have cut : (earlier ++ walk :: after).take (earlier.length + 1) = earlier ++ [walk] := by
        rw [List.take_append, List.take_of_length_le (Nat.le_succ _)]
        simp
      have differs : walk.dropLast ≠ walk := by
        intro same
        have lengths := congrArg List.length same
        have positive := List.length_pos_iff.mpr nonempty
        rw [List.length_dropLast] at lengths
        omega
      rcases shorterFirst (earlier.length + 1) walk (by simp [cut]) with empty | shorter
      · rw [empty]
        exact List.mem_cons_self
      · rw [cut, List.mem_append, List.mem_singleton] at shorter
        exact List.mem_cons_of_mem _ (shorter.resolve_right differs)

/-! ### The walk that is discovered last -/

private theorem exists_getLast?_of_flatMap {α β : Type} (items : List α) (next : α → List β)
    (last : β) (isLast : last ∈ (items.flatMap next).getLast?) :
    ∃ item ∈ items, last ∈ (next item).getLast? := by
  induction items with
  | nil => cases isLast
  | cons item later inductionHypothesis =>
      rw [List.flatMap_cons, List.getLast?_append] at isLast
      rcases Option.or_eq_some_iff.mp isLast with inLater | ⟨_, here⟩
      · obtain ⟨other, member, found⟩ := inductionHypothesis inLater
        exact ⟨other, List.mem_cons_of_mem item member, found⟩
      · exact ⟨item, List.mem_cons_self, here⟩

/-- No step may follow the walk, or none can: it has as many steps as are allowed, or its last step
stood still and only the steps that advance are followed by others, or there is no step from where
it ended. -/
def Maximal (step : Nat → List Derivation) (most : Option Nat) (count start : Nat)
    (walk : List Derivation) : Prop :=
  most = some (count + walk.length) ∨
    (most = none ∧ ∃ shorter last, walk = shorter ++ [last] ∧
      last.position = walkEnd start shorter) ∨
    step (walkEnd start walk) = []

theorem Maximal.behind {step : Nat → List Derivation} {most : Option Nat} {count start : Nat}
    {found : Derivation} {walk : List Derivation}
    (maximal : Maximal step most (count + 1) found.position walk) :
    Maximal step most count start (found :: walk) := by
  rcases maximal with full | ⟨unbounded, shorter, last, rfl, still⟩ | ended
  · left
    rw [full, List.length_cons, Nat.add_right_comm, Nat.add_assoc]
  · exact Or.inr (Or.inl ⟨unbounded, found :: shorter, last, rfl, still⟩)
  · exact Or.inr (Or.inr ended)

private theorem maximal_single (tokens : List Token) (step : Nat → List Derivation)
    (most : Option Nat) (stay : StaysInReach tokens step) (count position : Nat)
    (below : ∀ bound ∈ most, count < bound) (found : Derivation) (member : found ∈ step position)
    (alone : extendable tokens most (count + 1) position found.position = true →
      step found.position = []) : Maximal step most count position [found] := by
  by_cases extending : extendable tokens most (count + 1) position found.position = true
  · exact Or.inr (Or.inr (alone extending))
  · cases most with
    | some bound =>
        left
        have allowed := below bound rfl
        rw [extendable_some_iff] at extending
        rw [List.length_singleton, Option.some.injEq]
        omega
    | none =>
        right
        left
        have reach := stay position found member
        unfold InReach at reach
        rw [extendable_none_iff] at extending
        refine ⟨rfl, [], found, rfl, ?_⟩
        rw [walkEnd]
        omega

private theorem maximal_last_of_stepWalks (tokens : List Token) (step : Nat → List Derivation)
    (most : Option Nat) (stay : StaysInReach tokens step) (least count position : Nat)
    (below : ∀ bound ∈ most, count < bound) (walk : List Derivation)
    (isLast : walk ∈ ((stepWalks tokens step most count position).filter
      (fun walk => least ≤ count + walk.length)).getLast?) :
    Maximal step most count position walk := by
  fun_induction stepWalks tokens step most count position generalizing walk with
  | case1 count position inductionHypothesis =>
      rw [List.filter_flatMap] at isLast
      obtain ⟨found, inStep, lastHere⟩ := exists_getLast?_of_flatMap _ _ _ isLast
      rw [← List.singleton_append, List.filter_append, List.getLast?_append] at lastHere
      rcases Option.or_eq_some_iff.mp lastHere with inLonger | ⟨noneLonger, isFirst⟩
      · split at inLonger
        · rename_i extending
          rw [List.filter_map, List.getLast?_map] at inLonger
          obtain ⟨later, isLater, rfl⟩ := Option.map_eq_some_iff.mp inLonger
          have counted : (fun walk : List Derivation => decide (least ≤ count + walk.length)) ∘
              (fun later => found :: later) = fun walk => decide (least ≤ count + 1 + walk.length) := by
            funext walk
            simp [Nat.add_right_comm, Nat.add_assoc]
          rw [counted] at isLater
          refine (inductionHypothesis found extending ?_ later isLater).behind
          intro bound isBound
          rw [Option.mem_def.mp isBound] at extending
          exact (extendable_some_iff tokens bound _ _ _).mp extending
        · cases inLonger
      · have onlyFirst := List.mem_filter.mp (List.mem_of_getLast? isFirst)
        have single : walk = [found] := List.mem_singleton.mp onlyFirst.1
        subst single
        refine maximal_single tokens step most stay count position below found inStep ?_
        intro extending
        -- a longer walk would be long enough as well, and would come later
        rw [if_pos extending] at noneLonger
        have noneKept := List.filter_eq_nil_iff.mp (List.getLast?_eq_none_iff.mp noneLonger)
        rw [← stepWalks_eq_nil_iff tokens step most (count + 1)]
        apply List.eq_nil_iff_forall_not_mem.mpr
        intro later member
        apply noneKept (found :: later) (List.mem_map_of_mem member)
        have enough : least ≤ count + 1 := by simpa using onlyFirst.2
        rw [List.length_cons, decide_eq_true_iff]
        omega

/-! ### Lengths where there is no choice -/

def GrowsByOne (walks : List (List Derivation)) : Prop :=
  walks.IsChain (fun shorter longer => longer.length = shorter.length + 1)

private theorem GrowsByOne.length_lt {walk : List Derivation} {later : List (List Derivation)}
    (grows : GrowsByOne (walk :: later)) (other : List Derivation) (member : other ∈ later) :
    walk.length < other.length := by
  have ascending : ((walk :: later).map List.length).IsChain (fun shorter longer => shorter < longer) :=
    List.isChain_map_of_isChain List.length (fun shorter longer grown => by omega) grows
  exact (List.pairwise_cons.mp (List.isChain_iff_pairwise.mp ascending)).1 other.length
    (List.mem_map_of_mem member)

theorem GrowsByOne.filter {walks : List (List Derivation)} (grows : GrowsByOne walks)
    (least : Nat) : GrowsByOne (walks.filter (fun walk => least ≤ walk.length)) := by
  induction walks with
  | nil => exact grows
  | cons walk later inductionHypothesis =>
      by_cases enough : least ≤ walk.length
      · have all : (walk :: later).filter (fun walk => least ≤ walk.length) = walk :: later := by
          apply List.filter_eq_self.mpr
          intro other member
          rcases List.mem_cons.mp member with rfl | inLater
          · simpa using enough
          · have longer := grows.length_lt other inLater
            simp
            omega
        rw [all]
        exact grows
      · rw [List.filter_cons_of_neg (by simpa using enough)]
        exact inductionHypothesis (List.isChain_of_isChain_cons grows)

theorem GrowsByOne.behind {walks : List (List Derivation)} (grows : GrowsByOne ([] :: walks))
    (found : Derivation) :
    GrowsByOne ([] :: [found] :: walks.map (fun later => found :: later)) := by
  have longer : GrowsByOne (([] :: walks).map (fun later => found :: later)) :=
    List.isChain_map_of_isChain _ (fun shorter longer grown => by simp [grown]) grows
  exact List.isChain_cons_cons.mpr ⟨rfl, longer⟩

private theorem growsByOne_stepWalks (tokens : List Token) (step : Nat → List Derivation)
    (most : Option Nat) (stay : StaysInReach tokens step) (count position : Nat)
    (few : ∀ other, InReach tokens position other → (step other).length ≤ 1) :
    GrowsByOne ([] :: stepWalks tokens step most count position) := by
  fun_induction stepWalks tokens step most count position with
  | case1 count position inductionHypothesis =>
      cases steps : step position with
      | nil => exact List.IsChain.singleton []
      | cons found others =>
          have alone : others = [] := by
            have one := few position (InReach.refl tokens position)
            simpa [steps] using one
          rw [alone, List.flatMap_singleton]
          split
          · rename_i extending
            have reach := stay position found (steps ▸ List.mem_cons_self)
            have rest := inductionHypothesis found extending
              (fun other onward => few other (reach.trans onward))
            exact rest.behind found
          · exact List.isChain_cons_cons.mpr ⟨rfl, List.IsChain.singleton [found]⟩

theorem growsByOne_discoveredWalks (tokens : List Token) (step : Nat → List Derivation)
    (most : Option Nat) (stay : StaysInReach tokens step) (start : Nat)
    (few : ∀ other, InReach tokens start other → (step other).length ≤ 1) :
    GrowsByOne (discoveredWalks tokens step most start) := by
  rw [discoveredWalks]
  split
  · exact List.IsChain.singleton []
  · exact growsByOne_stepWalks tokens step most stay 0 start few

/-! ### The walks of a repetition -/

private theorem shorter_later_of_repeatedWalks (tokens : List Token) (step : Nat → List Derivation)
    (least : Nat) (most : Option Nat) (start : Nat) (earlier later : List (List Derivation))
    (walk : List Derivation) (long : least < walk.length)
    (split : repeatedWalks tokens step least most start = earlier ++ walk :: later) :
    walk.dropLast ∈ later := by
  have kept : (discoveredWalks tokens step most start).filter (fun walk => least ≤ walk.length) =
      later.reverse ++ walk :: earlier.reverse := by
    have reversed := congrArg List.reverse split
    rw [repeatedWalks, List.reverse_reverse] at reversed
    simp [reversed]
  obtain ⟨front, back, cut, frontKept, backKept⟩ := List.filter_eq_append_iff.mp kept
  obtain ⟨skipped, rest, behind, noneKept, _, _⟩ := List.filter_eq_cons_iff.mp backKept
  have nonempty : walk ≠ [] := List.length_pos_iff.mp (Nat.zero_lt_of_lt long)
  have before : walk.dropLast ∈ front ++ skipped := by
    apply dropLast_mem_of_discoveredWalks tokens step most start (front ++ skipped) rest walk nonempty
    rw [cut, behind, List.append_assoc]
  have enough : least ≤ walk.dropLast.length := by
    rw [List.length_dropLast]
    omega
  rcases List.mem_append.mp before with inFront | inSkipped
  · have inLater : walk.dropLast ∈ later.reverse := by
      rw [← frontKept]
      exact List.mem_filter.mpr ⟨inFront, by simpa using enough⟩
    exact List.mem_reverse.mp inLater
  · exact absurd (by simpa using enough) (noneKept _ inSkipped)

theorem isWalk_of_mem_repeatedWalks (tokens : List Token) (step : Nat → List Derivation)
    (least : Nat) (most : Option Nat) (start : Nat) (walk : List Derivation)
    (member : walk ∈ repeatedWalks tokens step least most start) : IsWalk step start walk := by
  have discovered := (List.mem_filter.mp (List.mem_reverse.mp member)).1
  rcases List.mem_cons.mp discovered with rfl | nonempty
  · trivial
  · split at nonempty
    · cases nonempty
    · exact isWalk_of_mem_stepWalks tokens step most 0 start walk nonempty

private theorem maximal_first_of_repeatedWalks (tokens : List Token) (step : Nat → List Derivation)
    (stay : StaysInReach tokens step) (least : Nat) (most : Option Nat) (start : Nat)
    (walk : List Derivation)
    (isFirst : walk ∈ (repeatedWalks tokens step least most start).head?) :
    Maximal step most 0 start walk := by
  rw [repeatedWalks, List.head?_reverse, discoveredWalks, ← List.singleton_append,
    List.filter_append, List.getLast?_append] at isFirst
  rcases Option.or_eq_some_iff.mp isFirst with inLonger | ⟨noneLonger, isEmpty⟩
  · split at inLonger
    · cases inLonger
    · rename_i bounded
      have below : ∀ bound ∈ most, 0 < bound := by
        intro bound isBound
        apply Nat.pos_of_ne_zero
        rintro rfl
        exact bounded isBound
      exact maximal_last_of_stepWalks tokens step most stay least 0 start below walk
        (by simpa only [Nat.zero_add, Option.mem_def] using inLonger)
  · have onlyEmpty := List.mem_filter.mp (List.mem_of_getLast? isEmpty)
    have nothing : walk = [] := List.mem_singleton.mp onlyEmpty.1
    subst nothing
    have noneNeeded : least = 0 := by simpa using onlyEmpty.2
    have noneKept := List.getLast?_eq_none_iff.mp noneLonger
    split at noneKept
    · rename_i full
      exact Or.inl full
    · have noWalk : stepWalks tokens step most 0 start = [] := by simpa [noneNeeded] using noneKept
      exact Or.inr (Or.inr ((stepWalks_eq_nil_iff tokens step most 0 start).mp noWalk))

end Enumeration

/-! ### The order of the yields -/

namespace Matcher

open Enumeration

/-- What can be said of the walks behind the yields of a repetition, in the order of the yields. -/
structure GreedyOrder (tokens : List Token) (item : Matcher) (least : Nat) (most : Option Nat)
    (start : Nat) (walks : List (List Derivation)) : Prop where
  steps : ∀ walk ∈ walks, IsWalk (item.derivations tokens) start walk
  shortened : ∀ earlier walk later, walks = earlier ++ walk :: later → least < walk.length →
    ∃ shorter last, walk = shorter ++ [last] ∧ shorter ∈ later ∧
      last ∈ item.derivations tokens (walkEnd start shorter) ∧ last.position = walkEnd start walk
  first : ∀ walk ∈ walks.head?, Maximal (item.derivations tokens) most 0 start walk
  last : least = 0 → walks.getLast? = some []
  descending : (∀ position, InReach tokens start position →
      (item.derivations tokens position).length ≤ 1) →
    walks.IsChain (fun longer shorter => longer.length = shorter.length + 1)

theorem greedyOrder_repeatedWalks (tokens : List Token) (item : Matcher) (least : Nat)
    (most : Option Nat) (start : Nat) :
    item.GreedyOrder tokens least most start
      (repeatedWalks tokens (item.derivations tokens) least most start) where
  steps := isWalk_of_mem_repeatedWalks tokens _ least most start
  shortened := by
    intro earlier walk later split long
    have nonempty : walk ≠ [] := List.length_pos_iff.mp (Nat.zero_lt_of_lt long)
    have isWalk := isWalk_of_mem_repeatedWalks tokens (item.derivations tokens) least most start
      walk (by simp [split])
    have shorterLater := shorter_later_of_repeatedWalks tokens (item.derivations tokens) least most
      start earlier later walk long split
    obtain ⟨shorter, last, rfl⟩ : ∃ shorter last, walk = shorter ++ [last] :=
      ⟨walk.dropLast, walk.getLast nonempty, (List.dropLast_append_getLast nonempty).symm⟩
    rw [List.dropLast_concat] at shorterLater
    exact ⟨shorter, last, rfl, shorterLater, ((isWalk_append_iff _ start shorter last).mp isWalk).2,
      (walkEnd_append start shorter last).symm⟩
  first := maximal_first_of_repeatedWalks tokens _ (item.derivations_staysInReach tokens) least most start
  last := by
    rintro rfl
    rw [repeatedWalks, List.getLast?_reverse, discoveredWalks]
    rfl
  descending := by
    intro few
    have grows := growsByOne_discoveredWalks tokens (item.derivations tokens) most
      (item.derivations_staysInReach tokens) start few
    exact List.isChain_reverse.mpr (grows.filter least)

/-- Every yield of a repetition has a walk behind it, and the walks come in greedy order. -/
theorem repetition_yields_in_greedy_order (tokens : List Token) (item : Matcher) (least : Nat)
    (most : Option Nat) (start : Nat) :
    ∃ walks, (repetition item least most none).derivations tokens start =
        walks.map (walkResult start) ∧
      item.GreedyOrder tokens least most start walks := by
  refine ⟨repeatedWalks tokens (item.derivations tokens) least most start, ?_,
    greedyOrder_repeatedWalks tokens item least most start⟩
  rw [derivations_repetition, repeated_eq_map_repeatedWalks, List.map_map]
  rfl

/-- Where one plus or two pluses may be a step, the yields of any number of steps over two pluses
begin with the list of one step over both of them, and not with the longest list. -/
example :
    let first : Token := ⟨.operator, "+", ⟨0, 1, "."⟩⟩
    let second : Token := ⟨.operator, "+", ⟨1, 2, "."⟩⟩
    let item := alternation [ofText "+", sequence [ofText "+", ofText "+"] none] none
    (repetition item 0 none none).enumerate [first, second] 0 =
      [⟨.list [.list [.token first, .token second]], 2⟩,
        ⟨.list [.token first, .token second], 2⟩, ⟨.list [.token first], 1⟩, ⟨.list [], 0⟩] := by
  cbv

end Matcher

end TokenGrammar
