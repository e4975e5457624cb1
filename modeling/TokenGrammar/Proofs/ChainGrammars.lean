import Mathlib.Data.List.Forall2
import TokenGrammar.Matcher.Library
import TokenGrammar.Proofs.Derivations

set_option autoImplicit false

/-! What the ready-made grammars derive. A chain of identifiers is said here as a list of tokens,
with no positions and no search. The grammar of a chain finds exactly the tokens that are one, and
finds them once: the repetition offers every shorter chain too, but only one of them leaves a single
identifier in front of the end. -/

namespace TokenGrammar

/-! ### At most one derivation -/

/-- From every position there is one derivation at most. -/
def Matcher.Deterministic (tokens : List Token) (matcher : Matcher) : Prop :=
  ∀ start, (matcher.enumerate tokens start).length ≤ 1

private theorem length_flatMap_le_one {α β γ : Type} (items : List α) (next : α → List β)
    (key : α → γ) (only : γ) (distinct : items.Pairwise (fun left right => key left ≠ key right))
    (each : ∀ item ∈ items, (next item).length ≤ 1)
    (matching : ∀ item ∈ items, next item ≠ [] → key item = only) :
    (items.flatMap next).length ≤ 1 := by
  induction items with
  | nil => exact Nat.zero_le 1
  | cons item later inductionHypothesis =>
      obtain ⟨apart, laterDistinct⟩ := List.pairwise_cons.mp distinct
      have bounded := each item List.mem_cons_self
      rw [List.flatMap_cons, List.length_append]
      by_cases isKey : key item = only
      · have nothingLater : later.flatMap next = [] := by
          apply List.flatMap_eq_nil_iff.mpr
          intro other member
          by_contra something
          have otherKey := matching other (List.mem_cons_of_mem item member) something
          exact apart other member (isKey.trans otherKey.symm)
        rw [nothingLater]
        exact bounded
      · have nothing : next item = [] := by
          by_contra something
          exact isKey (matching item List.mem_cons_self something)
        have rest := inductionHypothesis laterDistinct
          (fun other member => each other (List.mem_cons_of_mem item member))
          (fun other member => matching other (List.mem_cons_of_mem item member))
        rw [nothing, List.length_nil]
        omega

private theorem nil_or_singleton_of_length_le_one {α : Type} (items : List α)
    (few : items.length ≤ 1) :
    items = [] ∨ ∃ item, items = [item] := by
  match items, few with
  | [], _ => exact Or.inl rfl
  | [item], _ => exact Or.inr ⟨item, rfl⟩

namespace Enumeration

theorem length_inTurn_le_one (steps : List (Nat → List Derivation))
    (each : ∀ step ∈ steps, ∀ start, (step start).length ≤ 1) (start : Nat) :
    (inTurn steps start).length ≤ 1 := by
  induction steps generalizing start with
  | nil => exact Nat.le_refl 1
  | cons step later inductionHypothesis =>
      rw [inTurn]
      rcases nil_or_singleton_of_length_le_one _ (each step List.mem_cons_self start) with
        nothing | ⟨first, only⟩
      · rw [nothing]
        exact Nat.zero_le 1
      · rw [only, List.flatMap_singleton, List.length_map]
        exact inductionHypothesis
          (fun other member => each other (List.mem_cons_of_mem step member)) first.position

/-- Lists of steps that advance and that leave no choice get further one by one. -/
theorem pairwise_stepLists (tokens : List Token) (step : Nat → List Derivation)
    (most : Option Nat) (single : ∀ start, (step start).length ≤ 1)
    (advances : ∀ start, ∀ found ∈ step start, start < found.position) (count start : Nat) :
    (∀ taken ∈ stepLists tokens step most count start, start < taken.2) ∧
      (stepLists tokens step most count start).Pairwise (fun left right => left.2 < right.2) := by
  fun_induction stepLists tokens step most count start with
  | case1 count start inductionHypothesis =>
      rcases nil_or_singleton_of_length_le_one _ (single start) with nothing | ⟨first, only⟩
      · rw [nothing]
        simp
      · have further : start < first.position :=
          advances start first (only ▸ List.mem_singleton_self first)
        rw [only, List.flatMap_singleton]
        split
        · rename_i extending
          obtain ⟨behind, ascending⟩ := inductionHypothesis first extending
          have allBehind : ∀ taken ∈ (stepLists tokens step most (count + 1) first.position).map
              (fun later => (first.value :: later.1, later.2)), first.position < taken.2 := by
            intro taken member
            obtain ⟨rest, inLater, rfl⟩ := List.mem_map.mp member
            exact behind rest inLater
          constructor
          · intro taken member
            rcases List.mem_cons.mp member with rfl | inLonger
            · exact further
            · exact Nat.lt_trans further (allBehind taken inLonger)
          · exact List.pairwise_cons.mpr ⟨allBehind, List.pairwise_map.mpr ascending⟩
        · simp [further]

private theorem pairwise_repeated (tokens : List Token) (step : Nat → List Derivation) (least : Nat)
    (most : Option Nat) (single : ∀ start, (step start).length ≤ 1)
    (advances : ∀ start, ∀ found ∈ step start, start < found.position) (start : Nat) :
    (repeated tokens step least most start).Pairwise (fun left right => right.2 < left.2) := by
  obtain ⟨behind, ascending⟩ := pairwise_stepLists tokens step most single advances 0 start
  apply List.pairwise_reverse.mpr
  apply List.Pairwise.filter
  split
  · simp
  · exact List.pairwise_cons.mpr ⟨behind, ascending⟩

end Enumeration

/-! ### Words between two positions -/

/-- The word lies in the tokens, from one position to the other. -/
def LiesAt (tokens : List Token) : Nat → List Token → Nat → Prop
  | start, [], stop => stop = start
  | start, token :: word, stop => tokens[start]? = some token ∧ LiesAt tokens (start + 1) word stop

private theorem drop_eq_cons_iff (tokens : List Token) (start : Nat) (token : Token)
    (rest : List Token) :
    tokens.drop start = token :: rest ↔
      tokens[start]? = some token ∧ tokens.drop (start + 1) = rest := by
  rw [← List.head?_drop, ← List.tail_drop]
  constructor
  · intro split
    rw [split]
    exact ⟨rfl, rfl⟩
  · rintro ⟨first, rfl⟩
    exact List.eq_cons_of_mem_head? first

theorem liesAt_iff (tokens : List Token) (start : Nat) (word : List Token) (stop : Nat) :
    LiesAt tokens start word stop ↔
      stop = start + word.length ∧ tokens.drop start = word ++ tokens.drop stop := by
  induction word generalizing start with
  | nil =>
      rw [LiesAt, List.length_nil, Nat.add_zero, List.nil_append, iff_self_and]
      rintro rfl
      rfl
  | cons token later inductionHypothesis =>
      have lengths : stop = start + 1 + later.length ↔ stop = start + (later.length + 1) := by
        omega
      rw [LiesAt, inductionHypothesis, List.cons_append, drop_eq_cons_iff, List.length_cons,
        lengths, and_left_comm]

private theorem liesAt_of_drop_eq_append (tokens : List Token) (start : Nat)
    (word rest : List Token) (here : tokens.drop start = word ++ rest) :
    LiesAt tokens start word (start + word.length) ∧
      tokens.drop (start + word.length) = rest := by
  have behind : tokens.drop (start + word.length) = rest := by
    rw [← List.drop_drop, here, List.drop_left]
  exact ⟨(liesAt_iff ..).mpr ⟨rfl, by rw [here, behind]⟩, behind⟩

/-! ### What a matcher spells -/

/-- The matcher finds a value between two positions exactly if the word between them spells it. -/
def Matcher.Spells (tokens : List Token) (matcher : Matcher)
    (spelling : List Token → Value → Prop) : Prop :=
  ∀ start found, found ∈ matcher.enumerate tokens start ↔
    ∃ word, spelling word found.value ∧ LiesAt tokens start word found.position

namespace Matcher

open Enumeration

theorem deterministic_token (tokens : List Token) (test : TokenTest)
    (transform : Option Transform) : (token test transform).Deterministic tokens := by
  intro start
  rw [enumerate, List.length_map]
  cases tokens[start]?.filter test.accepts with
  | none => exact Nat.zero_le 1
  | some token => exact Nat.le_refl 1

private theorem deterministic_finish (tokens : List Token) (transform : Option Transform) :
    (finish transform).Deterministic tokens := by
  intro start
  rw [enumerate]
  split
  · exact Nat.le_refl 1
  · exact Nat.zero_le 1

theorem deterministic_sequence (tokens : List Token) (items : List Matcher)
    (transform : Option Transform) (each : ∀ item ∈ items, item.Deterministic tokens) :
    (sequence items transform).Deterministic tokens := by
  intro start
  rw [enumerate, List.length_map]
  apply length_inTurn_le_one
  intro step isStep
  obtain ⟨item, isItem, rfl⟩ := List.mem_map.mp isStep
  exact each item isItem

private theorem deterministic_alternation (tokens : List Token) (left right : Matcher)
    (transform : Option Transform) (leftOnce : left.Deterministic tokens)
    (rightOnce : right.Deterministic tokens)
    (exclusive : ∀ start, ∀ found ∈ left.enumerate tokens start,
      ∀ other, other ∉ right.enumerate tokens start) :
    (alternation [left, right] transform).Deterministic tokens := by
  intro start
  rw [enumerate, List.length_map, List.flatMap_cons, List.flatMap_singleton, List.length_append]
  have leftFew := leftOnce start
  have rightFew := rightOnce start
  by_cases nothing : left.enumerate tokens start = []
  · rw [nothing, List.length_nil]
    omega
  · obtain ⟨found, member⟩ := List.exists_mem_of_ne_nil _ nothing
    rw [List.eq_nil_iff_forall_not_mem.mpr (exclusive start found member), List.length_nil]
    omega

theorem mem_enumerate_token_iff (tokens : List Token) (test : TokenTest) (start : Nat)
    (found : Derivation) :
    found ∈ (token test none).enumerate tokens start ↔
      ∃ token, tokens[start]? = some token ∧ test.accepts token = true ∧
        found = ⟨.token token, start + 1⟩ := by
  rw [enumerate, List.mem_map]
  constructor
  · rintro ⟨token, present, rfl⟩
    obtain ⟨here, accepted⟩ := Option.mem_filter_iff.mp (Option.mem_toList.mp present)
    exact ⟨token, here, accepted, rfl⟩
  · rintro ⟨token, here, accepted, rfl⟩
    exact ⟨token, Option.mem_toList.mpr (Option.mem_filter_iff.mpr ⟨here, accepted⟩), rfl⟩

end Matcher

namespace Enumeration

theorem mem_inTurn_cons_iff (step : Nat → List Derivation) (later : List (Nat → List Derivation))
    (start : Nat) (taken : List Value × Nat) :
    taken ∈ inTurn (step :: later) start ↔
      ∃ first ∈ step start, ∃ rest ∈ inTurn later first.position,
        taken = (first.value :: rest.1, rest.2) := by
  simp only [inTurn, List.mem_flatMap, List.mem_map, eq_comm]

theorem mem_inTurn_pair_iff (first second : Nat → List Derivation) (start : Nat)
    (taken : List Value × Nat) :
    taken ∈ inTurn [first, second] start ↔
      ∃ one ∈ first start, ∃ two ∈ second one.position,
        taken = ([one.value, two.value], two.position) := by
  rw [mem_inTurn_cons_iff]
  constructor
  · rintro ⟨one, isOne, rest, inRest, rfl⟩
    obtain ⟨two, isTwo, none, isNone, rfl⟩ := (mem_inTurn_cons_iff ..).mp inRest
    rw [List.mem_singleton.mp isNone]
    exact ⟨one, isOne, two, isTwo, rfl⟩
  · rintro ⟨one, isOne, two, isTwo, rfl⟩
    have nothing : ([], two.position) ∈ inTurn [] two.position := List.mem_singleton_self _
    exact ⟨one, isOne, _, (mem_inTurn_cons_iff ..).mpr ⟨two, isTwo, _, nothing, rfl⟩, rfl⟩

private theorem single_mem_stepLists (tokens : List Token) (step : Nat → List Derivation)
    (most : Option Nat) (count start : Nat) (found : Derivation) (isStep : found ∈ step start) :
    ([found.value], found.position) ∈ stepLists tokens step most count start := by
  rw [stepLists]
  exact List.mem_flatMap.mpr ⟨found, isStep, List.mem_cons_self⟩

private theorem longer_mem_stepLists (tokens : List Token) (step : Nat → List Derivation)
    (most : Option Nat) (count start : Nat) (found : Derivation) (isStep : found ∈ step start)
    (extending : extendable tokens most (count + 1) start found.position = true)
    (rest : List Value × Nat)
    (inLater : rest ∈ stepLists tokens step most (count + 1) found.position) :
    (found.value :: rest.1, rest.2) ∈ stepLists tokens step most count start := by
  rw [stepLists]
  refine List.mem_flatMap.mpr ⟨found, isStep, List.mem_cons_of_mem _ ?_⟩
  rw [if_pos extending]
  exact List.mem_map.mpr ⟨rest, inLater, rfl⟩

theorem mem_repeated_once_iff (tokens : List Token) (step : Nat → List Derivation) (start : Nat)
    (taken : List Value × Nat) :
    taken ∈ repeated tokens step 1 none start ↔ taken ∈ stepLists tokens step none 0 start := by
  have someSteps : taken ∈ stepLists tokens step none 0 start → 1 ≤ taken.1.length := by
    intro member
    rw [stepLists] at member
    obtain ⟨found, _, inRest⟩ := List.mem_flatMap.mp member
    rcases List.mem_cons.mp inRest with rfl | inLonger
    · exact Nat.le_refl 1
    · split at inLonger
      · obtain ⟨rest, _, rfl⟩ := List.mem_map.mp inLonger
        exact Nat.succ_le_succ (Nat.zero_le _)
      · cases inLonger
  unfold repeated
  simp only [List.mem_reverse, List.mem_filter, List.mem_cons, decide_eq_true_eq]
  constructor
  · rintro ⟨rfl | inSteps, enough⟩
    · simp at enough
    · simpa using inSteps
  · intro inSteps
    exact ⟨Or.inr (by simpa using inSteps), someSteps inSteps⟩

end Enumeration

/-! ### Chains -/

/-- A chain of identifiers: parts, at least one of them, each an identifier and a joint, and one
more identifier at the end. Each part has a value, made of its identifier and of what its joint
spells. -/
inductive ChainOf (joint : List Token → Value → Prop) : List Token → List Value → Token → Prop
  | one {name last : Token} {joined : List Token} {value : Value}
      (isName : name.kind = .identifier) (joins : joint joined value)
      (isLast : last.kind = .identifier) :
      ChainOf joint (name :: (joined ++ [last])) [.list [.token name, value]] last
  | more {name last : Token} {joined rest : List Token} {value : Value} {values : List Value}
      (isName : name.kind = .identifier) (joins : joint joined value)
      (later : ChainOf joint rest values last) :
      ChainOf joint (name :: (joined ++ rest)) (.list [.token name, value] :: values) last

namespace Matcher

open Enumeration

def linked (joint : Matcher) : Matcher := sequence [ofKind .identifier, joint] none

variable {tokens : List Token} {joint : Matcher} {spelling : List Token → Value → Prop}

theorem mem_enumerate_linked_iff (spells : joint.Spells tokens spelling) (start : Nat)
    (found : Derivation) :
    found ∈ (linked joint).enumerate tokens start ↔
      ∃ name joined value, name.kind = .identifier ∧ spelling joined value ∧
        found.value = .list [.token name, value] ∧
        LiesAt tokens start (name :: joined) found.position := by
  unfold linked
  rw [enumerate, List.mem_map]
  constructor
  · rintro ⟨taken, inTurns, rfl⟩
    obtain ⟨first, isFirst, second, isSecond, rfl⟩ := (mem_inTurn_pair_iff ..).mp inTurns
    obtain ⟨name, here, accepted, rfl⟩ := (mem_enumerate_token_iff ..).mp isFirst
    obtain ⟨joined, joins, lies⟩ := (spells ..).mp isSecond
    exact ⟨name, joined, second.value, eq_of_beq accepted, joins, rfl, here, lies⟩
  · rintro ⟨name, joined, value, isName, joins, valued, here, lies⟩
    have first : ⟨.token name, start + 1⟩ ∈ (ofKind .identifier).enumerate tokens start :=
      (mem_enumerate_token_iff ..).mpr ⟨name, here, beq_iff_eq.mpr isName, rfl⟩
    have second : ⟨value, found.position⟩ ∈ joint.enumerate tokens (start + 1) :=
      (spells ..).mpr ⟨joined, joins, lies⟩
    refine ⟨_, (mem_inTurn_pair_iff ..).mpr ⟨_, first, _, second, rfl⟩, ?_⟩
    cases found
    exact congrArg (Derivation.mk · _) valued.symm

private theorem linked_advances (spells : joint.Spells tokens spelling) (start : Nat)
    (found : Derivation) (member : found ∈ (linked joint).enumerate tokens start) :
    start < found.position := by
  obtain ⟨name, joined, value, _, _, _, lies⟩ := (mem_enumerate_linked_iff spells ..).mp member
  have distance := ((liesAt_iff ..).mp lies).1
  rw [List.length_cons] at distance
  omega

private theorem mem_inTurn_last_iff (start : Nat) (taken : List Value × Nat) :
    taken ∈ inTurn [(ofKind .identifier).enumerate tokens, (finish none).enumerate tokens] start ↔
      ∃ last, tokens.drop start = [last] ∧ last.kind = .identifier ∧
        taken = ([.token last, .null], tokens.length) := by
  have ends (token : Token) : tokens[start]? = some token →
      (tokens.drop (start + 1) = [] ↔ start + 1 = tokens.length) := by
    intro here
    obtain ⟨inside, _⟩ := List.getElem?_eq_some_iff.mp here
    rw [List.drop_eq_nil_iff]
    omega
  rw [mem_inTurn_pair_iff]
  constructor
  · rintro ⟨first, isFirst, second, isSecond, rfl⟩
    obtain ⟨last, here, accepted, rfl⟩ := (mem_enumerate_token_iff ..).mp isFirst
    rw [enumerate] at isSecond
    split at isSecond
    · rename_i atEnd
      rw [List.mem_singleton.mp isSecond, ← atEnd]
      exact ⟨last, (drop_eq_cons_iff ..).mpr ⟨here, (ends last here).mpr atEnd⟩,
        eq_of_beq accepted, rfl⟩
    · cases isSecond
  · rintro ⟨last, split, isLast, rfl⟩
    obtain ⟨here, nothingBehind⟩ := (drop_eq_cons_iff ..).mp split
    have atEnd := (ends last here).mp nothingBehind
    have first : ⟨.token last, start + 1⟩ ∈ (ofKind .identifier).enumerate tokens start :=
      (mem_enumerate_token_iff ..).mpr ⟨last, here, beq_iff_eq.mpr isLast, rfl⟩
    have second : ⟨.null, tokens.length⟩ ∈ (finish none).enumerate tokens (start + 1) := by
      rw [enumerate, if_pos atEnd, atEnd]
      exact List.mem_singleton_self _
    exact ⟨_, first, _, second, rfl⟩

private theorem chainOf_of_mem_stepLists (spells : joint.Spells tokens spelling) (count start : Nat)
    (taken : List Value × Nat)
    (member : taken ∈ stepLists tokens ((linked joint).enumerate tokens) none count start)
    (last : Token) (isLast : last.kind = .identifier) (ends : tokens.drop taken.2 = [last]) :
    ChainOf spelling (tokens.drop start) taken.1 last := by
  fun_induction stepLists tokens ((linked joint).enumerate tokens) none count start generalizing
    taken with
  | case1 count start inductionHypothesis =>
      obtain ⟨found, isPart, inRest⟩ := List.mem_flatMap.mp member
      obtain ⟨name, joined, value, isName, joins, valued, lies⟩ :=
        (mem_enumerate_linked_iff spells ..).mp isPart
      rw [((liesAt_iff ..).mp lies).2]
      rcases List.mem_cons.mp inRest with rfl | inLonger
      · rw [ends, valued]
        exact .one isName joins isLast
      · split at inLonger
        · rename_i extending
          obtain ⟨rest, inLater, rfl⟩ := List.mem_map.mp inLonger
          have later := inductionHypothesis found extending rest inLater ends
          rw [valued]
          exact .more isName joins later
        · cases inLonger

private theorem linked_of_drop_eq (spells : joint.Spells tokens spelling) {name : Token}
    {joined rest : List Token} {value : Value} (isName : name.kind = .identifier)
    (joins : spelling joined value) (start : Nat)
    (here : tokens.drop start = name :: (joined ++ rest)) :
    ∃ stop, ⟨.list [.token name, value], stop⟩ ∈ (linked joint).enumerate tokens start ∧
      tokens.drop stop = rest ∧ start < stop ∧ start < tokens.length := by
  obtain ⟨lies, behind⟩ := liesAt_of_drop_eq_append tokens start (name :: joined) rest here
  have isPart := (mem_enumerate_linked_iff spells start ⟨.list [.token name, value], _⟩).mpr
    ⟨name, joined, value, isName, joins, rfl, lies⟩
  have inside : start < tokens.length := (List.getElem?_eq_some_iff.mp lies.1).1
  exact ⟨_, isPart, behind, linked_advances spells start _ isPart, inside⟩

private theorem mem_stepLists_of_chainOf (spells : joint.Spells tokens spelling) {word : List Token}
    {values : List Value} {last : Token} (chain : ChainOf spelling word values last)
    (count start : Nat) (here : tokens.drop start = word) :
    last.kind = .identifier ∧ ∃ stop, tokens.drop stop = [last] ∧
      (values, stop) ∈ stepLists tokens ((linked joint).enumerate tokens) none count start := by
  induction chain generalizing count start with
  | one isName joins isLast =>
      obtain ⟨stop, isPart, behind, _⟩ := linked_of_drop_eq spells isName joins start here
      exact ⟨isLast, stop, behind, single_mem_stepLists tokens _ none count start _ isPart⟩
  | more isName joins later inductionHypothesis =>
      obtain ⟨next, isPart, behind, further⟩ := linked_of_drop_eq spells isName joins start here
      obtain ⟨isLast, stop, ends, inLater⟩ := inductionHypothesis (count + 1) next behind
      have extending : extendable tokens none (count + 1) start next = true :=
        (extendable_none_iff ..).mpr further
      exact ⟨isLast, stop, ends,
        longer_mem_stepLists tokens _ none count start _ isPart extending _ inLater⟩

theorem mem_enumerate_parts_iff (start : Nat) (found : Derivation) :
    found ∈ (repetition (linked joint) 1 none none).enumerate tokens start ↔
      ∃ parts ∈ stepLists tokens ((linked joint).enumerate tokens) none 0 start,
        found = ⟨.list parts.1, parts.2⟩ := by
  rw [enumerate, List.mem_map]
  constructor
  · rintro ⟨parts, inParts, rfl⟩
    exact ⟨parts, (mem_repeated_once_iff ..).mp inParts, rfl⟩
  · rintro ⟨parts, inParts, rfl⟩
    exact ⟨parts, (mem_repeated_once_iff ..).mpr inParts, rfl⟩

theorem mem_enumerate_chain_iff (spells : joint.Spells tokens spelling) (start : Nat)
    (found : Derivation) :
    found ∈ (chain joint).enumerate tokens start ↔
      ∃ values last, ChainOf spelling (tokens.drop start) values last ∧
        found = ⟨.list [.list values, .token last, .null], tokens.length⟩ := by
  unfold chain
  rw [enumerate, List.mem_map]
  constructor
  · rintro ⟨taken, inTurns, rfl⟩
    obtain ⟨first, isFirst, rest, inRest, rfl⟩ := (mem_inTurn_cons_iff ..).mp inTurns
    obtain ⟨parts, inParts, rfl⟩ := (mem_enumerate_parts_iff ..).mp isFirst
    obtain ⟨last, ends, isLast, rfl⟩ := (mem_inTurn_last_iff ..).mp inRest
    exact ⟨parts.1, last, chainOf_of_mem_stepLists spells 0 start parts inParts last isLast ends,
      rfl⟩
  · rintro ⟨values, last, chain, rfl⟩
    obtain ⟨isLast, stop, ends, inSteps⟩ := mem_stepLists_of_chainOf spells chain 0 start rfl
    have first : ⟨.list values, stop⟩ ∈
        (repetition (linked joint) 1 none none).enumerate tokens start :=
      (mem_enumerate_parts_iff ..).mpr ⟨_, inSteps, rfl⟩
    have rest := (mem_inTurn_last_iff stop ([.token last, .null], tokens.length)).mpr
      ⟨last, ends, isLast, rfl⟩
    exact ⟨_, (mem_inTurn_cons_iff ..).mpr ⟨_, first, _, rest, rfl⟩, rfl⟩

private theorem deterministic_linked (deterministic : joint.Deterministic tokens) :
    (linked joint).Deterministic tokens := by
  apply deterministic_sequence
  intro item isItem
  rcases List.mem_cons.mp isItem with rfl | isLast
  · exact deterministic_token tokens _ none
  · rwa [List.mem_singleton.mp isLast]

private theorem pairwise_parts (spells : joint.Spells tokens spelling)
    (deterministic : joint.Deterministic tokens) (start : Nat) :
    ((repetition (linked joint) 1 none none).enumerate tokens start).Pairwise
      (fun left right => left.position ≠ right.position) := by
  rw [enumerate]
  apply List.pairwise_map.mpr
  have descending := pairwise_repeated tokens ((linked joint).enumerate tokens) 1 none
    (deterministic_linked deterministic) (linked_advances spells) start
  exact descending.imp (fun before => Nat.ne_of_gt before)

theorem deterministic_chain (spells : joint.Spells tokens spelling)
    (deterministic : joint.Deterministic tokens) : (chain joint).Deterministic tokens := by
  intro start
  unfold chain
  rw [enumerate, List.length_map, List.map_cons, inTurn]
  -- Lists of parts end at different positions, and only one of them is a token before the end.
  apply length_flatMap_le_one _ _ Derivation.position (tokens.length - 1)
    (pairwise_parts spells deterministic start)
  · intro parts _
    rw [List.length_map]
    apply length_inTurn_le_one
    intro step isStep
    obtain ⟨item, isItem, rfl⟩ := List.mem_map.mp isStep
    rcases List.mem_cons.mp isItem with rfl | isFinish
    · exact deterministic_token tokens _ none
    · rw [List.mem_singleton.mp isFinish]
      exact deterministic_finish tokens none
  · intro parts _ something
    obtain ⟨_, member⟩ := List.exists_mem_of_ne_nil _ something
    obtain ⟨taken, inTurns, _⟩ := List.mem_map.mp member
    obtain ⟨last, ends, _, _⟩ := (mem_inTurn_last_iff ..).mp inTurns
    have oneLeft := congrArg List.length ends
    rw [List.length_drop, List.length_singleton] at oneLeft
    omega

theorem chain_gives_one (spells : joint.Spells tokens spelling)
    (deterministic : joint.Deterministic tokens) {start : Nat} {values : List Value} {last : Token}
    (here : ChainOf spelling (tokens.drop start) values last) :
    (chain joint).enumerate tokens start =
      [⟨.list [.list values, .token last, .null], tokens.length⟩] := by
  have member := (mem_enumerate_chain_iff spells start _).mpr ⟨values, last, here, rfl⟩
  rcases nil_or_singleton_of_length_le_one _ (deterministic_chain spells deterministic start) with
    nothing | ⟨only, single⟩
  · rw [nothing] at member
    cases member
  · rw [single, List.mem_singleton] at member
    rw [single, member]

theorem chain_gives_none (spells : joint.Spells tokens spelling) {start : Nat}
    (nowhere : ∀ values last, ¬ ChainOf spelling (tokens.drop start) values last) :
    (chain joint).enumerate tokens start = [] := by
  apply List.eq_nil_iff_forall_not_mem.mpr
  intro found member
  obtain ⟨values, last, here, _⟩ := (mem_enumerate_chain_iff spells start found).mp member
  exact nowhere values last here

end Matcher

/-! ### The joints of the ready-made grammars -/

theorem Token.isOperator_iff (token : Token) (text : String) :
    token.isOperator text = true ↔ token.kind = .operator ∧ token.text = text := by
  rw [isOperator, Bool.and_eq_true, beq_iff_eq, beq_iff_eq]

/-- What joins two identifiers: the operators `/`, `+`, `/`, or the one operator `+`. -/
inductive OperatorJoint : List Token → Value → Prop
  | slashed {first plus second : Token} (opens : first.isOperator "/" = true)
      (joins : plus.isOperator "+" = true) (closes : second.isOperator "/" = true) :
      OperatorJoint [first, plus, second] (.list [.token first, .token plus, .token second])
  | plus {token : Token} (joins : token.isOperator "+" = true) :
      OperatorJoint [token] (.token token)

namespace Matcher

open Enumeration

variable {tokens : List Token}

/-- Leaves in turn spell the words whose tokens they accept one by one. -/
theorem mem_inTurn_tokens_iff (tests : List TokenTest) (start : Nat) (taken : List Value × Nat) :
    taken ∈ inTurn (tests.map (fun test => (token test none).enumerate tokens)) start ↔
      ∃ word, List.Forall₂ (fun test token => test.accepts token = true) tests word ∧
        taken.1 = word.map Value.token ∧ LiesAt tokens start word taken.2 := by
  induction tests generalizing start taken with
  | nil =>
      constructor
      · intro inTurns
        rw [List.mem_singleton.mp inTurns]
        exact ⟨[], .nil, rfl, rfl⟩
      · rintro ⟨_, ⟨⟩, valued, stopped⟩
        exact List.mem_singleton.mpr (Prod.ext valued stopped)
  | cons test later inductionHypothesis =>
      rw [List.map_cons, mem_inTurn_cons_iff]
      constructor
      · rintro ⟨first, isFirst, rest, inRest, rfl⟩
        obtain ⟨token, here, accepted, rfl⟩ := (mem_enumerate_token_iff ..).mp isFirst
        obtain ⟨word, accept, valued, lies⟩ := (inductionHypothesis ..).mp inRest
        exact ⟨token :: word, .cons accepted accept, congrArg (_ :: ·) valued, here, lies⟩
      · rintro ⟨_, allAccept, valued, lies⟩
        cases allAccept with
        | @cons _ token _ word accepted accept =>
            have first : ⟨.token token, start + 1⟩ ∈ (Matcher.token test none).enumerate tokens start :=
              (mem_enumerate_token_iff ..).mpr ⟨token, lies.1, accepted, rfl⟩
            have rest := (inductionHypothesis (start + 1) (word.map Value.token, taken.2)).mpr
              ⟨word, accept, rfl, lies.2⟩
            exact ⟨_, first, _, rest, Prod.ext valued rfl⟩

def operatorJoint : Matcher :=
  alternation
    [sequence [operatorText "/", operatorText "+", operatorText "/"] none, operatorText "+"] none

theorem mem_enumerate_slashed_iff (start : Nat) (found : Derivation) :
    found ∈ (sequence [operatorText "/", operatorText "+", operatorText "/"] none).enumerate
        tokens start ↔
      ∃ first plus second, first.isOperator "/" = true ∧ plus.isOperator "+" = true ∧
        second.isOperator "/" = true ∧
        found.value = .list [.token first, .token plus, .token second] ∧
        LiesAt tokens start [first, plus, second] found.position := by
  have inTurns (taken : List Value × Nat) := @mem_inTurn_tokens_iff tokens
    [.kindText .operator "/", .kindText .operator "+", .kindText .operator "/"] start taken
  rw [enumerate, List.mem_map]
  constructor
  · rintro ⟨taken, member, rfl⟩
    obtain ⟨word, accept, valued, lies⟩ := (inTurns taken).mp member
    simp only [List.forall₂_cons_left_iff, List.forall₂_nil_left_iff] at accept
    obtain ⟨first, _, opens, ⟨plus, _, joins, ⟨second, _, closes, rfl, rfl⟩, rfl⟩, rfl⟩ := accept
    exact ⟨first, plus, second, opens, joins, closes, congrArg Value.list valued, lies⟩
  · rintro ⟨first, plus, second, opens, joins, closes, valued, lies⟩
    have member := (inTurns ([.token first, .token plus, .token second], found.position)).mpr
      ⟨_, .cons opens (.cons joins (.cons closes .nil)), rfl, lies⟩
    refine ⟨_, member, ?_⟩
    cases found
    exact congrArg (Derivation.mk · _) valued.symm

theorem spells_operatorJoint : operatorJoint.Spells tokens OperatorJoint := by
  intro start found
  unfold operatorJoint
  rw [enumerate, List.mem_map]
  constructor
  · rintro ⟨inner, isInner, rfl⟩
    obtain ⟨branch, isBranch, inBranch⟩ := List.mem_flatMap.mp isInner
    rcases List.mem_cons.mp isBranch with rfl | isPlus
    · obtain ⟨first, plus, second, opens, joins, closes, valued, lies⟩ :=
        (mem_enumerate_slashed_iff ..).mp inBranch
      exact ⟨[first, plus, second], valued ▸ .slashed opens joins closes, lies⟩
    · rw [List.mem_singleton.mp isPlus] at inBranch
      obtain ⟨token, here, joins, rfl⟩ := (mem_enumerate_token_iff ..).mp inBranch
      exact ⟨[token], .plus joins, here, rfl⟩
  · rintro ⟨word, joint, lies⟩
    refine ⟨found, List.mem_flatMap.mpr ?_, rfl⟩
    cases found with
    | mk value stop =>
    cases joint with
    | @slashed first plus second opens joins closes =>
        exact ⟨_, List.mem_cons_self, (mem_enumerate_slashed_iff ..).mpr
          ⟨first, plus, second, opens, joins, closes, rfl, lies⟩⟩
    | @plus token joins =>
        exact ⟨_, List.mem_cons_of_mem _ (List.mem_singleton_self _),
          (mem_enumerate_token_iff ..).mpr ⟨token, lies.1, joins, congrArg _ lies.2⟩⟩

theorem deterministic_operatorJoint : operatorJoint.Deterministic tokens := by
  apply deterministic_alternation
  · apply deterministic_sequence
    intro item isItem
    obtain ⟨text, _, rfl⟩ : ∃ text ∈ ["/", "+", "/"], operatorText text = item :=
      List.mem_map.mp isItem
    exact deterministic_token tokens _ none
  · exact deterministic_token tokens _ none
  · -- the two branches begin with different operators
    intro start found isSlashed other isPlus
    obtain ⟨first, _, _, opens, _, _, _, here, _⟩ := (mem_enumerate_slashed_iff ..).mp isSlashed
    obtain ⟨token, sameHere, joins, _⟩ := (mem_enumerate_token_iff ..).mp isPlus
    rw [here, Option.some.injEq] at sameHere
    rw [Token.isOperator_iff] at opens
    change token.isOperator "+" = true at joins
    rw [← sameHere, Token.isOperator_iff, opens.2] at joins
    exact absurd joins.2 (by decide)

theorem operatorChain_gives_one {start : Nat} {values : List Value} {last : Token}
    (here : ChainOf OperatorJoint (tokens.drop start) values last) :
    operatorChain.enumerate tokens start =
      [⟨.list [.list values, .token last, .null], tokens.length⟩] :=
  chain_gives_one spells_operatorJoint deterministic_operatorJoint here

theorem operatorChain_gives_none {start : Nat}
    (nowhere : ∀ values last, ¬ ChainOf OperatorJoint (tokens.drop start) values last) :
    operatorChain.enumerate tokens start = [] :=
  chain_gives_none spells_operatorJoint nowhere

end Matcher

end TokenGrammar
