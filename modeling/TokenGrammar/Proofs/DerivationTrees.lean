import Mathlib.Data.List.ProdSigma
import Mathlib.Data.Set.Card
import TokenGrammar.Proofs.Derivations

set_option autoImplicit false

/-! Derivation trees: what it means for a grammar tree to match, said without any order of
searching. A tree is typed by its matcher and by the positions where it starts and stops, so a
tree that does not fit the tokens cannot be written down. The main statement counts: the search
yields a value and a position as many times as there are trees with that value and that end. -/

namespace TokenGrammar

mutual

/-- A derivation tree of a matcher over the tokens, from one position to another. -/
inductive DerivationTree (tokens : List Token) : Matcher → Nat → Nat → Type
  | token (test : TokenTest) (transform : Option Transform) (position : Nat) (token : Token)
      (present : tokens[position]? = some token) (accepted : test.accepts token = true) :
      DerivationTree tokens (.token test transform) position (position + 1)
  | finish (transform : Option Transform) :
      DerivationTree tokens (.finish transform) tokens.length tokens.length
  | alternation {branches : List Matcher} (transform : Option Transform) {start stop : Nat}
      (index : Fin branches.length) (tree : DerivationTree tokens (branches.get index) start stop) :
      DerivationTree tokens (.alternation branches transform) start stop
  | sequence {items : List Matcher} (transform : Option Transform) {start stop : Nat}
      (trees : DerivationChain tokens items start stop) :
      DerivationTree tokens (.sequence items transform) start stop
  | repetition {item : Matcher} {least : Nat} {most : Option Nat} (transform : Option Transform)
      {start stop : Nat} (count : Nat)
      (steps : DerivationSteps tokens item most.isNone count start stop)
      (enough : least ≤ count) (allowed : ∀ bound ∈ most, count ≤ bound) :
      DerivationTree tokens (.repetition item least most transform) start stop

/-- Trees of the matchers of a list, each from where the one before it stops. -/
inductive DerivationChain (tokens : List Token) : List Matcher → Nat → Nat → Type
  | nil (position : Nat) : DerivationChain tokens [] position position
  | cons {item : Matcher} {later : List Matcher} {start middle stop : Nat}
      (first : DerivationTree tokens item start middle)
      (rest : DerivationChain tokens later middle stop) :
      DerivationChain tokens (item :: later) start stop

/-- A number of trees of one matcher, each from where the one before it stops. If the steps must
advance, each of them but the last stops after the position where it starts. -/
inductive DerivationSteps (tokens : List Token) : Matcher → Bool → Nat → Nat → Nat → Type
  | nil (item : Matcher) (advancing : Bool) (position : Nat) :
      DerivationSteps tokens item advancing 0 position position
  | cons {item : Matcher} {advancing : Bool} {count start middle stop : Nat}
      (first : DerivationTree tokens item start middle)
      (rest : DerivationSteps tokens item advancing count middle stop)
      (advances : advancing = true → count ≠ 0 → start < middle) :
      DerivationSteps tokens item advancing (count + 1) start stop

end

mutual

/-- The value of a derivation: each node applies its transform to what it consists of. -/
def DerivationTree.value {tokens : List Token} {matcher : Matcher} {start stop : Nat}
    (tree : DerivationTree tokens matcher start stop) : Value :=
  matcher.applyTransform (match tree with
    | .token _ _ _ token _ _ => .token token
    | .finish _ => .null
    | .alternation _ _ branch => branch.value
    | .sequence _ trees => .list trees.values
    | .repetition _ _ steps _ _ => .list steps.values)

def DerivationChain.values {tokens : List Token} {items : List Matcher} {start stop : Nat} :
    DerivationChain tokens items start stop → List Value
  | .nil _ => []
  | .cons first rest => first.value :: rest.values

def DerivationSteps.values {tokens : List Token} {item : Matcher} {advancing : Bool}
    {count start stop : Nat} : DerivationSteps tokens item advancing count start stop → List Value
  | .nil _ _ _ => []
  | .cons first rest _ => first.value :: rest.values

end

theorem DerivationSteps.length_values {tokens : List Token} {item : Matcher} {advancing : Bool}
    {count start stop : Nat} (steps : DerivationSteps tokens item advancing count start stop) :
    steps.values.length = count := by
  induction count generalizing start with
  | zero =>
      cases steps
      rw [values]
      rfl
  | succ count inductionHypothesis =>
      cases steps with
      | cons first rest advances => rw [values, List.length_cons, inductionHypothesis rest]

/-! ### Lists that hold every item once -/

/-- The list shows, through the view, each item that fits and no other, and each of them once. -/
def Shows {α β : Type} (fits : α → Prop) (view : α → β) (shown : List β) : Prop :=
  ∃ items : List α, items.Nodup ∧ (∀ item, item ∈ items ↔ fits item) ∧ items.map view = shown

namespace Shows

variable {α β γ : Type} {fits : α → Prop} {view : α → β} {shown : List β}

theorem congr (shows : Shows fits view shown) {other : α → Prop}
    (same : ∀ item, fits item ↔ other item) : Shows other view shown := by
  obtain ⟨items, nodup, complete, viewed⟩ := shows
  exact ⟨items, nodup, fun item => (complete item).trans (same item), viewed⟩

theorem mem_iff (shows : Shows fits view shown) {label : β} :
    label ∈ shown ↔ ∃ item, fits item ∧ view item = label := by
  obtain ⟨items, nodup, complete, rfl⟩ := shows
  simp only [List.mem_map, complete]

theorem nothing (noneFits : ∀ item, ¬ fits item) : Shows fits view [] := by
  refine ⟨[], List.nodup_nil, ?_, rfl⟩
  intro item
  simp [noneFits item]

theorem single (item : α) (view : α → β) : Shows (· = item) view [view item] := by
  refine ⟨[item], List.nodup_singleton item, ?_, rfl⟩
  intro other
  exact List.mem_singleton

theorem append {others : α → Prop} {later : List β} (first : Shows fits view shown)
    (second : Shows others view later) (apart : ∀ item, fits item → ¬ others item) :
    Shows (fun item => fits item ∨ others item) view (shown ++ later) := by
  obtain ⟨items, nodup, complete, viewed⟩ := first
  obtain ⟨laterItems, laterNodup, laterComplete, laterViewed⟩ := second
  refine ⟨items ++ laterItems, ?_, ?_, ?_⟩
  · rw [List.nodup_append']
    refine ⟨nodup, laterNodup, ?_⟩
    intro item inFirst inSecond
    exact apart item ((complete item).mp inFirst) ((laterComplete item).mp inSecond)
  · intro item
    rw [List.mem_append, complete, laterComplete]
  · rw [List.map_append, viewed, laterViewed]

theorem reverse (shows : Shows fits view shown) : Shows fits view shown.reverse := by
  obtain ⟨items, nodup, complete, viewed⟩ := shows
  refine ⟨items.reverse, List.nodup_reverse.mpr nodup, ?_, ?_⟩
  · intro item
    rw [List.mem_reverse, complete]
  · rw [List.map_reverse, viewed]

theorem filter (shows : Shows fits view shown) (keep : β → Bool) :
    Shows (fun item => fits item ∧ keep (view item) = true) view (shown.filter keep) := by
  obtain ⟨items, nodup, complete, rfl⟩ := shows
  refine ⟨items.filter (fun item => keep (view item)), nodup.filter _, ?_, ?_⟩
  · intro item
    rw [List.mem_filter, complete]
  · rw [List.filter_map]
    rfl

theorem relabel (shows : Shows fits view shown) (label : β → γ) :
    Shows fits (fun item => label (view item)) (shown.map label) := by
  obtain ⟨items, nodup, complete, rfl⟩ := shows
  exact ⟨items, nodup, complete, List.map_map.symm⟩

/-- Things built from the items, one from each, are shown in the place of the items. -/
theorem build {built : γ → Prop} {other : γ → β} (shows : Shows fits view shown)
    (make : ∀ item, fits item → γ)
    (complete : ∀ result, built result ↔ ∃ item itemFits, make item itemFits = result)
    (same : ∀ item itemFits, other (make item itemFits) = view item)
    (distinct : ∀ left right leftFits rightFits,
      make left leftFits = make right rightFits → left = right) : Shows built other shown := by
  obtain ⟨items, nodup, listed, rfl⟩ := shows
  have allFit : ∀ item ∈ items, fits item := fun item member => (listed item).mp member
  refine ⟨items.pmap make allFit, ?_, ?_, ?_⟩
  · exact nodup.pmap (fun left leftFits right rightFits => distinct left right leftFits rightFits)
  · intro result
    rw [List.mem_pmap, complete]
    constructor
    · intro listed
      rcases listed with ⟨item, member, made⟩
      exact ⟨item, allFit item member, made⟩
    · intro listed
      rcases listed with ⟨item, itemFits, made⟩
      exact ⟨item, (listed item).mpr itemFits, made⟩
  · rw [List.map_pmap]
    simp only [same]
    exact List.pmap_eq_map allFit

private theorem pairs {δ : Type} {σ : α → Type} (shows : Shows fits view shown)
    (partFits : ∀ item, σ item → Prop) (partView : ∀ item, σ item → δ) (parts : β → List δ)
    (each : ∀ item, fits item → Shows (partFits item) (partView item) (parts (view item))) :
    Shows (fun pair : Sigma σ => fits pair.1 ∧ partFits pair.1 pair.2)
      (fun pair => partView pair.1 pair.2) (shown.flatMap parts) := by
  obtain ⟨items, nodup, listed, rfl⟩ := shows
  have choice : ∀ item, ∃ inner : List (σ item), inner.Nodup ∧ (fits item →
      (∀ part, part ∈ inner ↔ partFits item part) ∧
        inner.map (partView item) = parts (view item)) := by
    intro item
    by_cases itemFits : fits item
    · obtain ⟨inner, innerNodup, complete, viewed⟩ := each item itemFits
      exact ⟨inner, innerNodup, fun _ => ⟨complete, viewed⟩⟩
    · exact ⟨[], List.nodup_nil, fun fitting => absurd fitting itemFits⟩
  choose inner innerNodup innerSpec using choice
  refine ⟨items.sigma inner, nodup.sigma innerNodup, ?_, ?_⟩
  · intro pair
    rcases pair with ⟨item, part⟩
    rw [List.mem_sigma, listed]
    constructor
    · intro both
      rcases both with ⟨itemFits, member⟩
      exact ⟨itemFits, ((innerSpec item itemFits).1 part).mp member⟩
    · intro both
      rcases both with ⟨itemFits, isPart⟩
      exact ⟨itemFits, ((innerSpec item itemFits).1 part).mpr isPart⟩
  · rw [List.sigma, List.map_flatMap, List.flatMap_map]
    apply List.flatMap_congr
    intro item member
    rw [List.map_map]
    exact (innerSpec item ((listed item).mp member)).2

end Shows

/-! ### The enumeration shows every tree once -/

/-- The trees of a matcher from a position, wherever they stop. -/
structure TreeFrom (tokens : List Token) (matcher : Matcher) (start : Nat) where
  stop : Nat
  tree : DerivationTree tokens matcher start stop

def TreeFrom.derivation {tokens : List Token} {matcher : Matcher} {start : Nat}
    (rooted : TreeFrom tokens matcher start) : Derivation :=
  ⟨rooted.tree.value, rooted.stop⟩

structure ChainFrom (tokens : List Token) (items : List Matcher) (start : Nat) where
  stop : Nat
  trees : DerivationChain tokens items start stop

structure StepsFrom (tokens : List Token) (item : Matcher) (advancing : Bool) (start : Nat) where
  count : Nat
  stop : Nat
  steps : DerivationSteps tokens item advancing count start stop

open Enumeration

def ShowsTrees (tokens : List Token) (matcher : Matcher) : Prop :=
  ∀ start, Shows (fun _ : TreeFrom tokens matcher start => True) TreeFrom.derivation
    (matcher.enumerate tokens start)

private theorem shows_token (tokens : List Token) (test : TokenTest)
    (transform : Option Transform) :
    ShowsTrees tokens (.token test transform) := by
  intro start
  rw [Matcher.enumerate]
  cases present : tokens[start]?.filter test.accepts with
  | none =>
      apply Shows.nothing
      intro rooted _
      rcases rooted with ⟨stop, tree⟩
      cases tree with
      | token _ _ _ token found accepted => simp [found, Option.filter_some, accepted] at present
  | some token =>
      have found : tokens[start]? = some token ∧ test.accepts token = true :=
        Option.filter_eq_some_iff.mp present
      refine (Shows.single (⟨start + 1, .token test transform start token found.1 found.2⟩ :
        TreeFrom tokens (.token test transform) start) TreeFrom.derivation).congr ?_
      intro rooted
      rcases rooted with ⟨stop, tree⟩
      cases tree with
      | token _ _ _ other otherFound accepted =>
          have same : other = token := Option.some.inj (otherFound.symm.trans found.1)
          subst same
          simp

private theorem shows_finish (tokens : List Token) (transform : Option Transform) :
    ShowsTrees tokens (.finish transform) := by
  intro start
  rw [Matcher.enumerate]
  split
  · rename_i atEnd
    subst atEnd
    refine (Shows.single (⟨tokens.length, .finish transform⟩ :
      TreeFrom tokens (.finish transform) tokens.length) TreeFrom.derivation).congr ?_
    intro rooted
    rcases rooted with ⟨stop, tree⟩
    cases tree
    simp
  · rename_i notAtEnd
    apply Shows.nothing
    intro rooted _
    rcases rooted with ⟨stop, tree⟩
    cases tree
    exact notAtEnd rfl

private theorem shows_alternation (tokens : List Token) (branches : List Matcher)
    (transform : Option Transform) (each : ∀ branch ∈ branches, ShowsTrees tokens branch) :
    ShowsTrees tokens (.alternation branches transform) := by
  intro start
  rw [Matcher.enumerate]
  have indices : Shows (fun _ : Fin branches.length => True) branches.get branches :=
    ⟨List.finRange branches.length, List.nodup_finRange _, by simp, List.map_get_finRange branches⟩
  have chosen := indices.pairs (fun _ _ => True) (fun _ => TreeFrom.derivation)
    (fun branch => branch.enumerate tokens start)
    (fun index _ => each (branches.get index) (List.get_mem ..) start)
  refine Shows.build (Shows.relabel chosen _)
    (fun pair _ => ⟨pair.2.stop, .alternation transform pair.1 pair.2.tree⟩) ?_ ?_ ?_
  · intro rooted
    rcases rooted with ⟨stop, tree⟩
    cases tree with
    | alternation _ index tree => exact iff_of_true trivial ⟨⟨index, stop, tree⟩, by simp, rfl⟩
  · intro pair _
    rcases pair with ⟨index, stop, tree⟩
    simp only [TreeFrom.derivation, DerivationTree.value]
  · intro left right _ _ same
    rcases left with ⟨left, leftStop, leftTree⟩
    rcases right with ⟨right, rightStop, rightTree⟩
    cases same
    rfl

private theorem shows_chains (tokens : List Token) (items : List Matcher)
    (each : ∀ item ∈ items, ShowsTrees tokens item) (start : Nat) :
    Shows (fun _ : ChainFrom tokens items start => True)
      (fun chain => (chain.trees.values, chain.stop))
      (inTurn (items.map (fun item => item.enumerate tokens)) start) := by
  induction items generalizing start with
  | nil =>
      refine (Shows.single (⟨start, .nil start⟩ : ChainFrom tokens [] start)
        (fun chain => (chain.trees.values, chain.stop))).congr ?_
      intro chain
      rcases chain with ⟨stop, trees⟩
      cases trees
      simp
  | cons item later inductionHypothesis =>
      have first := each item List.mem_cons_self start
      have rest := inductionHypothesis
        (fun other member => each other (List.mem_cons_of_mem item member))
      rw [List.map_cons, inTurn]
      refine Shows.build
        (Shows.pairs first (fun rooted (_ : ChainFrom tokens later rooted.stop) => True)
          (fun rooted chain => (rooted.tree.value :: chain.trees.values, chain.stop)) _ ?_)
        (fun pair _ => ⟨pair.2.stop, .cons pair.1.tree pair.2.trees⟩) ?_ ?_ ?_
      · intro rooted _
        exact (rest rooted.stop).relabel (fun taken => (rooted.tree.value :: taken.1, taken.2))
      · intro chain
        rcases chain with ⟨stop, trees⟩
        cases trees with
        | cons tree trees => exact iff_of_true trivial ⟨⟨⟨_, tree⟩, ⟨stop, trees⟩⟩, by simp, rfl⟩
      · intro pair _
        rcases pair with ⟨⟨middle, tree⟩, ⟨stop, trees⟩⟩
        simp only [DerivationChain.values]
      · intro left right _ _ same
        rcases left with ⟨⟨leftMiddle, leftTree⟩, ⟨leftStop, leftTrees⟩⟩
        rcases right with ⟨⟨rightMiddle, rightTree⟩, ⟨rightStop, rightTrees⟩⟩
        cases same
        rfl

private theorem shows_sequence (tokens : List Token) (items : List Matcher)
    (transform : Option Transform) (each : ∀ item ∈ items, ShowsTrees tokens item) :
    ShowsTrees tokens (.sequence items transform) := by
  intro start
  rw [Matcher.enumerate]
  refine Shows.build (Shows.relabel (shows_chains tokens items each start) _)
    (fun chain _ => ⟨chain.stop, .sequence transform chain.trees⟩) ?_ ?_ ?_
  · intro rooted
    rcases rooted with ⟨stop, tree⟩
    cases tree with
    | sequence _ trees => exact iff_of_true trivial ⟨⟨stop, trees⟩, trivial, rfl⟩
  · intro chain _
    rcases chain with ⟨stop, trees⟩
    simp only [TreeFrom.derivation, DerivationTree.value]
  · intro left right _ _ same
    rcases left with ⟨leftStop, leftTrees⟩
    rcases right with ⟨rightStop, rightTrees⟩
    cases same
    rfl

theorem TreeFrom.inReach {tokens : List Token} {matcher : Matcher} {start : Nat}
    (rooted : TreeFrom tokens matcher start) (shows : ShowsTrees tokens matcher) :
    InReach tokens start rooted.stop :=
  matcher.enumerate_staysInReach tokens start rooted.derivation
    ((shows start).mem_iff.mpr ⟨rooted, trivial, rfl⟩)

def WithinBound (most : Option Nat) (count : Nat) : Prop := ∀ bound ∈ most, count ≤ bound

private theorem withinBound_of_extendable {tokens : List Token} {most : Option Nat}
    {count start stop : Nat} (extending : extendable tokens most count start stop = true) :
    WithinBound most (count + 1) := by
  intro bound isBound
  rw [Option.mem_def.mp isBound, extendable_some_iff] at extending
  omega

private theorem followed_iff_extendable (tokens : List Token) (most : Option Nat)
    (count start stop following : Nat) (reach : InReach tokens start stop)
    (someFollow : following ≠ 0) :
    (most.isNone = true → start < stop) ∧ WithinBound most (count + following) ↔
      extendable tokens most count start stop = true ∧ WithinBound most (count + following) := by
  unfold WithinBound
  unfold InReach at reach
  cases most with
  | some bound =>
      simp only [Option.isNone_some, Bool.false_eq_true, false_implies, true_and,
        Option.mem_some_iff, forall_eq', extendable_some_iff]
      omega
  | none =>
      simp only [Option.isNone_none, forall_const, Option.not_mem_none, false_implies,
        and_true, extendable_none_iff]
      omega

/-- What may follow a step: nothing, or if the step is extended, the steps that extend it. -/
theorem shows_following (tokens : List Token) (item : Matcher) (most : Option Nat)
    (count start stop : Nat) (value : Value) (reach : InReach tokens start stop)
    (room : WithinBound most count)
    (longer : extendable tokens most count start stop = true →
      Shows (fun taken : StepsFrom tokens item most.isNone stop =>
          taken.count ≠ 0 ∧ WithinBound most (count + taken.count))
        (fun taken => (taken.steps.values, taken.stop))
        (stepLists tokens (item.enumerate tokens) most count stop)) :
    Shows (fun rest : StepsFrom tokens item most.isNone stop =>
        (most.isNone = true → rest.count ≠ 0 → start < stop) ∧
          WithinBound most (count + rest.count))
      (fun rest => (value :: rest.steps.values, rest.stop))
      (([value], stop) ::
        if extendable tokens most count start stop then
          (stepLists tokens (item.enumerate tokens) most count stop).map
            (fun taken => (value :: taken.1, taken.2))
        else []) := by
  have nothingFollows := Shows.single
    (⟨0, stop, .nil item most.isNone stop⟩ : StepsFrom tokens item most.isNone stop)
    (fun rest => (value :: rest.steps.values, rest.stop))
  have somethingFollows : Shows (fun rest : StepsFrom tokens item most.isNone stop =>
        extendable tokens most count start stop = true ∧
          rest.count ≠ 0 ∧ WithinBound most (count + rest.count))
      (fun rest => (value :: rest.steps.values, rest.stop))
      (if extendable tokens most count start stop then
        (stepLists tokens (item.enumerate tokens) most count stop).map
          (fun taken => (value :: taken.1, taken.2))
      else []) := by
    split
    · rename_i extending
      refine ((longer extending).relabel (fun taken => (value :: taken.1, taken.2))).congr ?_
      intro rest
      rw [and_iff_right extending]
    · rename_i ending
      exact Shows.nothing (fun rest fits => ending fits.1)
  refine (nothingFollows.append somethingFollows ?_).congr ?_
  · intro rest empty fits
    subst empty
    exact fits.2.1 rfl
  · intro rest
    rcases rest with ⟨following, end_, steps⟩
    cases steps with
    | nil => simp [room]
    | @cons _ _ more _ _ _ tree rest advances =>
        have followed := followed_iff_extendable tokens most count start stop (more + 1) reach
          (Nat.succ_ne_zero more)
        simpa using followed.symm

private theorem shows_stepLists (tokens : List Token) (item : Matcher) (most : Option Nat)
    (itemShows : ShowsTrees tokens item) (count start : Nat)
    (room : WithinBound most (count + 1)) :
    Shows (fun taken : StepsFrom tokens item most.isNone start =>
        taken.count ≠ 0 ∧ WithinBound most (count + taken.count))
      (fun taken => (taken.steps.values, taken.stop))
      (stepLists tokens (item.enumerate tokens) most count start) := by
  fun_induction stepLists tokens (item.enumerate tokens) most count start with
  | case1 count start inductionHypothesis =>
      -- a non-empty list of steps is its first tree together with what may follow that tree
      refine Shows.build
        (Shows.pairs (itemShows start)
          (fun rooted (rest : StepsFrom tokens item most.isNone rooted.stop) =>
            (most.isNone = true → rest.count ≠ 0 → start < rooted.stop) ∧
              WithinBound most (count + 1 + rest.count))
          (fun rooted rest => (rooted.tree.value :: rest.steps.values, rest.stop)) _ ?_)
        (fun pair fits => ⟨pair.2.count + 1, pair.2.stop,
          .cons pair.1.tree pair.2.steps fits.2.1⟩) ?_ ?_ ?_
      · intro rooted _
        apply shows_following tokens item most (count + 1) start rooted.stop rooted.tree.value
          (rooted.inReach itemShows) room
        intro extending
        exact inductionHypothesis rooted.derivation extending (withinBound_of_extendable extending)
      · intro taken
        rcases taken with ⟨total, stop, steps⟩
        cases steps with
        | nil => simp
        | @cons _ _ later _ middle _ tree rest advances =>
            have shifted : count + 1 + later = count + (later + 1) := by omega
            constructor
            · intro fits
              rcases fits with ⟨_, bounded⟩
              exact ⟨⟨⟨middle, tree⟩, ⟨later, stop, rest⟩⟩,
                ⟨trivial, advances, shifted ▸ bounded⟩, rfl⟩
            · intro made
              rcases made with ⟨⟨⟨_, _⟩, ⟨_, _, _⟩⟩, ⟨_, _, bounded⟩, same⟩
              cases same
              exact ⟨Nat.succ_ne_zero _, shifted ▸ bounded⟩
      · intro pair _
        rcases pair with ⟨⟨middle, tree⟩, ⟨later, stop, rest⟩⟩
        simp only [DerivationSteps.values]
      · intro left right _ _ same
        rcases left with ⟨⟨leftMiddle, leftTree⟩, ⟨leftCount, leftStop, leftRest⟩⟩
        rcases right with ⟨⟨rightMiddle, rightTree⟩, ⟨rightCount, rightStop, rightRest⟩⟩
        cases same
        rfl

private theorem shows_repeated (tokens : List Token) (item : Matcher) (least : Nat)
    (most : Option Nat) (itemShows : ShowsTrees tokens item) (start : Nat) :
    Shows (fun taken : StepsFrom tokens item most.isNone start =>
        WithinBound most taken.count ∧ least ≤ taken.count)
      (fun taken => (taken.steps.values, taken.stop))
      (repeated tokens (item.enumerate tokens) least most start) := by
  have noStep := Shows.single
    (⟨0, start, .nil item most.isNone start⟩ : StepsFrom tokens item most.isNone start)
    (fun taken => (taken.steps.values, taken.stop))
  have someSteps : Shows (fun taken : StepsFrom tokens item most.isNone start =>
        taken.count ≠ 0 ∧ WithinBound most taken.count)
      (fun taken => (taken.steps.values, taken.stop))
      (if most = some 0 then [] else stepLists tokens (item.enumerate tokens) most 0 start) := by
    split
    · rename_i noneAllowed
      apply Shows.nothing
      intro taken fits
      rcases fits with ⟨positive, bounded⟩
      exact positive (Nat.le_zero.mp (bounded 0 noneAllowed))
    · rename_i someAllowed
      have room : WithinBound most (0 + 1) := by
        intro bound isBound
        have nonzero : bound ≠ 0 := fun zero => someAllowed (zero ▸ Option.mem_def.mp isBound)
        omega
      refine (shows_stepLists tokens item most itemShows 0 start room).congr ?_
      intro taken
      rw [Nat.zero_add]
  have discovered := noStep.append someSteps (by
    intro taken empty fits
    subst empty
    exact fits.1 rfl)
  refine (discovered.filter (fun taken => least ≤ taken.1.length)).reverse.congr ?_
  intro taken
  rcases taken with ⟨count, stop, steps⟩
  rw [decide_eq_true_iff, DerivationSteps.length_values]
  refine and_congr_left (fun _ => ?_)
  cases steps with
  | nil => simp [WithinBound]
  | cons tree rest advances => simp

private theorem shows_repetition (tokens : List Token) (item : Matcher) (least : Nat)
    (most : Option Nat) (transform : Option Transform) (itemShows : ShowsTrees tokens item) :
    ShowsTrees tokens (.repetition item least most transform) := by
  intro start
  rw [Matcher.enumerate]
  refine Shows.build (Shows.relabel (shows_repeated tokens item least most itemShows start) _)
    (fun taken fits => ⟨taken.stop, .repetition transform taken.count taken.steps fits.2 fits.1⟩)
    ?_ ?_ ?_
  · intro rooted
    rcases rooted with ⟨stop, tree⟩
    cases tree with
    | repetition _ count steps enough allowed =>
        exact iff_of_true trivial ⟨⟨count, stop, steps⟩, ⟨allowed, enough⟩, rfl⟩
  · intro taken _
    rcases taken with ⟨count, stop, steps⟩
    simp only [TreeFrom.derivation, DerivationTree.value]
  · intro left right _ _ same
    rcases left with ⟨leftCount, leftStop, leftSteps⟩
    rcases right with ⟨rightCount, rightStop, rightSteps⟩
    cases same
    rfl

theorem enumerate_showsTrees (tokens : List Token) (matcher : Matcher) :
    ShowsTrees tokens matcher := by
  induction matcher with
  | token test transform => exact shows_token tokens test transform
  | finish transform => exact shows_finish tokens transform
  | alternation branches transform each => exact shows_alternation tokens branches transform each
  | sequence items transform each => exact shows_sequence tokens items transform each
  | repetition item least most transform itemShows =>
      exact shows_repetition tokens item least most transform itemShows

namespace Matcher

theorem mem_derivations_iff (tokens : List Token) (matcher : Matcher) (start stop : Nat)
    (value : Value) :
    ⟨value, stop⟩ ∈ matcher.derivations tokens start ↔
      ∃ tree : DerivationTree tokens matcher start stop, tree.value = value := by
  rw [derivations_eq_enumerate, (enumerate_showsTrees tokens matcher start).mem_iff]
  constructor
  · intro shown
    rcases shown with ⟨⟨otherStop, tree⟩, _, same⟩
    obtain ⟨valued, rfl⟩ := Derivation.mk.inj same
    exact ⟨tree, valued⟩
  · intro derived
    rcases derived with ⟨tree, valued⟩
    exact ⟨⟨stop, tree⟩, trivial, congrArg (Derivation.mk · stop) valued⟩

end Matcher

end TokenGrammar
