import TokenGrammar.Proofs.Derivations

set_option autoImplicit false

/-! Matching in the middle of other tokens. Tokens in front only move every position, and tokens
behind only add derivations that use some of them, so a search that is cut off at the end of the
inner tokens is the search of the inner tokens alone, order included. The end of input is the one
node that sees more than the tokens it uses. -/

namespace TokenGrammar

def Derivation.movedBy (offset : Nat) (found : Derivation) : Derivation :=
  { found with position := found.position + offset }

@[simp]
theorem Derivation.movedBy_position (offset : Nat) (found : Derivation) :
    (found.movedBy offset).position = found.position + offset := rfl

/-- The matcher never asks whether the tokens have ended. -/
def Matcher.EndFree (matcher : Matcher) : Prop :=
  ∀ transform, Matcher.finish transform ∉ matcher.nodes

theorem Matcher.EndFree.part {matcher inner : Matcher} (endFree : matcher.EndFree)
    (isPart : inner ∈ matcher.parts) : inner.EndFree := by
  intro transform member
  exact endFree transform (nodes_subset_of_mem_parts matcher inner isPart member)

private theorem filter_flatMap_of_lost {α β : Type} (items : List α) (next : α → List β)
    (inside : α → Bool) (keep : β → Bool)
    (lost : ∀ item ∈ items, ¬ inside item = true → ∀ result ∈ next item, ¬ keep result = true) :
    (items.flatMap next).filter keep =
      (items.filter inside).flatMap (fun item => (next item).filter keep) := by
  induction items with
  | nil => rfl
  | cons item later inductionHypothesis =>
      have rest := inductionHypothesis
        (fun other member => lost other (List.mem_cons_of_mem item member))
      rw [List.flatMap_cons, List.filter_append, rest]
      by_cases isInside : inside item = true
      · rw [List.filter_cons_of_pos isInside, List.flatMap_cons]
      · rw [List.filter_cons_of_neg isInside,
          List.filter_eq_nil_iff.mpr (lost item List.mem_cons_self isInside), List.nil_append]

private theorem filter_map_of_same {α β : Type} (label : α → β) {keep : α → Bool}
    {keepLabel : β → Bool} {move : α → α} {moveLabel : β → β} {wide narrow : List α}
    (same : wide.filter keep = narrow.map move)
    (keeps : ∀ item, keepLabel (label item) = keep item)
    (moves : ∀ item, moveLabel (label item) = label (move item)) :
    (wide.map label).filter keepLabel = (narrow.map label).map moveLabel := by
  have kept : keepLabel ∘ label = keep := funext keeps
  have moved : moveLabel ∘ label = label ∘ move := funext moves
  rw [List.filter_map, List.map_map, kept, moved, same, List.map_map]

namespace Enumeration

section

variable (before tokens : List Token)

def within (position : Nat) : Bool := position ≤ tokens.length + before.length

/-- From a position of the inner tokens, what a step over all the tokens finds within the inner
ones is what a step over these alone finds. -/
def Restricts (wide narrow : Nat → List Derivation) : Prop :=
  ∀ position ≤ tokens.length,
    (wide (position + before.length)).filter (fun found => within before tokens found.position) =
      (narrow position).map (Derivation.movedBy before.length)

private theorem within_iff (position : Nat) :
    within before tokens position = true ↔ position ≤ tokens.length + before.length :=
  decide_eq_true_iff

private theorem within_add_iff (position : Nat) :
    within before tokens (position + before.length) = true ↔ position ≤ tokens.length := by
  rw [within_iff]
  omega

end

variable {before tokens after : List Token}

/-- One step, and then whatever follows it. A step past the inner tokens is lost with all that
follows it, since nothing goes back. -/
theorem filter_flatMap_step {wide narrow : Nat → List Derivation}
    (restricts : Restricts before tokens wide narrow) (stays : StaysInReach tokens narrow)
    {wideNext narrowNext : Derivation → List (List Value × Nat)}
    (forward : ∀ found, ∀ taken ∈ wideNext found, found.position ≤ taken.2)
    (position : Nat) (inside : position ≤ tokens.length)
    (agree : ∀ found ∈ narrow position, found.position ≤ tokens.length →
      (wideNext (found.movedBy before.length)).filter (fun taken => within before tokens taken.2) =
        (narrowNext found).map (fun taken => (taken.1, taken.2 + before.length))) :
    ((wide (position + before.length)).flatMap wideNext).filter
        (fun taken => within before tokens taken.2) =
      ((narrow position).flatMap narrowNext).map
        (fun taken => (taken.1, taken.2 + before.length)) := by
  rw [filter_flatMap_of_lost _ wideNext (fun found => within before tokens found.position),
    restricts position inside, List.flatMap_map, List.map_flatMap]
  · apply List.flatMap_congr
    intro found member
    have reach := stays position found member
    have stops : found.position ≤ tokens.length := by
      unfold InReach at reach
      omega
    exact agree found member stops
  · intro found _ outside taken member
    have further := forward found taken member
    rw [within_iff] at outside ⊢
    omega

private theorem filter_inTurn {items : List Matcher}
    (each : ∀ item ∈ items, Restricts before tokens
      (item.enumerate (before ++ (tokens ++ after))) (item.enumerate tokens))
    (position : Nat) (inside : position ≤ tokens.length) :
    (inTurn (items.map (fun item => item.enumerate (before ++ (tokens ++ after))))
        (position + before.length)).filter (fun taken => within before tokens taken.2) =
      (inTurn (items.map (fun item => item.enumerate tokens)) position).map
        (fun taken => (taken.1, taken.2 + before.length)) := by
  induction items generalizing position with
  | nil => simp [inTurn, within, inside]
  | cons item later inductionHypothesis =>
      rw [List.map_cons, List.map_cons, inTurn, inTurn]
      apply filter_flatMap_step (each item List.mem_cons_self)
        (item.enumerate_staysInReach tokens)
      · intro found taken member
        obtain ⟨rest, inLater, rfl⟩ := List.mem_map.mp member
        refine (inReach_of_mem_inTurn (before ++ (tokens ++ after)) _ ?_ _ rest inLater).1
        intro step isStep
        obtain ⟨other, _, rfl⟩ := List.mem_map.mp isStep
        exact other.enumerate_staysInReach _
      · exact inside
      · intro found _ stops
        have rest := inductionHypothesis
          (fun other member => each other (List.mem_cons_of_mem item member)) found.position stops
        exact filter_map_of_same _ rest (fun _ => rfl) (fun _ => rfl)

private theorem extendable_inner (most : Option Nat) (count start stop : Nat)
    (inside : stop ≤ tokens.length) :
    extendable (before ++ (tokens ++ after)) most count (start + before.length)
        (stop + before.length) = extendable tokens most count start stop := by
  apply Bool.eq_iff_iff.mpr
  cases most with
  | some bound => rw [extendable_some_iff, extendable_some_iff]
  | none =>
      rw [extendable_none_iff, extendable_none_iff, List.length_append, List.length_append]
      omega

private theorem filter_stepLists {item : Matcher}
    (restricts : Restricts before tokens (item.enumerate (before ++ (tokens ++ after)))
      (item.enumerate tokens))
    (most : Option Nat) (count position : Nat) (inside : position ≤ tokens.length) :
    (stepLists (before ++ (tokens ++ after)) (item.enumerate (before ++ (tokens ++ after))) most
        count (position + before.length)).filter (fun taken => within before tokens taken.2) =
      (stepLists tokens (item.enumerate tokens) most count position).map
        (fun taken => (taken.1, taken.2 + before.length)) := by
  fun_induction stepLists tokens (item.enumerate tokens) most count position with
  | case1 count position inductionHypothesis =>
      rw [stepLists]
      apply filter_flatMap_step restricts (item.enumerate_staysInReach tokens)
      · intro found taken member
        rcases List.mem_cons.mp member with rfl | inLonger
        · exact Nat.le_refl found.position
        · split at inLonger
          · obtain ⟨rest, inLater, rfl⟩ := List.mem_map.mp inLonger
            exact (inReach_of_mem_stepLists (before ++ (tokens ++ after)) _ most
              (item.enumerate_staysInReach _) _ _ rest inLater).1
          · cases inLonger
      · exact inside
      · intro found _ stops
        have kept := (within_add_iff before tokens found.position).mpr stops
        rw [List.filter_cons, Derivation.movedBy_position, if_pos kept, List.map_cons,
          extendable_inner most (count + 1) position found.position stops]
        congr 1
        split
        · rename_i extending
          have rest := inductionHypothesis found extending stops
          exact filter_map_of_same _ rest (fun _ => rfl) (fun _ => rfl)
        · rfl

private theorem filter_repeated {item : Matcher}
    (restricts : Restricts before tokens (item.enumerate (before ++ (tokens ++ after)))
      (item.enumerate tokens))
    (least : Nat) (most : Option Nat) (position : Nat) (inside : position ≤ tokens.length) :
    (repeated (before ++ (tokens ++ after)) (item.enumerate (before ++ (tokens ++ after))) least
        most (position + before.length)).filter (fun taken => within before tokens taken.2) =
      (repeated tokens (item.enumerate tokens) least most position).map
        (fun taken => (taken.1, taken.2 + before.length)) := by
  let wide := before ++ (tokens ++ after)
  let discovered : List (List Value × Nat) := ([], position) ::
    if most = some 0 then [] else stepLists tokens (item.enumerate tokens) most 0 position
  let discoveredWide : List (List Value × Nat) := ([], position + before.length) ::
    if most = some 0 then []
    else stepLists wide (item.enumerate wide) most 0 (position + before.length)
  have kept : discoveredWide.filter (fun taken => within before tokens taken.2) =
      discovered.map (fun taken => (taken.1, taken.2 + before.length)) := by
    have start := (within_add_iff before tokens position).mpr inside
    rw [List.filter_cons, if_pos start, List.map_cons]
    congr 1
    split
    · rfl
    · exact filter_stepLists restricts most 0 position inside
  calc ((discoveredWide.filter (fun taken => least ≤ taken.1.length)).reverse).filter
        (fun taken => within before tokens taken.2)
      = ((discoveredWide.filter (fun taken => within before tokens taken.2)).filter
          (fun taken => least ≤ taken.1.length)).reverse := by
        rw [List.filter_reverse, List.filter_filter, List.filter_filter]
        simp only [Bool.and_comm]
    _ = ((discovered.filter (fun taken => least ≤ taken.1.length)).map
          (fun taken => (taken.1, taken.2 + before.length))).reverse := by
        rw [kept, List.filter_map]
        rfl
    _ = ((discovered.filter (fun taken => least ≤ taken.1.length)).reverse).map
          (fun taken => (taken.1, taken.2 + before.length)) := List.map_reverse.symm

private theorem restricts_token (test : TokenTest) (transform : Option Transform) :
    Restricts before tokens
      ((Matcher.token test transform).enumerate (before ++ (tokens ++ after)))
      ((Matcher.token test transform).enumerate tokens) := by
  intro position inside
  have ahead : before.length ≤ position + before.length := by omega
  rw [Matcher.enumerate, Matcher.enumerate, List.getElem?_append_right ahead,
    Nat.add_sub_cancel]
  by_cases atEnd : position = tokens.length
  · -- the token behind the inner ones, if there is one, is out of reach
    rw [List.getElem?_eq_none (Nat.le_of_eq atEnd.symm), List.filter_eq_nil_iff.mpr]
    · rfl
    · intro found member
      obtain ⟨token, _, rfl⟩ := List.mem_map.mp member
      rw [within_iff]
      dsimp only
      omega
  · have beforeEnd : position < tokens.length := by omega
    rw [List.getElem?_append_left beforeEnd, List.filter_eq_self.mpr, List.map_map]
    · apply List.map_congr_left
      intro token _
      simp only [Function.comp_apply, Derivation.movedBy, Derivation.mk.injEq, true_and]
      omega
    · intro found member
      obtain ⟨token, _, rfl⟩ := List.mem_map.mp member
      rw [within_iff]
      dsimp only
      omega

private theorem restricts_finish (transform : Option Transform) :
    Restricts before tokens ((Matcher.finish transform).enumerate (before ++ (tokens ++ [])))
      ((Matcher.finish transform).enumerate tokens) := by
  intro position inside
  have atEnd : position + before.length = (before ++ (tokens ++ [])).length ↔
      position = tokens.length := by
    rw [List.append_nil, List.length_append]
    omega
  rw [Matcher.enumerate, Matcher.enumerate]
  by_cases ended : position = tokens.length
  · have kept := (within_add_iff before tokens position).mpr inside
    rw [if_pos (atEnd.mpr ended), if_pos ended, List.filter_cons, if_pos kept]
    rfl
  · rw [if_neg (atEnd.not.mpr ended), if_neg ended]
    rfl

private theorem blind_of_part {matcher inner : Matcher} (blind : matcher.EndFree ∨ after = [])
    (isPart : inner ∈ matcher.parts) : inner.EndFree ∨ after = [] :=
  blind.imp_left (fun endFree => endFree.part isPart)

theorem restricts_enumerate (matcher : Matcher) (blind : matcher.EndFree ∨ after = []) :
    Restricts before tokens (matcher.enumerate (before ++ (tokens ++ after)))
      (matcher.enumerate tokens) := by
  induction matcher with
  | token test transform => exact restricts_token test transform
  | finish transform =>
      rcases blind with endFree | nothingBehind
      · exact absurd (Matcher.self_mem_nodes _) (endFree transform)
      · subst nothingBehind
        exact restricts_finish transform
  | alternation branches transform branchesRestrict =>
      intro position inside
      have inner : (branches.flatMap (fun branch => branch.enumerate
            (before ++ (tokens ++ after)) (position + before.length))).filter
              (fun found => within before tokens found.position) =
          (branches.flatMap (fun branch => branch.enumerate tokens position)).map
            (Derivation.movedBy before.length) := by
        rw [List.filter_flatMap, List.map_flatMap]
        apply List.flatMap_congr
        intro branch isBranch
        exact branchesRestrict branch isBranch (blind_of_part blind isBranch) position inside
      rw [Matcher.enumerate, Matcher.enumerate]
      exact filter_map_of_same _ inner (fun _ => rfl) (fun _ => rfl)
  | sequence items transform itemsRestrict =>
      intro position inside
      have each : ∀ item ∈ items, Restricts before tokens
          (item.enumerate (before ++ (tokens ++ after))) (item.enumerate tokens) :=
        fun item isItem => itemsRestrict item isItem (blind_of_part blind isItem)
      rw [Matcher.enumerate, Matcher.enumerate]
      exact filter_map_of_same _ (filter_inTurn each position inside) (fun _ => rfl)
        (fun _ => rfl)
  | repetition item least most transform itemRestricts =>
      intro position inside
      have restricts := itemRestricts (blind_of_part blind List.mem_cons_self)
      rw [Matcher.enumerate, Matcher.enumerate]
      exact filter_map_of_same _ (filter_repeated restricts least most position inside)
        (fun _ => rfl) (fun _ => rfl)

end Enumeration

namespace Matcher

/-- Over some tokens with others in front of them and behind them, the derivations that start with
the inner tokens and use no tokens behind them are those over the inner tokens alone, in the same
order and with the same values, moved by the number of tokens in front. The end of input may be
asked for only if there are no tokens behind. -/
theorem derivations_between_others (matcher : Matcher) (before tokens after : List Token)
    (blind : matcher.EndFree ∨ after = []) :
    (matcher.derivations (before ++ tokens ++ after) before.length).filter
        (fun found => found.position ≤ before.length + tokens.length) =
      (matcher.derivations tokens 0).map (Derivation.movedBy before.length) := by
  have restricts : Enumeration.Restricts before tokens
      (matcher.enumerate (before ++ (tokens ++ after))) (matcher.enumerate tokens) :=
    Enumeration.restricts_enumerate matcher blind
  have fromStart := restricts 0 (Nat.zero_le _)
  rw [derivations_eq_enumerate, derivations_eq_enumerate, List.append_assoc, ← fromStart,
    Nat.zero_add]
  simp only [Enumeration.within, Nat.add_comm]

/-- Pluses after a number and in front of one more plus: the search goes on to the last plus, and
what it finds there is left out. -/
theorem pluses_between_number_and_plus :
    let number : Token := ⟨.number, "7", ⟨0, 1, "."⟩⟩
    let first : Token := ⟨.operator, "+", ⟨1, 2, "."⟩⟩
    let second : Token := ⟨.operator, "+", ⟨2, 3, "."⟩⟩
    let third : Token := ⟨.operator, "+", ⟨3, 4, "."⟩⟩
    let matcher := repetition (ofText "+") 1 none none
    (matcher.EndFree ∨ [third] = []) ∧
      (matcher.derivations [number, first, second, third] 1).filter
          (fun found => found.position ≤ 1 + 2) =
        [⟨.list [.token first, .token second], 3⟩, ⟨.list [.token first], 2⟩] := by
  intro number first second third matcher
  have endFree : matcher.EndFree := by
    intro transform member
    simp [matcher, nodes, ofText] at member
  refine ⟨Or.inl endFree, ?_⟩
  have alone : (matcher.derivations [first, second] 0).map (Derivation.movedBy 1) =
      [⟨.list [.token first, .token second], 3⟩, ⟨.list [.token first], 2⟩] := by
    rw [derivations_eq_enumerate]
    cbv
  rw [← alone]
  exact derivations_between_others matcher [number] [first, second] [third] (Or.inl endFree)

end Matcher

end TokenGrammar
