import TokenGrammar.Value.Transform

set_option autoImplicit false

/-! Matchers: grammar trees over tokens. A matcher says which runs of tokens it accepts and which
value each way of accepting them has; it holds no state of a search, so one tree serves any number
of searches. How the ways are enumerated is said where searching is defined. -/

namespace TokenGrammar

inductive TokenTest where
  | kind (kind : TokenKind)
  | text (text : String)
  | kindText (kind : TokenKind) (text : String)
  deriving DecidableEq

def TokenTest.accepts : TokenTest → Token → Bool
  | .kind wantedKind, token => token.kind == wantedKind
  | .text wantedText, token => token.text == wantedText
  | .kindText wantedKind wantedText, token => token.kind == wantedKind && token.text == wantedText

/-- A grammar tree. Each node may carry a transform for the values that it yields. -/
inductive Matcher where
  | token (test : TokenTest) (transform : Option Transform)
  | finish (transform : Option Transform)
  | alternation (branches : List Matcher) (transform : Option Transform)
  | sequence (items : List Matcher) (transform : Option Transform)
  | repetition (item : Matcher) (least : Nat) (most : Option Nat) (transform : Option Transform)

namespace Matcher

instance : Inhabited Matcher := ⟨finish none⟩

def ofKind (kind : TokenKind) : Matcher := token (.kind kind) none

def ofText (text : String) : Matcher := token (.text text) none

def ofKindText (kind : TokenKind) (text : String) : Matcher := token (.kindText kind text) none

def optional (item : Matcher) : Matcher := repetition item 0 (some 1) none

def transform? : Matcher → Option Transform
  | token _ transform => transform
  | finish transform => transform
  | alternation _ transform => transform
  | sequence _ transform => transform
  | repetition _ _ _ transform => transform

/-- The matcher with a transform at its root, in place of the one it had. -/
def map (transform : Transform) : Matcher → Matcher
  | token test _ => token test (some transform)
  | finish _ => finish (some transform)
  | alternation branches _ => alternation branches (some transform)
  | sequence items _ => sequence items (some transform)
  | repetition item least most _ => repetition item least most (some transform)

def applyTransform (matcher : Matcher) (value : Value) : Value :=
  match matcher.transform? with
  | some transform => transform value
  | none => value

def caseName : Matcher → String
  | token (.kind _) _ => "kind"
  | token (.text _) _ => "value"
  | token (.kindText _ _) _ => "kind_value"
  | finish _ => "end"
  | alternation _ _ => "alternation"
  | sequence _ _ => "sequence"
  | repetition _ _ _ _ => "repetition"

def parts : Matcher → List Matcher
  | token _ _ => []
  | finish _ => []
  | alternation branches _ => branches
  | sequence items _ => items
  | repetition item _ _ _ => [item]

mutual

def nodes : Matcher → List Matcher
  | token test transform => [token test transform]
  | finish transform => [finish transform]
  | alternation branches transform => alternation branches transform :: nodesOfAll branches
  | sequence items transform => sequence items transform :: nodesOfAll items
  | repetition item least most transform => repetition item least most transform :: nodes item

def nodesOfAll : List Matcher → List Matcher
  | [] => []
  | part :: later => nodes part ++ nodesOfAll later

end

theorem self_mem_nodes (matcher : Matcher) : matcher ∈ matcher.nodes := by
  cases matcher <;> simp [nodes]

theorem mem_nodesOfAll_of_mem (parts : List Matcher) (part node : Matcher) (isPart : part ∈ parts)
    (member : node ∈ part.nodes) : node ∈ nodesOfAll parts := by
  induction parts with
  | nil => cases isPart
  | cons first later inductionHypothesis =>
      rw [nodesOfAll, List.mem_append]
      rcases List.mem_cons.mp isPart with rfl | inLater
      · exact Or.inl member
      · exact Or.inr (inductionHypothesis inLater)

theorem nodes_subset_of_mem_parts (matcher part : Matcher) (isPart : part ∈ matcher.parts) :
    part.nodes ⊆ matcher.nodes := by
  intro node member
  cases matcher with
  | token test transform => cases isPart
  | finish transform => cases isPart
  | alternation branches transform =>
      rw [nodes]
      exact List.mem_cons_of_mem _ (mem_nodesOfAll_of_mem branches part node isPart member)
  | sequence items transform =>
      rw [nodes]
      exact List.mem_cons_of_mem _ (mem_nodesOfAll_of_mem items part node isPart member)
  | repetition item least most transform =>
      rw [nodes, ← List.mem_singleton.mp isPart]
      exact List.mem_cons_of_mem _ member

@[induction_eliminator]
theorem induction_on_nodes {motive : Matcher → Prop}
    (token : ∀ test transform, motive (token test transform))
    (finish : ∀ transform, motive (finish transform))
    (alternation : ∀ branches transform, (∀ branch ∈ branches, motive branch) →
      motive (alternation branches transform))
    (sequence : ∀ items transform, (∀ item ∈ items, motive item) →
      motive (sequence items transform))
    (repetition : ∀ item least most transform, motive item →
      motive (repetition item least most transform))
    (matcher : Matcher) : motive matcher := by
  -- the recursor of the nested type carries a second motive, for lists of parts
  apply @Matcher.rec motive (fun parts => ∀ part ∈ parts, motive part)
    token finish alternation sequence repetition
  · intro part nowhere
    cases nowhere
  · intro first later firstHolds laterHold part member
    cases member with
    | head => exact firstHolds
    | tail _ inLater => exact laterHold part inLater

/-- The same induction with one case for all kinds of nodes. -/
theorem induction_on_parts {motive : Matcher → Prop}
    (node : ∀ matcher, (∀ part ∈ matcher.parts, motive part) → motive matcher)
    (matcher : Matcher) : motive matcher := by
  induction matcher with
  | token test transform => exact node _ (fun part nowhere => by cases nowhere)
  | finish transform => exact node _ (fun part nowhere => by cases nowhere)
  | alternation branches transform each => exact node _ each
  | sequence items transform each => exact node _ each
  | repetition item least most transform itemHolds =>
      refine node _ (fun part isPart => ?_)
      rw [List.mem_singleton.mp isPart]
      exact itemHolds

end Matcher

end TokenGrammar
