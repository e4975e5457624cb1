import TokenGrammar.Search

set_option autoImplicit false

/-! Repetitions, found on an explicit stack. Each frame of the stack is an interrupted search for
one more step. The frame on top is resumed; a step that may be extended puts a frame for the next
step on top of it, and a search that has ended takes its frame away. -/

namespace TokenGrammar

/-- An interrupted search for one more step, with the values of the steps in front of that step and
the position that the search started from. -/
structure Frame where
  pending : Unit → Search
  values : List Value
  start : Nat

structure Worklist where
  stack : List Frame
  told : List Record
  found : List Derivation

instance : Nonempty Worklist := ⟨{ stack := [], told := [], found := [] }⟩

structure Repetition where
  item : Nat → Opening
  least : Nat
  most : Option Nat

namespace Repetition

/-- Whether more steps may follow the last of `count` steps. Without an upper bound this step must
have consumed something. -/
def mayExtend (repetition : Repetition) (count start stop : Nat) : Bool :=
  repetition.most.all (fun bound => count < bound) &&
    (decide (start < stop) || repetition.most.isSome)

def keep (repetition : Repetition) (values : List Value) (position : Nat) (work : Worklist) :
    Worklist :=
  if repetition.least ≤ values.length then
    { work with found := ⟨.list values, position⟩ :: work.found }
  else work

def push (repetition : Repetition) (values : List Value) (position : Nat) (work : Worklist) :
    Worklist :=
  let opening := repetition.item position
  { work with
    stack := { pending := opening.pending, values, start := position } :: work.stack
    told := opening.records.reverse ++ work.told }

def resume? (repetition : Repetition) (work : Worklist) : Option Worklist :=
  match work.stack with
  | [] => none
  | top :: below =>
      let (entries, outcome) := (top.pending ()).next
      let told := entries.reverse ++ work.told
      match outcome with
      | none => some { work with stack := below, told }
      | some (step, rest) =>
          let values := top.values ++ [step.value]
          let resumed := repetition.keep values step.position
            { work with stack := { top with pending := rest } :: below, told }
          if repetition.mayExtend values.length top.start step.position then
            some (repetition.push values step.position resumed)
          else some resumed

def run (repetition : Repetition) (work : Worklist) : Worklist :=
  Id.run (repeatM (fun work =>
    match repetition.resume? work with
    | none => pure (.inr work)
    | some next => pure (.inl next)) work)

theorem run_eq (repetition : Repetition) (work : Worklist) :
    repetition.run work =
      match repetition.resume? work with
      | none => work
      | some next => repetition.run next := by
  unfold run
  rw [repeatM_eq_of_monadTail, repeatM.body]
  cases repetition.resume? work with
  | none => rfl
  | some next => rfl

def collect (repetition : Repetition) (position : Nat) : Worklist :=
  let nothing := repetition.keep [] position { stack := [], told := [], found := [] }
  if repetition.most = some 0 then nothing
  else repetition.run (repetition.push [] position nothing)

/-- Finds all lists of steps at once, and then yields them from the last to the first. -/
def search (repetition : Repetition) (position : Nat) : Search :=
  let work := repetition.collect position
  .emit work.told.reverse (fun _ => .ofList work.found)

end Repetition

end TokenGrammar
