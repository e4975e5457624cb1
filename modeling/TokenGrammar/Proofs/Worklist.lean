import Mathlib.Logic.Relation
import TokenGrammar.Proofs.Enumeration
import TokenGrammar.Proofs.Streams
import TokenGrammar.Search.Worklist

set_option autoImplicit false

/-! The worklist of a repetition against the same search by recursion. Putting a frame on the stack
and resuming frames until it is gone leaves the frames below it as they were, and adds to what was
told and found exactly what the recursion tells and finds. So the worklist comes to an end, although
its definition does not say so, and it finds the step lists of the reference enumeration. -/

namespace TokenGrammar

namespace Worklist

def add (work : Worklist) (search : Search) : Worklist :=
  { work with
    told := search.records.reverse ++ work.told
    found := search.found.reverse ++ work.found }

def withFrame (work : Worklist) (frame : Frame) : Worklist :=
  { work with stack := frame :: work.stack }

def tell (work : Worklist) (entries : List Record) : Worklist :=
  { work with told := entries.reverse ++ work.told }

private theorem add_withFrame (work : Worklist) (frame : Frame) (search : Search) :
    (work.withFrame frame).add search = (work.add search).withFrame frame := rfl

@[simp]
theorem add_done (work : Worklist) : work.add .done = work := rfl

@[simp]
theorem add_record (work : Worklist) (entry : Record) (rest : Unit → Search) :
    work.add (.record entry rest) = (work.tell [entry]).add (rest ()) := by
  simp [add, tell, Search.records, Search.found]

@[simp]
theorem add_append (work : Worklist) (search : Search) (following : Unit → Search) :
    work.add (search.append following) = (work.add search).add (following ()) := by
  simp [add, List.reverse_append, List.append_assoc]

@[simp]
theorem add_emit (work : Worklist) (entries : List Record) (rest : Unit → Search) :
    work.add (.emit entries rest) = (work.tell entries).add (rest ()) := by
  simp [add, tell, List.reverse_append, List.append_assoc]

end Worklist

namespace Repetition

open Enumeration

/-! ### The same search by recursion -/

def kept (repetition : Repetition) (values : List Value) (position : Nat)
    (following : Unit → Search) : Search :=
  if repetition.least ≤ values.length then .yield ⟨.list values, position⟩ following
  else following ()

/-- The lists of steps that extend a list of steps, depth first, each of them before those that
extend it. -/
def extensions (repetition : Repetition) (tokens : List Token) (values : List Value)
    (position : Nat) : Search :=
  ((repetition.item position).bind (fun step =>
    repetition.kept (values ++ [step.value]) step.position (fun _ =>
      if extendable tokens repetition.most (values.length + 1) position step.position then
        repetition.extensions tokens (values ++ [step.value]) step.position
      else .done))).run
termination_by room tokens repetition.most values.length position
decreasing_by
  rw [List.length_append]
  exact room_lt_of_extendable ‹_›

def extended (repetition : Repetition) (tokens : List Token) (values : List Value) (start : Nat)
    (step : Derivation) : Search :=
  repetition.kept (values ++ [step.value]) step.position (fun _ =>
    if extendable tokens repetition.most (values.length + 1) start step.position then
      repetition.extensions tokens (values ++ [step.value]) step.position
    else .done)

/-- All lists of steps from a position, the empty one first. -/
def discoveries (repetition : Repetition) (tokens : List Token) (position : Nat) : Search :=
  repetition.kept [] position (fun _ =>
    if repetition.most = some 0 then .done else repetition.extensions tokens [] position)

/-! ### The worklist -/

def Reaches (repetition : Repetition) : Worklist → Worklist → Prop :=
  Relation.TransGen (fun earlier later => repetition.resume? earlier = some later)

theorem run_eq_of_reaches (repetition : Repetition) (earlier later : Worklist)
    (reaches : repetition.Reaches earlier later) :
    repetition.run earlier = repetition.run later := by
  induction reaches with
  | single step => rw [run_eq, step]
  | tail _ step inductionHypothesis => rw [inductionHypothesis, run_eq, step]

private theorem Reaches.of_resume?_eq {repetition : Repetition} {work other later : Worklist}
    (same : repetition.resume? work = repetition.resume? other)
    (reaches : repetition.Reaches other later) : repetition.Reaches work later := by
  obtain ⟨next, step, onward⟩ := Relation.TransGen.head'_iff.mp reaches
  exact Relation.TransGen.head' (same.trans step) onward

private theorem push_eq (repetition : Repetition) (values : List Value) (position : Nat)
    (work : Worklist) :
    repetition.push values position work =
      (work.tell (repetition.item position).records).withFrame
        { pending := (repetition.item position).pending, values, start := position } := rfl

theorem stack_keep (repetition : Repetition) (values : List Value) (position : Nat)
    (work : Worklist) : (repetition.keep values position work).stack = work.stack := by
  unfold keep
  split <;> rfl

private theorem keep_withFrame (repetition : Repetition) (values : List Value) (position : Nat)
    (work : Worklist) (frame : Frame) :
    repetition.keep values position (work.withFrame frame) =
      (repetition.keep values position work).withFrame frame := by
  unfold keep
  split <;> rfl

theorem add_kept (repetition : Repetition) (values : List Value) (position : Nat)
    (following : Unit → Search) (work : Worklist) :
    work.add (repetition.kept values position following) =
      (repetition.keep values position work).add (following ()) := by
  unfold kept keep
  split
  · simp [Worklist.add, Search.records, Search.found]
  · rfl

private theorem resume?_done (repetition : Repetition) (work : Worklist) (pending : Unit → Search)
    (values : List Value) (start : Nat) (ended : pending () = .done) :
    repetition.resume? (work.withFrame { pending, values, start }) = some work := by
  simp [resume?, Worklist.withFrame, ended, Search.next]

private theorem resume?_record (repetition : Repetition) (work : Worklist) (pending : Unit → Search)
    (values : List Value) (start : Nat) (entry : Record) (rest : Unit → Search)
    (told : pending () = .record entry rest) :
    repetition.resume? (work.withFrame { pending, values, start }) =
      repetition.resume? ((work.tell [entry]).withFrame { pending := rest, values, start }) := by
  simp [resume?, Worklist.withFrame, Worklist.tell, told, Search.next]

private theorem resume?_yield (repetition : Repetition) (work : Worklist) (pending : Unit → Search)
    (values : List Value) (start : Nat) (step : Derivation) (rest : Unit → Search)
    (yielded : pending () = .yield step rest) :
    repetition.resume? (work.withFrame { pending, values, start }) =
      let resumed := (repetition.keep (values ++ [step.value]) step.position work).withFrame
        { pending := rest, values, start }
      if repetition.mayExtend (values.length + 1) start step.position then
        some (repetition.push (values ++ [step.value]) step.position resumed)
      else some resumed := by
  rw [← keep_withFrame]
  simp [resume?, Worklist.withFrame, yielded, Search.next]

private theorem mayExtend_eq_extendable (repetition : Repetition) (tokens : List Token)
    (count start stop : Nat) (reach : InReach tokens start stop) :
    repetition.mayExtend count start stop =
      extendable tokens repetition.most count start stop := by
  have consumed : consumes tokens start stop = decide (start < stop) := by
    unfold InReach at reach
    rw [Bool.eq_iff_iff, consumes_iff, decide_eq_true_iff]
    omega
  rw [mayExtend, extendable, consumed, Bool.or_comm]

private theorem reaches_of_frame (repetition : Repetition) (tokens : List Token)
    (values : List Value) (start : Nat)
    (longer : ∀ (step : Derivation) (work : Worklist),
      extendable tokens repetition.most (values.length + 1) start step.position = true →
        repetition.Reaches (repetition.push (values ++ [step.value]) step.position work)
          (work.add (repetition.extensions tokens (values ++ [step.value]) step.position)))
    (pending : Unit → Search)
    (reach : ∀ step ∈ (pending ()).found, InReach tokens start step.position)
    (work : Worklist) :
    repetition.Reaches (work.withFrame { pending, values, start })
      (work.add ((pending ()).bind (repetition.extended tokens values start))) := by
  -- over the events that the interrupted search still has to come
  generalize remaining : pending () = search at reach ⊢
  induction search generalizing pending work with
  | done =>
      have ends := resume?_done repetition work pending values start remaining
      exact Relation.TransGen.single ends
  | record entry rest inductionHypothesis =>
      have same := resume?_record repetition work pending values start entry rest remaining
      rw [Search.bind, Worklist.add_record]
      exact Reaches.of_resume?_eq same (inductionHypothesis () rest (work.tell [entry]) rfl reach)
  | yield step rest inductionHypothesis =>
      have resumes := resume?_yield repetition work pending values start step rest remaining
      have stepReach := reach step List.mem_cons_self
      rw [mayExtend_eq_extendable repetition tokens _ _ _ stepReach] at resumes
      have onward := fun work => inductionHypothesis () rest work rfl
        (fun later member => reach later (List.mem_cons_of_mem step member))
      rw [Search.bind, Worklist.add_append, extended, add_kept]
      dsimp only at resumes ⊢
      split at resumes
      · rename_i extending
        rw [if_pos extending]
        have above := longer step
          ((repetition.keep (values ++ [step.value]) step.position work).withFrame
            { pending := rest, values, start }) extending
        rw [Worklist.add_withFrame] at above
        exact Relation.TransGen.head resumes (above.trans (onward _))
      · rename_i ending
        rw [if_neg ending, Worklist.add_done]
        exact Relation.TransGen.head resumes (onward _)

/-- A frame that is put on the stack is gone in the end, with the frames below it untouched and
everything told and found that the recursion tells and finds. -/
theorem reaches_of_push (repetition : Repetition) (tokens : List Token)
    (stay : StaysInReach tokens (fun position => (repetition.item position).found))
    (values : List Value) (position : Nat) (work : Worklist) :
    repetition.Reaches (repetition.push values position work)
      (work.add (repetition.extensions tokens values position)) := by
  fun_induction extensions repetition tokens values position generalizing work with
  | case1 values position inductionHypothesis =>
      have run := reaches_of_frame repetition tokens values position
        (fun step work extending => inductionHypothesis step extending work)
        (repetition.item position).pending (stay position)
        (work.tell (repetition.item position).records)
      rw [push_eq]
      change repetition.Reaches _ (work.add (Search.emit _ _))
      rw [Worklist.add_emit]
      exact run

theorem run_of_no_frame (repetition : Repetition) (work : Worklist) (empty : work.stack = []) :
    repetition.run work = work := by
  rw [run_eq, resume?, empty]

theorem collect_eq (repetition : Repetition) (tokens : List Token)
    (stay : StaysInReach tokens (fun position => (repetition.item position).found))
    (position : Nat) :
    repetition.collect position =
      Worklist.add { stack := [], told := [], found := [] }
        (repetition.discoveries tokens position) := by
  have bare := repetition.stack_keep [] position { stack := [], told := [], found := [] }
  rw [discoveries, add_kept, collect]
  split
  · rfl
  · rw [run_eq_of_reaches repetition _ _ (reaches_of_push repetition tokens stay [] position _)]
    exact run_of_no_frame repetition _ bare

/-- Searching for repetitions tells everything at once and yields from the last to the first. -/
theorem search_eq (repetition : Repetition) (tokens : List Token)
    (stay : StaysInReach tokens (fun position => (repetition.item position).found))
    (position : Nat) :
    repetition.search position =
      .emit (repetition.discoveries tokens position).records (fun _ =>
        .ofList (repetition.discoveries tokens position).found.reverse) := by
  rw [search, collect_eq repetition tokens stay position]
  simp [Worklist.add]

/-! ### What is found -/

theorem found_kept (repetition : Repetition) (values : List Value) (position : Nat)
    (following : Unit → Search) :
    (repetition.kept values position following).found =
      if repetition.least ≤ values.length then
        ⟨.list values, position⟩ :: (following ()).found
      else (following ()).found := by
  unfold kept
  split <;> rfl

theorem found_extensions (repetition : Repetition) (tokens : List Token) (values : List Value)
    (position : Nat) :
    (repetition.extensions tokens values position).found =
      ((stepLists tokens (fun position => (repetition.item position).found) repetition.most
          values.length position).filter
        (fun taken => repetition.least ≤ values.length + taken.1.length)).map
        (fun taken => ⟨.list (values ++ taken.1), taken.2⟩) := by
  fun_induction extensions repetition tokens values position with
  | case1 values position inductionHypothesis =>
      rw [Opening.found_run, Opening.found_bind, stepLists, List.filter_flatMap, List.map_flatMap]
      apply List.flatMap_congr
      intro step _
      have counted : (values ++ [step.value]).length = values.length + 1 := by simp
      have longer : (if extendable tokens repetition.most (values.length + 1) position
              step.position then
            repetition.extensions tokens (values ++ [step.value]) step.position
          else .done).found =
          ((if extendable tokens repetition.most (values.length + 1) position step.position then
              (stepLists tokens (fun position => (repetition.item position).found)
                repetition.most (values.length + 1) step.position).map
                (fun taken => (step.value :: taken.1, taken.2))
            else []).filter
            (fun taken => repetition.least ≤ values.length + taken.1.length)).map
          (fun taken => ⟨.list (values ++ taken.1), taken.2⟩) := by
        split
        · rename_i extending
          rw [inductionHypothesis step extending, counted, List.filter_map, List.map_map]
          simp only [Function.comp_def, List.length_cons, List.append_assoc,
            List.singleton_append, Nat.add_assoc, Nat.add_comm 1]
        · rfl
      rw [found_kept, longer, counted]
      by_cases enough : repetition.least ≤ values.length + 1
      · rw [if_pos enough, List.filter_cons_of_pos (by simpa using enough)]
        rfl
      · rw [if_neg enough, List.filter_cons_of_neg (by simpa using enough)]

theorem found_search (repetition : Repetition) (tokens : List Token)
    (stay : StaysInReach tokens (fun position => (repetition.item position).found))
    (position : Nat) :
    (repetition.search position).found =
      (repeated tokens (fun position => (repetition.item position).found) repetition.least
        repetition.most position).map (fun taken => ⟨.list taken.1, taken.2⟩) := by
  have nonempty : (if repetition.most = some 0 then .done
        else repetition.extensions tokens [] position).found =
      ((if repetition.most = some 0 then []
          else stepLists tokens (fun position => (repetition.item position).found)
            repetition.most 0 position).filter
        (fun taken => repetition.least ≤ taken.1.length)).map
        (fun taken => ⟨.list taken.1, taken.2⟩) := by
    split
    · rfl
    · have found := repetition.found_extensions tokens [] position
      simpa only [List.length_nil, Nat.zero_add, List.nil_append] using found
  rw [search_eq repetition tokens stay, Search.found_emit, Search.found_ofList, repeated,
    List.map_reverse, discoveries, found_kept, nonempty]
  congr 1
  by_cases emptyAllowed : repetition.least ≤ 0
  · rw [List.length_nil, if_pos emptyAllowed, List.filter_cons_of_pos (by simpa using emptyAllowed),
      List.map_cons]
  · rw [List.length_nil, if_neg emptyAllowed, List.filter_cons_of_neg (by simpa using emptyAllowed)]

end Repetition

end TokenGrammar
