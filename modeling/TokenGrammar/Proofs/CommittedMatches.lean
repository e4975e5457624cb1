import TokenGrammar.Proofs.Derivations

set_option autoImplicit false

/-! Matchings move their cursor at each yield. The search behind a matching starts from the same
cursor but never looks at it again, so the cursor may be sent forward and back by the yields and the
search goes on as if it had not moved. The statements follow a matching call by call, past its end
as well. -/

namespace TokenGrammar

def Cursor.behind (cursor : Cursor) (found : List Derivation) : Cursor :=
  { cursor with position := (found.getLast?.map Derivation.position).getD cursor.position }

theorem Cursor.behind_take_succ (cursor : Cursor) (found : List Derivation) (count : Nat) :
    cursor.behind (found.take (count + 1)) =
      { cursor with position := (found.head?.map Derivation.position).getD cursor.position }.behind
        (found.tail.take count) := by
  cases found with
  | nil => simp [behind]
  | cons first later =>
      unfold behind
      rw [List.take_succ_cons, List.getLast?_cons, List.tail_cons]
      cases (later.take count).getLast? <;> rfl

namespace Matching

structure Call where
  value : Option Value
  cursor : Cursor

/-- A number of calls for the next value, those after the end included, and what is left of the
matching. -/
def calls : Nat → Matching → Except Fault (List Call × Matching)
  | 0, matching => .ok ([], matching)
  | count + 1, matching => do
      let (_, value, later) ← matching.next
      let (others, ended) ← later.calls count
      return (⟨value, later.cursor⟩ :: others, ended)

theorem calls_eq (count : Nat) (matching : Matching)
    (same : matching.stream.sequence = matching.cursor.sequence) :
    ∃ given ended, matching.calls count = .ok (given, ended) ∧
      given.length = count ∧
      given.filterMap Call.value = (matching.stream.held.take count).map Derivation.value ∧
      (∀ index < count, given[index]? = some
        { value := matching.stream.held[index]?.map Derivation.value
          cursor := matching.cursor.behind (matching.stream.held.take (index + 1)) }) ∧
      ended.cursor = matching.cursor.behind (matching.stream.held.take count) := by
  induction count generalizing matching with
  | zero => exact ⟨[], matching, rfl, rfl, rfl, fun index impossible => by omega, rfl⟩
  | succ count inductionHypothesis =>
      obtain ⟨records, stream, pulled, searched, rest⟩ := next_eq matching same
      obtain ⟨others, ended, ran, length, values, each, stopped⟩ := inductionHypothesis
        { cursor := ⟨matching.cursor.sequence,
            (matching.stream.held.head?.map Derivation.position).getD matching.cursor.position⟩
          stream } (searched.trans same)
      dsimp only at ran values each stopped
      rw [rest] at values each stopped
      let first : Call :=
        { value := matching.stream.held.head?.map Derivation.value
          cursor := ⟨matching.cursor.sequence,
            (matching.stream.held.head?.map Derivation.position).getD matching.cursor.position⟩ }
      refine ⟨first :: others, ended, ?_, ?_, ?_, ?_, ?_⟩
      · rw [calls, pulled]
        simp only [bind, Except.bind, ran]
        rfl
      · rw [List.length_cons, length]
      · cases held : matching.stream.held with
        | nil => simpa [first, held] using values
        | cons found later => simpa [first, held] using values
      · intro index inside
        cases index with
        | zero =>
            simp only [first]
            cases matching.stream.held with
            | nil => rfl
            | cons found later => rfl
        | succ index =>
            rw [List.getElem?_cons_succ, each index (by omega), List.getElem?_tail,
              Cursor.behind_take_succ matching.cursor]
      · rw [stopped, Cursor.behind_take_succ]

/-- However often a matching is asked for its next value, it never faults: the values that it gives
are those of the first derivations from its cursor. A call that gives a value leaves the cursor where
its derivation stopped, before or behind where the cursor stood; a call that gives none leaves it
where the last derivation stopped. So after all calls the cursor, over the same tokens as ever, is
where the last derivation given stopped, or where it was if none was given. -/
theorem calls_commit_each_yield (matcher : Matcher) (cursor : Cursor) (count : Nat) :
    let all := matcher.derivations cursor.sequence.tokens cursor.position
    ∃ given ended, (Matching.start matcher cursor).2.calls count = .ok (given, ended) ∧
      given.length = count ∧
      given.filterMap Call.value = (all.take count).map Derivation.value ∧
      (∀ index < count, ∀ found, all[index]? = some found →
        given[index]? = some ⟨some found.value, ⟨cursor.sequence, found.position⟩⟩) ∧
      (∀ index < count, all[index]? = none →
        given[index]? = some ⟨none,
          ⟨cursor.sequence, (all.getLast?.map Derivation.position).getD cursor.position⟩⟩) ∧
      ended.cursor = ⟨cursor.sequence,
        ((all.take count).getLast?.map Derivation.position).getD cursor.position⟩ := by
  intro all
  obtain ⟨given, ended, ran, length, values, each, stopped⟩ :=
    calls_eq count (Matching.start matcher cursor).2 rfl
  change given.filterMap Call.value = (all.take count).map Derivation.value at values
  change ∀ index < count, given[index]? = some
    ⟨all[index]?.map Derivation.value, cursor.behind (all.take (index + 1))⟩ at each
  refine ⟨given, ended, ran, length, values, ?_, ?_, stopped⟩
  · intro index inside found present
    have last : (all.take (index + 1)).getLast? = some found := by
      rw [List.take_add_one, present]
      exact List.getLast?_concat
    rw [each index inside, present, Cursor.behind, last]
    rfl
  · intro index inside ended
    have whole : all.take (index + 1) = all :=
      List.take_of_length_le (Nat.le_succ_of_le (List.getElem?_eq_none_iff.mp ended))
    rw [each index inside, ended, whole]
    rfl

/-- Four calls over two pluses: the third call goes back to the start, behind which the two calls
before it had gone, and the fourth gives nothing and moves nothing. -/
theorem pluses_given_back :
    let first : Token := ⟨.operator, "+", ⟨0, 1, "."⟩⟩
    let second : Token := ⟨.operator, "+", ⟨1, 2, "."⟩⟩
    let matcher := Matcher.repetition (.ofText "+") 0 none none
    let cursor : Cursor := ⟨⟨0, [first, second]⟩, 0⟩
    let all := matcher.derivations [first, second] 0
    (2 < 4 ∧ all[2]? = some ⟨.list [], 0⟩ ∧ 3 < 4 ∧ all[3]? = none) ∧
      ∃ given ended, (Matching.start matcher cursor).2.calls 4 = .ok (given, ended) ∧
        given.filterMap Call.value =
          [.list [.token first, .token second], .list [.token first], .list []] ∧
        given[2]? = some ⟨some (.list []), cursor⟩ ∧ given[3]? = some ⟨none, cursor⟩ := by
  intro first second matcher cursor all
  have listed : all = [⟨.list [.token first, .token second], 2⟩, ⟨.list [.token first], 1⟩,
      ⟨.list [], 0⟩] := by
    simp only [all, Matcher.derivations_eq_enumerate]
    cbv
  have yielded : all[2]? = some ⟨.list [], 0⟩ := by simp [listed]
  have ends : all[3]? = none := by simp [listed]
  obtain ⟨given, ended, ran, _, values, yields, stays, _⟩ := calls_commit_each_yield matcher cursor 4
  refine ⟨⟨by decide, yielded, by decide, ends⟩, given, ended, ran, ?_,
    yields 2 (by decide) _ yielded, ?_⟩
  · rw [values]
    change (all.take 4).map Derivation.value = _
    simp [listed]
  · rw [stays 3 (by decide) ends]
    change some ({ value := none, cursor := ⟨cursor.sequence, (all.getLast?.map _).getD 0⟩ } : Call) = _
    simp [listed, cursor]

end Matching

end TokenGrammar
