import Mathlib.Data.List.Nodup
import Mathlib.Data.List.Perm.Basic
import TokenGrammar.Settings

set_option autoImplicit false

/-! Tables of entries as hash maps. Writing fields into a table is told from lookups; and where
tables are gone through in another order, what is written is the same up to the order of fields, and
reads alike. -/

namespace TokenGrammar.Settings.Entry

/-! ### Lookups after writing -/

def isTable : Entry → Bool
  | table _ _ => true
  | _ => false

private theorem lookup_setField (key name : String) (entry : Entry)
    (fields : List (String × Entry)) :
    (setField key entry fields).lookup name =
      if name = key then some entry else fields.lookup name := by
  induction fields with
  | nil =>
      by_cases same : name = key
      · simp [setField, same]
      · simp [setField, List.lookup_cons, beq_false_of_ne same, same]
  | cons field later inductionHypothesis =>
      rcases field with ⟨other, old⟩
      rw [setField]
      by_cases here : other = key
      · subst here
        by_cases same : name = other
        · simp [same]
        · simp [List.lookup_cons, beq_false_of_ne same, same]
      · rw [if_neg here, List.lookup_cons, List.lookup_cons, inductionHypothesis]
        by_cases same : name = other
        · simp [same, here]
        · simp [beq_false_of_ne same]

theorem putFields_append (target : Entry) (writes others : List (String × Entry)) :
    putFields target (writes ++ others) = putFields (putFields target writes) others := by
  induction writes generalizing target with
  | nil => rw [List.nil_append, putFields]
  | cons write later inductionHypothesis =>
      rcases write with ⟨key, entry⟩
      rw [List.cons_append, putFields, putFields]
      exact inductionHypothesis _

/-- The entries that fields give a name, in whatever case they write it. -/
def given (name : String) (fields : List (String × Entry)) : List Entry :=
  fields.filterMap (fun field =>
    if Text.lowerCaseString field.1 = name then some field.2 else none)

theorem given_singleton (name key : String) (entry : Entry) :
    given name [(key, entry)] = if Text.lowerCaseString key = name then [entry] else [] := by
  by_cases same : Text.lowerCaseString key = name <;> simp [given, same]

theorem all_isTable_given (name : String) {fields : List (String × Entry)}
    (tables : fields.all (fun field => field.2.isTable)) : (given name fields).all isTable := by
  simp only [given, List.all_eq_true, List.mem_filterMap, Option.ite_none_right_eq_some,
    Option.some.injEq] at tables ⊢
  rintro entry ⟨field, isField, -, rfl⟩
  exact tables field isField

/-- A name of a table sees exactly the writes that are meant for it. -/
theorem putFields_table (origin : Option String) (fields writes : List (String × Entry)) :
    ∃ after, putFields (table origin fields) writes = table origin after ∧
      ∀ name, after.lookup name =
        (given name writes).foldl (fun held entry => some (put held entry))
          (fields.lookup name) := by
  induction writes generalizing fields with
  | nil => exact ⟨fields, rfl, fun name => rfl⟩
  | cons write later inductionHypothesis =>
      rcases write with ⟨key, entry⟩
      obtain ⟨after, written, lookups⟩ := inductionHypothesis
        (setField (Text.lowerCaseString key)
          (put (fields.lookup (Text.lowerCaseString key)) entry) fields)
      refine ⟨after, by rw [putFields]; exact written, fun name => ?_⟩
      rw [lookups, lookup_setField]
      by_cases same : Text.lowerCaseString key = name
      · simp [given, same]
      · simp [given, same, Ne.symm same]

theorem foldl_put_tables (held : Entry) (entries : List Entry)
    (tables : entries.all isTable) :
    entries.foldl (fun held entry => some (put held entry)) (some held) =
      some (putFields held (entries.flatMap (fun entry => entry.asTable.2))) := by
  induction entries generalizing held with
  | nil => rw [List.flatMap_nil, putFields, List.foldl_nil]
  | cons entry later inductionHypothesis =>
      obtain ⟨isTable, laterTables⟩ : entry.isTable ∧ later.all Entry.isTable := by
        simpa using tables
      cases entry with
      | table origin fields =>
          have merged : put (some held) (table origin fields) = putFields held fields := by
            rw [put, Option.getD_some]
          rw [List.foldl_cons, merged, inductionHypothesis _ laterTables, List.flatMap_cons,
            putFields_append]
          rfl
      | nothing | scalar | list => cases isTable

/-! ### Fields in another order -/

section

variable {arrange : List (String × Entry) → List (String × Entry)}

/-- A field with every table in it arranged. -/
def arrangedField (arrange : List (String × Entry) → List (String × Entry))
    (field : String × Entry) : String × Entry :=
  (field.1, field.2.arranged arrange)

theorem arrangedFields_eq_map (fields : List (String × Entry)) :
    arrangedFields arrange fields = fields.map (arrangedField arrange) := by
  induction fields with
  | nil => rw [arrangedFields, List.map_nil]
  | cons field later inductionHypothesis =>
      rw [arrangedFields, inductionHypothesis, List.map_cons]
      rfl

theorem isTable_arranged (entry : Entry) : (entry.arranged arrange).isTable = entry.isTable := by
  cases entry <;> rw [arranged] <;> rfl

theorem given_map_arrangedField (name : String) (fields : List (String × Entry)) :
    given name (fields.map (arrangedField arrange)) =
      (given name fields).map (arranged arrange) := by
  rw [given, given, List.filterMap_map, List.map_filterMap]
  apply List.filterMap_congr
  intro field _
  by_cases same : Text.lowerCaseString field.1 = name <;> simp [arrangedField, same]

theorem given_perm (name : String) {fields others : List (String × Entry)}
    (same : fields.Perm others) : (given name fields).Perm (given name others) :=
  same.filterMap _

private theorem fields_arranged_perm (anyOrder : ∀ fields, (arrange fields).Perm fields)
    (entry : Entry) :
    (entry.arranged arrange).asTable.2.Perm (entry.asTable.2.map (arrangedField arrange)) := by
  cases entry with
  | table origin fields =>
      rw [arranged, arrangedFields_eq_map]
      exact anyOrder _
  | nothing | scalar | list =>
      rw [arranged]
      exact .refl _

theorem given_in_given_perm (anyOrder : ∀ fields, (arrange fields).Perm fields)
    (outer inner : String) {fields gone : List (String × Entry)}
    (same : gone.Perm (fields.map (arrangedField arrange))) :
    (given inner ((given outer gone).flatMap (fun entry => entry.asTable.2))).Perm
      ((given inner ((given outer fields).flatMap (fun entry => entry.asTable.2))).map
        (arranged arrange)) := by
  have outerSame := given_perm outer same
  rw [given_map_arrangedField] at outerSame
  rw [← given_map_arrangedField, List.map_flatMap]
  apply given_perm inner
  calc ((given outer gone).flatMap (fun entry => entry.asTable.2)).Perm
        (((given outer fields).map (arranged arrange)).flatMap (fun entry => entry.asTable.2)) :=
        outerSame.flatMap_right _
    _ = (given outer fields).flatMap (fun entry => (entry.arranged arrange).asTable.2) :=
        List.flatMap_map _ _ _
    List.Perm _ ((given outer fields).flatMap
        (fun entry => entry.asTable.2.map (arrangedField arrange))) :=
        List.Perm.flatMap_left _ (fun entry _ => fields_arranged_perm anyOrder entry)

end

/-! ### Entries that are read alike -/

/-- The same single values, lists from the same file, and tables from the same file with the same
keys. -/
inductive Alike : Entry → Entry → Prop
  | nothing : Alike nothing nothing
  | scalar (origin : Option String) (value : Scalar) :
      Alike (scalar origin value) (scalar origin value)
  | list (origin : Option String) (items others : List Entry) :
      Alike (list origin items) (list origin others)
  | table (origin : Option String) {fields others : List (String × Entry)}
      (once : (fields.map Prod.fst).Nodup)
      (same : (fields.map Prod.fst).Perm (others.map Prod.fst)) :
      Alike (table origin fields) (table origin others)

private theorem keys_setField (key : String) (entry : Entry) (fields : List (String × Entry)) :
    (setField key entry fields).map Prod.fst =
      if key ∈ fields.map Prod.fst then fields.map Prod.fst else fields.map Prod.fst ++ [key] := by
  induction fields with
  | nil => simp [setField]
  | cons field later inductionHypothesis =>
      obtain ⟨other, old⟩ := field
      rw [setField]
      by_cases here : other = key
      · simp [here]
      · rw [if_neg here, List.map_cons, inductionHypothesis]
        by_cases inside : key ∈ later.map Prod.fst <;> simp [inside, Ne.symm here]

private theorem exists_keys_putFields (origin : Option String)
    (fields writes : List (String × Entry)) (once : (fields.map Prod.fst).Nodup) :
    ∃ after, putFields (table origin fields) writes = table origin after ∧
      (after.map Prod.fst).Nodup ∧ ∀ name, name ∈ after.map Prod.fst ↔
        name ∈ fields.map Prod.fst ∨
          name ∈ writes.map (fun write => Text.lowerCaseString write.1) := by
  induction writes generalizing fields with
  | nil => exact ⟨fields, by rw [putFields], once, by simp⟩
  | cons write later inductionHypothesis =>
      obtain ⟨key, entry⟩ := write
      have onceMore (value : Entry) :
          ((setField (Text.lowerCaseString key) value fields).map Prod.fst).Nodup := by
        rw [keys_setField]
        split
        · exact once
        · rename_i outside
          refine List.nodup_append.mpr ⟨once, List.nodup_singleton _, ?_⟩
          intro name inside other isKey equal
          rw [equal, List.mem_singleton.mp isKey] at inside
          exact outside inside
      obtain ⟨after, written, afterOnce, names⟩ := inductionHypothesis _
        (onceMore (put (fields.lookup (Text.lowerCaseString key)) entry))
      refine ⟨after, by rw [putFields]; exact written, afterOnce, fun name => ?_⟩
      rw [names, keys_setField, List.map_cons, List.mem_cons]
      split
      · rename_i inside
        constructor
        · rintro (before | behind)
          · exact Or.inl before
          · exact Or.inr (Or.inr behind)
        · rintro (before | rfl | behind)
          · exact Or.inl before
          · exact Or.inl inside
          · exact Or.inr behind
      · rw [List.mem_append, List.mem_singleton, or_assoc]

private theorem putFields_cons_asTable (target : Entry) (write : String × Entry)
    (later : List (String × Entry)) :
    putFields target (write :: later) =
      putFields (table target.asTable.1 target.asTable.2) (write :: later) := by
  rw [putFields, putFields, asTable]

theorem alike_putFields_table (origin : Option String)
    {fields otherFields writes others : List (String × Entry)}
    (once : (fields.map Prod.fst).Nodup)
    (sameFields : (fields.map Prod.fst).Perm (otherFields.map Prod.fst))
    (sameWrites : (writes.map Prod.fst).Perm (others.map Prod.fst)) :
    ((table origin fields).putFields writes).Alike
      ((table origin otherFields).putFields others) := by
  obtain ⟨after, written, afterOnce, names⟩ := exists_keys_putFields origin fields writes once
  obtain ⟨otherAfter, otherWritten, otherOnce, otherNames⟩ :=
    exists_keys_putFields origin otherFields others (sameFields.nodup_iff.mp once)
  rw [written, otherWritten]
  refine .table origin afterOnce ((List.perm_ext_iff_of_nodup afterOnce otherOnce).mpr ?_)
  intro name
  have sameNames := (sameWrites.map Text.lowerCaseString).mem_iff (a := name)
  rw [List.map_map, List.map_map] at sameNames
  rw [names, otherNames, sameFields.mem_iff]
  exact or_congr_right sameNames

theorem Alike.putFields {entry other : Entry} (alike : entry.Alike other)
    {writes others : List (String × Entry)}
    (same : (writes.map Prod.fst).Perm (others.map Prod.fst)) :
    (entry.putFields writes).Alike (other.putFields others) := by
  cases writes with
  | nil =>
      rw [List.map_nil, List.nil_perm, List.map_eq_nil_iff] at same
      rw [same, Entry.putFields, Entry.putFields]
      exact alike
  | cons write later =>
      cases others with
      | nil => simp at same
      | cons otherWrite otherLater =>
          rw [putFields_cons_asTable entry, putFields_cons_asTable other]
          cases alike with
          | table origin once sameKeys => exact alike_putFields_table origin once sameKeys same
          | nothing | scalar | list =>
              have noKeys : (([] : List (String × Entry)).map Prod.fst).Nodup := List.nodup_nil
              exact alike_putFields_table none noKeys (.refl _) same

theorem Alike.readText_eq {entry other : Entry} (alike : entry.Alike other) (key : String) :
    entry.readText key = other.readText key := by
  cases alike <;> rfl

theorem Alike.readNatural_eq {entry other : Entry} (alike : entry.Alike other) (key : String) :
    entry.readNatural key = other.readNatural key := by
  cases alike <;> rfl

theorem Alike.readBoolean_eq {entry other : Entry} (alike : entry.Alike other) (key : String) :
    entry.readBoolean key = other.readBoolean key := by
  cases alike <;> rfl

theorem readFormat_table (origin : Option String) (fields : List (String × Entry)) :
    (table origin fields).readFormat =
      match fields.map Prod.fst with
      | [name] => formatNamed name
      | _ => nothing.readFormat := by
  rcases fields with _ | ⟨_, _ | _⟩ <;> rfl

theorem Alike.readFormat_eq {entry other : Entry} (alike : entry.Alike other) :
    entry.readFormat = other.readFormat := by
  cases alike with
  | @table origin fields others once same =>
      rw [readFormat_table, readFormat_table]
      generalize fields.map Prod.fst = names at same ⊢
      generalize others.map Prod.fst = otherNames at same ⊢
      rcases names with _ | ⟨name, _ | ⟨next, more⟩⟩
      · rw [List.nil_perm.mp same]
      · rw [List.singleton_perm.mp same]
      · rcases otherNames with _ | ⟨_, _ | _⟩
        · cases same.length_eq
        · cases same.length_eq
        · rfl
  | nothing | scalar | list => rfl

end TokenGrammar.Settings.Entry
