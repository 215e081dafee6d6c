/-
Module: Blueprint.Proofs.Output.Memory
Purpose: What calls leave in memory. Paths are keys by their parts, and storing a value at a key changes what is
  found at that key only. So the directories in memory are those that the calls have created, and the text
  of a file is the one that the calls have written there last; and as long as the directory of every file
  has been created before, no call is refused.
Main exports: compareParts_eq_iff, PathMap.IsOrdered, PathMap.findKey?_insert, PathMap.IsOrdered.insert,
  created, written?, created_append, written?_append, created_eq_true_iff, written?_eq_some_iff,
  Memory.Holds, Memory.exists_perform
-/
import Blueprint.Output.Memory
import Blueprint.Proofs.Output.Call

namespace Blueprint.Output

/-! ### The order of paths -/

theorem PathPart.compare_eq_iff {first second : PathPart} : first.compare second = .eq ↔ first = second := by
  cases first <;> cases second <;> simp [PathPart.compare, PathPart.rank]

/-- The text of a part, which tells names apart. -/
def PathPart.text : PathPart → String
  | name text => text
  | _ => ""

/-- Parts are ordered by their kinds, and those of one kind by their texts. -/
theorem PathPart.compare_eq :
    PathPart.compare = compareLex (compareOn PathPart.rank) (compareOn PathPart.text) := by
  funext first second
  cases first <;> cases second <;> simp [PathPart.compare, compareLex, compareOn, rank, text] <;> rfl

instance : Std.TransCmp PathPart.compare := by
  rw [PathPart.compare_eq]
  infer_instance

theorem compareParts_eq (first second : List PathPart) :
    compareParts first second = List.compareLex PathPart.compare first second := by
  induction first generalizing second with
  | nil => cases second <;> rfl
  | cons part rest ih =>
      cases second with
      | nil => rfl
      | cons other others => rw [compareParts, List.compareLex_cons_cons, ih]

instance : Std.TransCmp compareParts := by
  have same : compareParts = List.compareLex PathPart.compare := funext fun _ => funext (compareParts_eq _)
  rw [same]
  infer_instance

/-- Paths that are not told apart by the order have the same parts. -/
theorem compareParts_eq_iff {first second : List PathPart} :
    compareParts first second = .eq ↔ first = second := by
  induction first generalizing second with
  | nil => cases second <;> simp [compareParts]
  | cons part rest ih =>
      cases second with
      | nil => simp [compareParts]
      | cons other others =>
          rw [compareParts, Ordering.then_eq_eq, PathPart.compare_eq_iff, ih, List.cons.injEq]

namespace PathMap

variable {α : Type} {map : PathMap α} {path : String} {value : α} {key : List PathPart}

/-! ### Storing values -/

/-- The entries are in the order of their keys, so that none comes twice, and each key tells the parts of the
    path that is kept with it. -/
structure IsOrdered (map : PathMap α) : Prop where
  keyed : ∀ entry ∈ map.entries, entry.key = parts entry.path
  increasing : map.entries.Pairwise fun first second => compareParts first.key second.key = .lt

theorem isOrdered_empty : (empty : PathMap α).IsOrdered where
  keyed _ member := nomatch member
  increasing := .nil

/-- After a value is stored, it is found at its key, and at every other key what was found before. -/
theorem find?_insertEntry (new : PathEntry α) (entries : List (PathEntry α)) (key : List PathPart) :
    ((insertEntry new entries).find? (·.key == key)).map PathEntry.value =
      if new.key = key then some new.value
      else (entries.find? (·.key == key)).map PathEntry.value := by
  induction entries with
  | nil =>
      rw [insertEntry, List.find?_singleton]
      by_cases same : new.key = key <;> simp [same]
  | cons entry rest ih =>
      rw [insertEntry]
      cases order : compareParts new.key entry.key with
      | lt => by_cases same : new.key = key <;> simp [same]
      | eq =>
          have equal := compareParts_eq_iff.mp order
          by_cases same : new.key = key
          · simp [← equal, same]
          · simp [← equal, same]
      | gt =>
          have differs : new.key ≠ entry.key := by
            intro equal
            rw [compareParts_eq_iff.mpr equal] at order
            cases order
          by_cases here : entry.key = key
          · have other : new.key ≠ key := fun same => differs (same.trans here.symm)
            simp [here, other]
          · simp only [List.find?_cons, beq_eq_false_iff_ne.mpr here, ih]

theorem findKey?_insert (map : PathMap α) (path : String) (value : α) (key : List PathPart) :
    (map.insert path value).findKey? key = if parts path = key then some value else map.findKey? key :=
  find?_insertEntry _ _ _

theorem containsKey_eq (map : PathMap α) (key : List PathPart) :
    map.containsKey key = (map.findKey? key).isSome := by
  rw [containsKey, findKey?, Option.isSome_map, List.isSome_find?]

theorem containsKey_iff : map.containsKey key = true ↔ key ∈ map.entries.map PathEntry.key := by
  simp [containsKey]

theorem containsKey_insert (map : PathMap α) (path : String) (value : α) (key : List PathPart) :
    (map.insert path value).containsKey key = (parts path == key || map.containsKey key) := by
  rw [containsKey_eq, containsKey_eq, findKey?_insert]
  by_cases same : parts path = key <;> simp [same]

/-- The entries after a new one is put among them are the new one, one with its value in place of another,
    or those before. -/
theorem mem_insertEntry {new entry : PathEntry α} {entries : List (PathEntry α)}
    (member : entry ∈ insertEntry new entries) :
    entry.key = new.key ∧ (entry.path = new.path ∨ ∃ old ∈ entries, old.key = new.key ∧ entry.path = old.path) ∨
      entry ∈ entries := by
  induction entries with
  | nil =>
      rw [insertEntry, List.mem_singleton] at member
      subst member
      exact .inl ⟨rfl, .inl rfl⟩
  | cons first rest ih =>
      rw [insertEntry] at member
      cases order : compareParts new.key first.key with
      | lt =>
          rw [order] at member
          rcases List.mem_cons.mp member with rfl | older
          · exact .inl ⟨rfl, .inl rfl⟩
          · exact .inr older
      | eq =>
          rw [order] at member
          have equal := compareParts_eq_iff.mp order
          rcases List.mem_cons.mp member with rfl | older
          · exact .inl ⟨equal.symm, .inr ⟨first, List.mem_cons_self, equal.symm, rfl⟩⟩
          · exact .inr (List.mem_cons_of_mem _ older)
      | gt =>
          rw [order] at member
          rcases List.mem_cons.mp member with rfl | older
          · exact .inr List.mem_cons_self
          · rcases ih older with ⟨same, path | ⟨old, inside, key, path⟩⟩ | older
            · exact .inl ⟨same, .inl path⟩
            · exact .inl ⟨same, .inr ⟨old, List.mem_cons_of_mem _ inside, key, path⟩⟩
            · exact .inr (List.mem_cons_of_mem _ older)

theorem pairwise_insertEntry {new : PathEntry α} {entries : List (PathEntry α)}
    (increasing : entries.Pairwise fun first second => compareParts first.key second.key = .lt) :
    (insertEntry new entries).Pairwise fun first second => compareParts first.key second.key = .lt := by
  induction increasing with
  | nil => exact List.pairwise_singleton _ _
  | @cons first rest before later ih =>
      rw [insertEntry]
      cases order : compareParts new.key first.key with
      | lt =>
          refine .cons ?_ (.cons before later)
          intro entry member
          rcases List.mem_cons.mp member with rfl | behind
          · exact order
          · exact Std.TransCmp.lt_trans order (before entry behind)
      | eq => exact .cons before later
      | gt =>
          refine .cons ?_ ih
          intro entry member
          rcases mem_insertEntry member with ⟨same, -⟩ | older
          · rw [same]
            exact Std.OrientedCmp.gt_iff_lt.mp order
          · exact before entry older

theorem IsOrdered.insert (ordered : map.IsOrdered) (path : String) (value : α) :
    (map.insert path value).IsOrdered where
  keyed entry member := by
    rcases mem_insertEntry member with ⟨same, path' | ⟨old, inside, key, path'⟩⟩ | older
    · rw [same, path']
    · rw [same, path', ← ordered.keyed old inside, key]
    · exact ordered.keyed entry older
  increasing := pairwise_insertEntry ordered.increasing

/-- No path comes twice. -/
theorem IsOrdered.nodup_keys (ordered : map.IsOrdered) : (map.entries.map PathEntry.key).Nodup := by
  refine List.pairwise_map.mpr (ordered.increasing.imp fun before same => ?_)
  rw [compareParts_eq_iff.mpr same] at before
  cases before

end PathMap

/-! ### What calls leave behind -/

/-- The call creates the directory with these parts. -/
def Call.creates (key : List PathPart) : Call → Bool
  | .createDirectory path => parts path == key
  | .writeFile .. => false

/-- The text that the call writes to the file with these parts. -/
def Call.text? (key : List PathPart) : Call → Option String
  | .createDirectory _ => none
  | .writeFile path text => if parts path = key then some text else none

/-- One of the calls creates the directory with these parts. -/
def created (calls : List Call) (key : List PathPart) : Bool :=
  calls.any (Call.creates key)

/-- The text that the calls write last to the file with these parts. -/
def written? (calls : List Call) (key : List PathPart) : Option String :=
  calls.reverse.findSome? (Call.text? key)

theorem created_append (calls more : List Call) (key : List PathPart) :
    created (calls ++ more) key = (created calls key || created more key) :=
  List.any_append

theorem written?_append (calls more : List Call) (key : List PathPart) :
    written? (calls ++ more) key = (written? more key).or (written? calls key) := by
  rw [written?, List.reverse_append, List.findSome?_append]
  rfl

theorem created_concat (calls : List Call) (call : Call) (key : List PathPart) :
    created (calls ++ [call]) key = (created calls key || call.creates key) := by
  rw [created_append, created, created, List.any_cons, List.any_nil, Bool.or_false]

theorem written?_concat (calls : List Call) (call : Call) (key : List PathPart) :
    written? (calls ++ [call]) key = (call.text? key).or (written? calls key) := by
  have single : written? [call] key = call.text? key := by
    rw [written?, List.reverse_singleton, List.findSome?_singleton]
  rw [written?_append, single]

theorem created_eq_true_iff {calls : List Call} {key : List PathPart} :
    created calls key = true ↔ ∃ path, .createDirectory path ∈ calls ∧ parts path = key := by
  rw [created, List.any_eq_true]
  constructor
  · rintro ⟨call, member, creates⟩
    cases call with
    | createDirectory path => exact ⟨path, member, beq_iff_eq.mp creates⟩
    | writeFile path text => cases creates
  · rintro ⟨path, member, same⟩
    exact ⟨_, member, beq_iff_eq.mpr same⟩

theorem Call.text?_eq_some_iff {call : Call} {key : List PathPart} {text : String} :
    call.text? key = some text ↔ ∃ path, call = .writeFile path text ∧ parts path = key := by
  cases call with
  | createDirectory path => simp [text?]
  | writeFile path other =>
      rw [text?, Option.ite_none_right_eq_some]
      constructor
      · rintro ⟨same, ⟨⟩⟩
        exact ⟨path, rfl, same⟩
      · rintro ⟨_, ⟨⟩, same⟩
        exact ⟨same, rfl⟩

/-- Calls write a text last to a file if one of them writes it and no later one writes to that file. -/
theorem written?_eq_some_iff {calls : List Call} {key : List PathPart} {text : String} :
    written? calls key = some text ↔ ∃ before path after, calls = before ++ .writeFile path text :: after ∧
      parts path = key ∧ ∀ call ∈ after, call.text? key = none := by
  have reversed : written? calls key = some text ↔ ∃ after call before,
      calls.reverse = after ++ call :: before ∧ call.text? key = some text ∧
        ∀ call ∈ after, call.text? key = none := List.findSome?_eq_some_iff
  rw [reversed]
  constructor
  · rintro ⟨after, call, before, split, writes, last⟩
    obtain ⟨path, rfl, same⟩ := Call.text?_eq_some_iff.mp writes
    have order := congrArg List.reverse split
    refine ⟨before.reverse, path, after.reverse, ?_, same, by simpa using last⟩
    simpa using order
  · rintro ⟨before, path, after, rfl, same, last⟩
    exact ⟨after.reverse, _, before.reverse, by simp, Call.text?_eq_some_iff.mpr ⟨path, rfl, same⟩,
      by simpa using last⟩

/-- A text has been written last to a file if any call has written to it. -/
theorem written?_isSome {calls : List Call} {key : List PathPart} :
    (written? calls key).isSome ↔ ∃ path text, .writeFile path text ∈ calls ∧ parts path = key := by
  rw [written?, List.isSome_findSome?, List.any_reverse, List.any_eq_true]
  constructor
  · rintro ⟨call, member, writes⟩
    obtain ⟨text, writes⟩ := Option.isSome_iff_exists.mp writes
    obtain ⟨path, rfl, same⟩ := Call.text?_eq_some_iff.mp writes
    exact ⟨path, text, member, same⟩
  · rintro ⟨path, text, member, same⟩
    exact ⟨_, member, Option.isSome_of_eq_some (Call.text?_eq_some_iff.mpr ⟨path, rfl, same⟩)⟩

namespace Memory

/-- The memory holds what the calls leave behind: the directories that they create, and the text that they
    write last to each file. -/
structure Holds (memory : Memory) (calls : List Call) : Prop where
  directories_ordered : memory.directories.IsOrdered
  files_ordered : memory.files.IsOrdered
  directories : ∀ key, memory.directories.containsKey key = created calls key
  files : ∀ key, memory.files.findKey? key = written? calls key

theorem holds_empty : empty.Holds [] where
  directories_ordered := PathMap.isOrdered_empty
  files_ordered := PathMap.isOrdered_empty
  directories _ := rfl
  files _ := rfl

variable {memory : Memory} {calls : List Call}

theorem Holds.createDirectory (holds : memory.Holds calls) (path : String) :
    (memory.createDirectory path).Holds (calls ++ [.createDirectory path]) where
  directories_ordered := holds.directories_ordered.insert path ()
  files_ordered := holds.files_ordered
  directories key := by
    rw [created_concat, ← holds.directories key, Bool.or_comm]
    exact PathMap.containsKey_insert _ _ _ _
  files key := by
    rw [written?_concat]
    exact holds.files key

/-- A file whose directory has been created, or that lies in none, is accepted. -/
theorem Holds.writeFile (holds : memory.Holds calls) {path : String} (text : String)
    (housed : ∀ parent, parentParts? path = some parent → parent = [] ∨ created calls parent = true) :
    ∃ next, memory.writeFile path text = .ok next ∧ next.Holds (calls ++ [.writeFile path text]) := by
  have admitted : memory.admits path = true := by
    rw [admits]
    split
    · rfl
    · rfl
    · rename_i parent outside lies
      rcases housed parent lies with rfl | earlier
      · exact absurd rfl outside
      · rw [holds.directories, earlier]
  refine ⟨_, by rw [Memory.writeFile, if_pos admitted], ?_⟩
  exact {
    directories_ordered := holds.directories_ordered
    files_ordered := holds.files_ordered.insert path text
    directories := fun key => by
      rw [created_concat, ← holds.directories key]
      exact (Bool.or_false _).symm
    files := fun key => by
      rw [written?_concat, ← holds.files key]
      refine (PathMap.findKey?_insert _ _ _ _).trans ?_
      by_cases same : parts path = key <;> simp [Call.text?, same] }

/-- Calls of which every file lies in a directory that has been created before, or in none, are all
    accepted, and the memory then holds what they leave behind. -/
theorem exists_perform
    (housed : ∀ before path text after, calls = before ++ .writeFile path text :: after →
      ∀ parent, parentParts? path = some parent → parent = [] ∨ created before parent = true) :
    ∃ memory, store.perform calls empty = (.ok (), memory) ∧ memory.Holds calls := by
  apply Store.exists_perform_of_steps holds_empty
  intro before call after memory split holds
  cases call with
  | createDirectory path => exact ⟨_, rfl, holds.createDirectory path⟩
  | writeFile path text =>
      obtain ⟨next, accepted, held⟩ := holds.writeFile text (housed before path text after split)
      exact ⟨next, by simp [Store.answer, store, accepted], held⟩

end Memory

end Blueprint.Output
