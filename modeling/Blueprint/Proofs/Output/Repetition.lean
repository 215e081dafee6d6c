/-
Module: Blueprint.Proofs.Output.Repetition
Purpose: Calls to memory that are made again. Values stored at different paths do not get in each other's way, and
  of two values stored at one path the second one stays, with the spelling that the path had first. So storing
  a list of values again changes nothing: each value that is stored in between is replaced by the one that
  was stored there last. The same holds for lists of calls that are accepted.
Main exports: PathMap.insertEntry_insertEntry, PathMap.insertEntry_comm, PathMap.storeAll_storeAll,
  PathMap.filter_storeAll, Memory.after, Memory.eq_after_of_perform, Memory.perform_again
-/
import Blueprint.Proofs.Output.Memory

namespace Blueprint.Output

namespace PathMap

variable {α : Type} {map : PathMap α} {path other : String} {key : List PathPart}

/-! ### Two values -/

section Entries

variable {new first second entry : PathEntry α} {rest entries : List (PathEntry α)}

theorem insertEntry_of_lt (order : compareParts new.key entry.key = .lt) :
    insertEntry new (entry :: rest) = new :: entry :: rest := by
  rw [insertEntry, order]

theorem insertEntry_of_eq (order : compareParts new.key entry.key = .eq) :
    insertEntry new (entry :: rest) = { entry with value := new.value } :: rest := by
  rw [insertEntry, order]

theorem insertEntry_of_gt (order : compareParts new.key entry.key = .gt) :
    insertEntry new (entry :: rest) = entry :: insertEntry new rest := by
  rw [insertEntry, order]

/-- Of two values stored at one key the second one stays, with the first path. -/
theorem insertEntry_insertEntry (same : first.key = second.key) (entries : List (PathEntry α)) :
    insertEntry second (insertEntry first entries) = insertEntry { first with value := second.value } entries := by
  have equal : compareParts second.key first.key = .eq := compareParts_eq_iff.mpr same.symm
  induction entries with
  | nil => exact insertEntry_of_eq equal
  | cons entry rest ih =>
      cases order : compareParts first.key entry.key with
      | lt =>
          rw [insertEntry_of_lt order, insertEntry_of_eq equal]
          simp only [insertEntry, order]
      | eq =>
          have behind : compareParts second.key entry.key = .eq := same ▸ order
          rw [insertEntry_of_eq order]
          simp only [insertEntry, behind, order]
      | gt =>
          have behind : compareParts second.key entry.key = .gt := same ▸ order
          rw [insertEntry_of_gt order, insertEntry_of_gt behind, ih]
          simp only [insertEntry, order]

/-- Values can be stored in either order at two keys of which the first comes before the second. -/
theorem insertEntry_comm_of_lt (before : compareParts first.key second.key = .lt) (entries : List (PathEntry α)) :
    insertEntry second (insertEntry first entries) = insertEntry first (insertEntry second entries) := by
  have after : compareParts second.key first.key = .gt := Std.OrientedCmp.gt_iff_lt.mpr before
  induction entries with
  | nil => exact (insertEntry_of_gt after).trans (insertEntry_of_lt before).symm
  | cons entry rest ih =>
      cases order : compareParts first.key entry.key with
      | lt =>
          rw [insertEntry_of_lt order, insertEntry_of_gt after]
          cases later : compareParts second.key entry.key with
          | lt => rw [insertEntry_of_lt later, insertEntry_of_lt before]
          | eq =>
              rw [insertEntry_of_eq later]
              simp only [insertEntry, order]
          | gt => rw [insertEntry_of_gt later, insertEntry_of_lt order]
      | eq =>
          have later : compareParts second.key entry.key = .gt := by rw [← compareParts_eq_iff.mp order, after]
          rw [insertEntry_of_eq order, insertEntry_of_gt later, insertEntry_of_eq order]
          exact insertEntry_of_gt later
      | gt =>
          have behind : compareParts entry.key first.key = .lt := Std.OrientedCmp.gt_iff_lt.mp order
          have later : compareParts second.key entry.key = .gt :=
            Std.OrientedCmp.gt_iff_lt.mpr (Std.TransCmp.lt_trans behind before)
          rw [insertEntry_of_gt order, insertEntry_of_gt later, insertEntry_of_gt later, insertEntry_of_gt order, ih]

/-- Values stored at different keys can be stored in either order. -/
theorem insertEntry_comm (differ : first.key ≠ second.key) (entries : List (PathEntry α)) :
    insertEntry second (insertEntry first entries) = insertEntry first (insertEntry second entries) := by
  cases order : compareParts first.key second.key with
  | lt => exact insertEntry_comm_of_lt order entries
  | eq => exact absurd (compareParts_eq_iff.mp order) differ
  | gt => exact (insertEntry_comm_of_lt (Std.OrientedCmp.gt_iff_lt.mp order) entries).symm

/-- A value stored at one key leaves the entries of every other key as they are. -/
theorem filter_insertEntry {key : List PathPart} (differ : new.key ≠ key) (entries : List (PathEntry α)) :
    (insertEntry new entries).filter (·.key == key) = entries.filter (·.key == key) := by
  induction entries with
  | nil => simp [insertEntry, differ]
  | cons entry rest ih =>
      cases order : compareParts new.key entry.key with
      | lt => simp [insertEntry_of_lt order, List.filter_cons, differ]
      | eq =>
          have other : entry.key ≠ key := compareParts_eq_iff.mp order ▸ differ
          simp [insertEntry_of_eq order, other]
      | gt => rw [insertEntry_of_gt order, List.filter_cons, List.filter_cons, ih]

end Entries

/-! ### Many values -/

/-- The entries with new ones stored among them one after the other. -/
def storeAll (new entries : List (PathEntry α)) : List (PathEntry α) :=
  new.foldl (fun entries entry => insertEntry entry entries) entries

section StoreAll

variable {new entries : List (PathEntry α)} {first : PathEntry α}

/-- Of the values for one key the last one can be stored alone, after those for other keys. -/
theorem exists_last (first : PathEntry α) (new : List (PathEntry α)) :
    ∃ last, last.key = first.key ∧ ∀ entries, storeAll new (insertEntry first entries) =
      insertEntry last (storeAll (new.filter (·.key != first.key)) entries) := by
  induction new generalizing first with
  | nil => exact ⟨first, rfl, fun _ => rfl⟩
  | cons second rest ih =>
      by_cases same : first.key = second.key
      · obtain ⟨last, key, stored⟩ := ih { first with value := second.value }
        refine ⟨last, key, fun entries => ?_⟩
        have left : (second :: rest).filter (·.key != first.key) = rest.filter (·.key != first.key) :=
          List.filter_cons_of_neg (by simp [same])
        rw [left, ← stored, ← insertEntry_insertEntry same]
        rfl
      · obtain ⟨last, key, stored⟩ := ih first
        refine ⟨last, key, fun entries => ?_⟩
        have kept : (second :: rest).filter (·.key != first.key) =
            second :: rest.filter (·.key != first.key) := List.filter_cons_of_pos (by simpa using Ne.symm same)
        rw [kept]
        exact (congrArg (storeAll rest) (insertEntry_comm same entries)).trans (stored (insertEntry second entries))

theorem storeAll_insertEntry (apart : ∀ entry ∈ new, first.key ≠ entry.key) (entries : List (PathEntry α)) :
    storeAll new (insertEntry first entries) = insertEntry first (storeAll new entries) := by
  induction new generalizing entries with
  | nil => rfl
  | cons second rest ih =>
      obtain ⟨differ, others⟩ := List.forall_mem_cons.mp apart
      exact (congrArg (storeAll rest) (insertEntry_comm differ entries)).trans (ih others _)

/-- Storing the same values again changes nothing. -/
theorem storeAll_storeAll (new entries : List (PathEntry α)) :
    storeAll new (storeAll new entries) = storeAll new entries := by
  match new with
  | [] => rfl
  | first :: rest =>
      obtain ⟨last, key, stored⟩ := exists_last first rest
      let others := rest.filter (·.key != first.key)
      have again : storeAll others (storeAll others entries) = storeAll others entries :=
        storeAll_storeAll others entries
      have apart : ∀ entry ∈ others, last.key ≠ entry.key := by
        intro entry member
        have differ := bne_iff_ne.mp (List.mem_filter.mp member).2
        exact fun same => differ (same.symm.trans key)
      calc storeAll (first :: rest) (storeAll (first :: rest) entries)
          = insertEntry last (storeAll others (insertEntry last (storeAll others entries))) := by
            rw [← stored entries]
            exact stored _
        _ = insertEntry last (storeAll others entries) := by
            rw [storeAll_insertEntry apart, again]
            exact insertEntry_insertEntry rfl _
        _ = storeAll (first :: rest) entries := (stored entries).symm
termination_by new.length
decreasing_by
  have fewer := List.length_filter_le (·.key != first.key) rest
  rw [List.length_cons]
  exact Nat.lt_succ_of_le fewer

/-- Storing values leaves the entries of every other key as they are. -/
theorem filter_storeAll {key : List PathPart} (apart : ∀ entry ∈ new, entry.key ≠ key)
    (entries : List (PathEntry α)) :
    (storeAll new entries).filter (·.key == key) = entries.filter (·.key == key) := by
  induction new generalizing entries with
  | nil => rfl
  | cons first rest ih =>
      obtain ⟨differ, others⟩ := List.forall_mem_cons.mp apart
      exact (ih others _).trans (filter_insertEntry differ entries)

end StoreAll

end PathMap

/-! ### Calls to memory -/

/-- The entry of the directory that the call creates. -/
def Call.directoryEntry? : Call → Option (PathEntry Unit)
  | .createDirectory path => some ⟨parts path, path, ()⟩
  | .writeFile .. => none

/-- The entry of the file that the call writes. -/
def Call.fileEntry? : Call → Option (PathEntry String)
  | .createDirectory _ => none
  | .writeFile path text => some ⟨parts path, path, text⟩

namespace Memory

variable {calls : List Call} {memory next final : Memory} {path : String}

/-- What calls make of the memory if all are accepted. -/
def after (calls : List Call) (memory : Memory) : Memory where
  directories := ⟨PathMap.storeAll (calls.filterMap Call.directoryEntry?) memory.directories.entries⟩
  files := ⟨PathMap.storeAll (calls.filterMap Call.fileEntry?) memory.files.entries⟩

/-- Calls that are made again make nothing new of the memory. -/
theorem after_after (calls : List Call) (memory : Memory) :
    after calls (after calls memory) = after calls memory := by
  simp only [after, PathMap.storeAll_storeAll]

/-- Files are admitted where there are at least the same directories. -/
theorem admits_mono
    (more : ∀ key, memory.directories.containsKey key = true → next.directories.containsKey key = true)
    (admitted : memory.admits path = true) : next.admits path = true := by
  unfold admits at admitted ⊢
  cases lies : parentParts? path with
  | none => rfl
  | some parent =>
      rw [lies] at admitted
      cases parent with
      | nil => rfl
      | cons part rest => exact more _ admitted

theorem containsKey_createDirectory {key : List PathPart} (present : memory.directories.containsKey key = true)
    (path : String) : (memory.createDirectory path).directories.containsKey key = true := by
  rw [createDirectory, PathMap.containsKey_insert, present, Bool.or_true]

/-- A file is written where it is admitted, and nowhere else. -/
theorem answer_writeFile (memory : Memory) (path text : String) :
    store.answer (.writeFile path text) memory =
      if memory.admits path then (.ok (), { memory with files := memory.files.insert path text })
      else (.error (.writeFile path .missingParent), memory) := by
  simp only [Store.answer, store, Memory.writeFile]
  cases memory.admits path <;> rfl

/-- Calls that are accepted make of the memory what they make of it if all are accepted, and it then admits every
    file that they write. -/
theorem eq_after_of_perform (performs : store.perform calls memory = (.ok (), final)) :
    final = after calls memory ∧
      (∀ key, memory.directories.containsKey key = true → final.directories.containsKey key = true) ∧
      ∀ path text, .writeFile path text ∈ calls → final.admits path = true := by
  induction calls generalizing memory with
  | nil =>
      cases performs
      exact ⟨rfl, fun _ => id, fun _ _ member => nomatch member⟩
  | cons call rest ih =>
      cases call with
      | createDirectory path =>
          have accepted : store.answer (.createDirectory path) memory = (.ok (), memory.createDirectory path) := rfl
          rw [Store.perform_cons_ok accepted] at performs
          obtain ⟨same, more, admitted⟩ := ih performs
          refine ⟨same, fun key present => more key (containsKey_createDirectory present path), ?_⟩
          intro other text member
          exact admitted other text (by simpa using member)
      | writeFile path text =>
          by_cases here : memory.admits path = true
          · have accepted := answer_writeFile memory path text
            rw [if_pos here] at accepted
            rw [Store.perform_cons_ok accepted] at performs
            obtain ⟨same, more, admitted⟩ := ih performs
            refine ⟨same, more, ?_⟩
            intro other content member
            rcases List.mem_cons.mp member with first | later
            · cases first
              exact admits_mono more here
            · exact admitted other content later
          · have refused := answer_writeFile memory path text
            rw [if_neg here] at refused
            rw [Store.perform_cons_error refused] at performs
            cases performs

/-- Calls are accepted where every file that they write is admitted from the beginning. -/
theorem perform_of_admits (admitted : ∀ path text, .writeFile path text ∈ calls → memory.admits path = true) :
    store.perform calls memory = (.ok (), after calls memory) := by
  induction calls generalizing memory with
  | nil => rfl
  | cons call rest ih =>
      cases call with
      | createDirectory path =>
          refine (Store.perform_cons_ok rfl).trans (ih fun other text member => ?_)
          have before := admitted other text (List.mem_cons_of_mem _ member)
          exact admits_mono (fun key present => containsKey_createDirectory present path) before
      | writeFile path text =>
          have accepted := answer_writeFile memory path text
          rw [if_pos (admitted path text List.mem_cons_self)] at accepted
          refine (Store.perform_cons_ok accepted).trans (ih fun other content member => ?_)
          exact admitted other content (List.mem_cons_of_mem _ member)

/-- Calls that have been accepted are accepted again, and then change nothing. -/
theorem perform_again (performs : store.perform calls memory = (.ok (), final)) :
    store.perform calls final = (.ok (), final) := by
  obtain ⟨same, -, admitted⟩ := eq_after_of_perform performs
  rw [perform_of_admits admitted, same, after_after]

end Memory

end Blueprint.Output
