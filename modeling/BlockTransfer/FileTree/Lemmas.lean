/-
BlockTransfer.FileTree.Lemmas — what is found after a file was put somewhere.

A file can be put where no directory is, and then it is found there and all
else is as it was (`at?_put_self`, `at?_put_of_ne`). A walk asks only whether
there are directories on its way, and those all stay, so every walk leads where
it led before (`walk_of_directories`). A path that can be opened for writing
therefore leads to what was put at its location (`read_put`).
-/
import BlockTransfer.FileTree

namespace BlockTransfer.FileTree

variable {tree grown : FileTree} {location other : Location} {entry : Entry}

/-! ## What is at a location -/

/-- Only directories are always there. -/
theorem isGiven_of_at? (h : tree.at? location ≠ some .directory) : isGiven location = false := by
  rw [Bool.eq_false_iff]
  intro hgiven
  exact h (by rw [at?, if_pos hgiven])

theorem at?_put_self (h : isGiven location = false) (tree : FileTree) (entry : Entry) :
    (tree.put location entry).at? location = some entry := by
  simp [at?, put, h]

theorem at?_put_of_ne (h : other ≠ location) (tree : FileTree) (entry : Entry) :
    (tree.put location entry).at? other = tree.at? other := by
  have hfind : (tree.put location entry).entries.find? (·.1 = other) =
      tree.entries.find? (·.1 = other) := by
    rw [put, List.find?_cons_of_neg (by simpa using h.symm), List.find?_filter]
    congr 1
    funext found
    by_cases hother : found.1 = other
    · simp [hother, h]
    · simp [hother]
  rw [at?, at?, hfind]

/-- Putting something at a location twice leaves what was put last. -/
theorem put_put (tree : FileTree) (location : Location) (first second : Entry) :
    (tree.put location first).put location second = tree.put location second := by
  simp [put, List.filter_filter]

/-! ## Walks -/

/-- A walk leads to the same place when all directories are still there. -/
theorem walk_of_directories
    (hgrown : ∀ here, tree.at? here = some .directory → grown.at? here = some .directory)
    {here : Location} {names : List String} (h : tree.walk here names = .ok location) :
    grown.walk here names = .ok location := by
  induction names generalizing here with
  | nil => exact h
  | cons name names ih =>
    rw [walk] at h ⊢
    split at h
    · cases h
    · cases h
    · next hdirectory =>
      rw [hgrown here hdirectory]
      dsimp only
      split at h
      · cases h
      · next hname =>
        rw [if_neg hname]
        exact ih h

/-- Where a file can be put is where the path leads to. -/
theorem locate_of_locateFile {path : String} (h : tree.locateFile path = .ok location) :
    tree.locate path = .ok location := by
  unfold locateFile at h
  unfold locate
  split at h
  · cases h
  · split at h
    · split at h <;> cases h
    · exact h

/-! ## Paths that lead somewhere -/

theorem contains_of_open? {path : String} {found : Location × Entry}
    (h : tree.open? path = .ok found) : tree.contains path = true := by
  rw [contains, h]

/-- A text is read from where there is something. -/
theorem contains_of_readText {path text : String} (h : tree.readText path = .ok text) :
    tree.contains path = true := by
  unfold readText read at h
  cases hopen : tree.open? path with
  | error fault =>
    rw [hopen] at h
    cases h
  | ok found => exact contains_of_open? hopen

/-! ## Putting a file where a path leads to -/

section

variable {path : String} {content new : ByteArray}

/-- A path can be opened for writing when it leads to a file, or to where
nothing is. -/
theorem openOrCreate_eq_ok_iff :
    tree.openOrCreate path = .ok (location, content) ↔
      tree.locateFile path = .ok location ∧
        (tree.at? location = some (.file content) ∨
          tree.at? location = none ∧ content = ByteArray.empty) := by
  unfold openOrCreate
  cases tree.locateFile path with
  | error fault => simp
  | ok there =>
    dsimp only
    cases hat : tree.at? there with
    | none =>
      simp only [Except.ok.injEq, Prod.mk.injEq]
      constructor
      · rintro ⟨rfl, rfl⟩
        exact ⟨rfl, .inr ⟨hat, rfl⟩⟩
      · rintro ⟨rfl, hfile | ⟨_, rfl⟩⟩
        · rw [hat] at hfile
          cases hfile
        · exact ⟨rfl, rfl⟩
    | some found =>
      cases found with
      | directory =>
        simp only [reduceCtorEq, Except.ok.injEq, false_iff]
        rintro ⟨rfl, h | ⟨h, _⟩⟩ <;> simp [hat] at h
      | file held =>
        simp only [Except.ok.injEq, Prod.mk.injEq]
        constructor
        · rintro ⟨rfl, rfl⟩
          exact ⟨rfl, .inl hat⟩
        · rintro ⟨rfl, h | ⟨h, _⟩⟩
          · simpa [hat] using h
          · simp [hat] at h

theorem openOrCreate_place (h : tree.openOrCreate path = .ok (location, content)) :
    tree.locate path = .ok location ∧ tree.at? location ≠ some .directory := by
  obtain ⟨hlocate, hfile | ⟨hnone, _⟩⟩ := openOrCreate_eq_ok_iff.mp h
  · exact ⟨locate_of_locateFile hlocate, by simp [hfile]⟩
  · exact ⟨locate_of_locateFile hlocate, by simp [hnone]⟩

/-- The path leads to what was put there. -/
theorem read_put (h : tree.openOrCreate path = .ok (location, content)) (new : ByteArray) :
    (tree.put location (.file new)).read path = .ok new := by
  obtain ⟨hlocate, hplace⟩ := openOrCreate_place h
  have hself := at?_put_self (isGiven_of_at? hplace) tree (.file new)
  have hwalk : (tree.put location (.file new)).locate path = .ok location := by
    unfold locate at hlocate ⊢
    split at hlocate
    · cases hlocate
    · refine walk_of_directories (fun here hhere => ?_) hlocate
      have hne : here ≠ location := by
        rintro rfl
        exact hplace hhere
      rw [at?_put_of_ne hne, hhere]
  simp only [read, open?, hwalk, hself]

end

end BlockTransfer.FileTree
