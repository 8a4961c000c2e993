import StarSurvey.Proofs.FileTree
import StarSurvey.SnapshotFile

/-!
# A snapshot is saved whole or not at all

Whether a snapshot can be saved hangs on the tree and the path alone (`save_of_canReplace`,
`save_of_not_canReplace`): a file can be put there, and then that is all that changes, or something
hinders it, and then nothing does.
-/

namespace StarSurvey.Snapshot

open FileTree

variable {t : FileTree} {path : String} {l : Location}

/-- Where a file can be put the snapshot is there, readable for everybody, and nothing else has
changed. -/
theorem save_of_canReplace (s : Snapshot) (h : CanReplace t path l) :
    s.save t path = (t.set l (.file 0o644 s.fileBytes), .ok ()) ∧
      (s.save t path).1.find path = .ok (.file 0o644 s.fileBytes) ∧
      (s.save t path).1.get? l = some (.file 0o644 s.fileBytes) ∧
      ∀ k, k ≠ l → (s.save t path).1.get? k = t.get? k := by
  have hsave : s.save t path = (t.set l (.file 0o644 s.fileBytes), .ok ()) :=
    replace_of_canReplace h s.fileBytes
  rw [hsave]
  exact ⟨rfl, find_set_of_canHold h.canHold _ _, get?_set_self t h.canHold.ne_nil _,
    fun k hk => get?_set_of_ne t hk _⟩

/-- Elsewhere the tree stays as it was, and what is said names the path and what hinders. -/
theorem save_of_not_canReplace (s : Snapshot) (h : ¬ ∃ l, CanReplace t path l) :
    ∃ fault, t.Hinders path fault ∧ s.save t path = (t, .error fault) ∧
      ∀ workingDirectory tag, saveMessage workingDirectory tag path fault =
        "failed to write " ++ path ++ ": " ++ fault.message workingDirectory tag := by
  obtain ⟨fault, hfault, hr⟩ := exists_hinders h s.fileBytes
  exact ⟨fault, hfault, hr, fun _ _ => rfl⟩

/-- A snapshot is in its file, whole and readable for everybody, and nothing else has changed; or it
is not saved, and nothing has changed at all. -/
theorem save_all_or_nothing (s : Snapshot) (t : FileTree) (path : String) :
    (∃ l, CanReplace t path l ∧
      s.save t path = (t.set l (.file 0o644 s.fileBytes), .ok ()) ∧
      (s.save t path).1.find path = .ok (.file 0o644 s.fileBytes) ∧
      (s.save t path).1.get? l = some (.file 0o644 s.fileBytes) ∧
      ∀ k, k ≠ l → (s.save t path).1.get? k = t.get? k) ∨
    ((¬ ∃ l, CanReplace t path l) ∧
      ∃ fault, t.Hinders path fault ∧ s.save t path = (t, .error fault) ∧
        ∀ workingDirectory tag, saveMessage workingDirectory tag path fault =
          "failed to write " ++ path ++ ": " ++ fault.message workingDirectory tag) := by
  by_cases h : ∃ l, CanReplace t path l
  · obtain ⟨l, hl⟩ := h
    exact .inl ⟨l, hl, save_of_canReplace s hl⟩
  · exact .inr ⟨h, save_of_not_canReplace s h⟩

end StarSurvey.Snapshot
