import ControlPanel.Proofs.Storage.Access

namespace ControlPanel.Storage

variable {s s' s'' : Storage} {path : String}

/-- At a place stands what stood there before, or a new directory where nothing stood. -/
def SameOrMade (s s' : Storage) (place : List String) : Prop :=
  s'.entry? place = s.entry? place ∨ s.entry? place = none ∧ s'.entry? place = some .directory

/-- Nothing has changed but that there may be new directories. -/
def Grows (s s' : Storage) : Prop :=
  ∀ place, s.SameOrMade s' place

theorem Grows.refl (s : Storage) : s.Grows s :=
  fun _ => .inl rfl

theorem Grows.trans (h : s.Grows s') (h' : s'.Grows s'') : s.Grows s'' := by
  intro place
  rcases h' place with hsame' | ⟨hnone', hmade'⟩
  · rcases h place with hsame | ⟨hnone, hmade⟩
    · exact .inl (hsame'.trans hsame)
    · exact .inr ⟨hnone, hsame'.trans hmade⟩
  · rcases h place with hsame | ⟨-, hmade⟩
    · exact .inr ⟨hsame.symm.trans hnone', hmade'⟩
    · rw [hmade] at hnone'
      cases hnone'

theorem exists_of_makeDirectory (h : s.makeDirectory path = .ok s') :
    ∃ place, s.entry? place = none ∧ s' = s.insert place .directory := by
  obtain ⟨-, -, h⟩ := Outcome.bind_eq_ok_iff.mp h
  dsimp only at h
  split at h
  · cases h
  · obtain ⟨place, -, h⟩ := Outcome.bind_eq_ok_iff.mp h
    split at h
    · cases h
    split at h
    · cases h
    split at h
    · cases h
    · rename_i hsome
      cases h
      exact ⟨_, by simpa using hsome, rfl⟩

theorem grows_of_makeDirectory (h : s.makeDirectory path = .ok s') : s.Grows s' := by
  obtain ⟨place, hnone, rfl⟩ := exists_of_makeDirectory h
  have hplace : place ≠ [] := by
    rintro rfl
    cases hnone
  intro q
  rw [SameOrMade, entry?_insert hplace]
  split
  · rename_i hq
    rw [hq]
    exact .inr ⟨hnone, rfl⟩
  · exact .inl rfl

/-- Whatever it gives in the end, the computation adds nothing but directories. -/
def OnlyAdds {α : Type} (x : StateM Storage α) : Prop :=
  ∀ s : Storage, s.Grows (x s).2

section OnlyAdds

variable {α β : Type}

theorem onlyAdds_pure (a : α) : OnlyAdds (pure a) :=
  Grows.refl

theorem OnlyAdds.bind {x : StateM Storage α} {f : α → StateM Storage β} (hx : OnlyAdds x)
    (hf : ∀ a, OnlyAdds (f a)) : OnlyAdds (x >>= f) :=
  fun s => (hx s).trans (hf _ _)

theorem onlyAdds_makeDirectory (path : String) :
    OnlyAdds (FileAccess.makeDirectory (m := StateM Storage) path) := by
  intro s
  change s.Grows (attempt (fun s => s.makeDirectory path) s).2
  cases h : s.makeDirectory path with
  | error e =>
      rw [attempt_of_error h]
      exact .refl s
  | ok s' =>
      rw [attempt_eq_ok_iff.mpr h]
      exact grows_of_makeDirectory h

theorem onlyAdds_isDirectory (path : String) :
    OnlyAdds (FileAccess.isDirectory (m := StateM Storage) path) := by
  refine OnlyAdds.bind (fun s => .refl s) fun r => ?_
  split <;> exact onlyAdds_pure _

theorem onlyAdds_unlessDirectory (path : String) (e : StorageError) :
    OnlyAdds (do
      if ← FileAccess.isDirectory (m := StateM Storage) path then pure (Except.ok ())
      else pure (Except.error e)) := by
  refine (onlyAdds_isDirectory path).bind fun isDirectory => ?_
  cases isDirectory <;> exact onlyAdds_pure _

theorem onlyAdds_makeDirectoriesUp (rooted : Bool) (names : List String) :
    OnlyAdds (FileAccess.makeDirectoriesUp (m := StateM Storage) rooted names) := by
  induction names with
  | nil => exact onlyAdds_pure _
  | cons name up ih =>
      refine (onlyAdds_makeDirectory _).bind fun made => ?_
      split
      · exact onlyAdds_pure _
      -- The directory above is missing: it is made first, and then this one is tried again.
      · refine ih.bind fun above => ?_
        cases above with
        | error e => exact onlyAdds_pure _
        | ok =>
            refine (onlyAdds_makeDirectory _).bind fun again => ?_
            cases again with
            | ok => exact onlyAdds_pure _
            | error e => exact onlyAdds_unlessDirectory _ e
      · exact onlyAdds_unlessDirectory _ _

theorem onlyAdds_makeDirectories (path : String) :
    OnlyAdds (FileAccess.makeDirectories (m := StateM Storage) path) :=
  onlyAdds_makeDirectoriesUp _ _

end OnlyAdds

theorem exists_place_of_writeText {text : String}
    (h : FileAccess.writeText (m := StateM Storage) path text s = (.ok (), s')) :
    ∃ place, s'.locate path = .ok place ∧ ∀ q, q ≠ place → s'.entry? q = s.entry? q := by
  obtain ⟨place, name, hspot, rfl⟩ := writeFile_eq_ok_iff.mp (attempt_eq_ok_iff.mp h)
  refine ⟨_, hspot.locate_insert _, fun q hq => ?_⟩
  rw [entry?_insert (by simp), if_neg hq]

end ControlPanel.Storage
