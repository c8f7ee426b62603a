import ControlPanel.Proofs.Command.Run
import ControlPanel.Proofs.Storage.Growth

namespace ControlPanel.Command

open FileAccess

section

variable {σ : Type} [FileAccess (StateM σ)] {path : String} {s s' : σ} {d : Document}

theorem writeText_ne_project {text p : String} {e : ProjectError} :
    ProjectFile.writeText (m := StateM σ) path text s ≠ (.error ⟨p, .project e⟩, s') := by
  intro h
  have hputs := putsText path text s
  rw [h] at hputs
  cases hputs

theorem save_eq_project_error_iff {p : String} {e : ProjectError} :
    ProjectFile.save (m := StateM σ) path d s = (.error ⟨p, .project e⟩, s') ↔
      p = path ∧ d.save = .error e ∧ s' = s := by
  rw [ProjectFile.save]
  cases hsave : d.save with
  | error e' =>
      constructor
      · intro h
        cases h
        exact ⟨rfl, rfl, rfl⟩
      · rintro ⟨rfl, he, rfl⟩
        cases he
        rfl
  | ok text =>
      constructor
      · intro h
        exact absurd h writeText_ne_project
      · rintro ⟨-, he, -⟩
        cases he

end

variable {path : String} {s s' : Storage} {d : Document}

theorem exists_of_save (h : ProjectFile.save (m := StateM Storage) path d s = (.ok (), s')) :
    ∃ text s₁, d.save = .ok text ∧ s.Grows s₁ ∧
      writeText (m := StateM Storage) path text s₁ = (.ok (), s') := by
  rw [ProjectFile.save] at h
  cases hsave : d.save with
  | error e =>
      rw [hsave] at h
      cases h
  | ok text =>
      rw [hsave] at h
      obtain ⟨s₁, hmade, hwrite⟩ := exists_of_writeText h
      refine ⟨text, s₁, rfl, ?_, hwrite⟩
      rcases hmade with rfl | ⟨directory, hmade⟩
      · exact .refl s₁
      · have hadds := Storage.onlyAdds_makeDirectories directory s
        rw [hmade] at hadds
        exact hadds

theorem load_of_save (h : ProjectFile.save (m := StateM Storage) path d s = (.ok (), s')) :
    ProjectFile.load (m := StateM Storage) path s' = (.ok d, s') := by
  obtain ⟨text, s₁, hsave, -, hwrite⟩ := exists_of_save h
  have hd := Document.savable_of_save hsave
  rw [hd.save_eq] at hsave
  cases hsave
  exact load_eq_ok_iff.mpr ⟨_, Storage.readsAs_of_writeText hwrite, hd.load_pretty⟩

theorem sameOrMade_of_save (h : ProjectFile.save (m := StateM Storage) path d s = (.ok (), s')) :
    ∃ place, s'.locate path = .ok place ∧ ∀ q, q ≠ place → s.SameOrMade s' q := by
  obtain ⟨text, s₁, -, hgrows, hwrite⟩ := exists_of_save h
  obtain ⟨place, hplace, hrest⟩ := Storage.exists_place_of_writeText hwrite
  refine ⟨place, hplace, fun q hq => ?_⟩
  rw [Storage.SameOrMade, hrest q hq]
  exact hgrows q

/-- A save is refused on account of the document exactly if the document has no saved text, and
then the storage is as before. After a save the document loads from its file, and everywhere else
stands what stood there, or a new directory where nothing stood. A new project is not made where
something is. -/
theorem save_all_or_nothing (s : Storage) (path : String) (d : Document) :
    (∀ p e s', ProjectFile.save (m := StateM Storage) path d s = (.error ⟨p, .project e⟩, s') ↔
      p = path ∧ d.save = .error e ∧ s' = s) ∧
    (∀ s', ProjectFile.save (m := StateM Storage) path d s = (.ok (), s') →
      ProjectFile.load (m := StateM Storage) path s' = (.ok d, s') ∧
        ∃ place, s'.locate path = .ok place ∧ ∀ q, q ≠ place → s.SameOrMade s' q) ∧
    ∀ (settings : Settings) (millis : Int) (given : Option String) (place : List String),
      given.getD (Path.join (settings.projectsDirectory.getD "") (ProjectFile.nameAt millis)) =
        path → s.locate path = .ok place →
      newProject (m := StateM Storage) settings millis given s =
        (.error (.alreadyExists path), s) := by
  refine ⟨fun p e s' => save_eq_project_error_iff,
    fun s' h => ⟨load_of_save h, sameOrMade_of_save h⟩,
    fun settings millis given place hgiven hplace => ?_⟩
  exact newProject_of_contains (Storage.contains_of_locate hplace) hgiven

/-- A storage with one file, at its root. -/
def shelf : Storage where
  entries := [(["notes.txt"], .file (.text "Buy milk"))]

/-- A document with one slider that starts from the given number. -/
def startingFrom (min : Binary64) : Document where
  tabs := [⟨⟨"a"⟩, "Main", "",
    [⟨⟨"s"⟩, "Speed", .slider { Control.freshSlider with min }⟩]⟩]

theorem save_all_or_nothing_shelf :
    ProjectFile.save (m := StateM Storage) hubPath (startingFrom ⟨0xFFF0000000000000⟩) shelf =
      (.error ⟨hubPath, .project (.notFinite ⟨"s"⟩ .min)⟩, shelf) ∧
    ∃ s, ProjectFile.save (m := StateM Storage) hubPath (startingFrom ⟨0⟩) shelf = (.ok (), s) ∧
      ProjectFile.load (m := StateM Storage) hubPath s = (.ok (startingFrom ⟨0⟩), s) ∧
      s.entry? ["notes.txt"] = some (.file (.text "Buy milk")) ∧
      newProject (m := StateM Storage) {} 0 (some hubPath) s =
        (.error (.alreadyExists hubPath), s) := by
  obtain ⟨hrefused, -, -⟩ :=
    save_all_or_nothing shelf hubPath (startingFrom ⟨0xFFF0000000000000⟩)
  obtain ⟨-, hsaved, -⟩ := save_all_or_nothing shelf hubPath (startingFrom ⟨0⟩)
  refine ⟨(hrefused _ _ _).mpr ⟨rfl, rfl, rfl⟩, ?_⟩
  rcases hsave : ProjectFile.save (m := StateM Storage) hubPath (startingFrom ⟨0⟩) shelf with ⟨r, s⟩
  have hr : (ProjectFile.save (m := StateM Storage) hubPath (startingFrom ⟨0⟩) shelf).1.toOption =
      some () := by
    decide +kernel
  have hplace : Storage.locate (ProjectFile.save (m := StateM Storage) hubPath
      (startingFrom ⟨0⟩) shelf).2 hubPath = .ok ["projects", "hub.json"] := rfl
  rw [hsave] at hr hplace
  cases r with
  | error e => cases hr
  | ok =>
      obtain ⟨hload, place, hlocate, hkept⟩ := hsaved s hsave
      obtain ⟨-, -, hnew⟩ := save_all_or_nothing s hubPath (startingFrom ⟨0⟩)
      cases hplace.symm.trans hlocate
      refine ⟨s, rfl, hload, ?_, hnew {} 0 (some hubPath) _ rfl hplace⟩
      rcases hkept ["notes.txt"] (by decide) with hsame | ⟨hnone, -⟩
      · exact hsame
      · cases hnone

end ControlPanel.Command
