import ControlPanel.Proofs.Command.Edit
import ControlPanel.Proofs.Storage.Access

namespace ControlPanel.Command

open FileAccess

variable {σ : Type} [FileAccess (StateM σ)]

/-- Does what a command does and forgets what it prints. -/
def quietly {α : Type} (x : StateM σ (Except CommandError α)) :
    StateM σ (Except CommandError Unit) := do
  let r ← x
  pure (r.map fun _ => ())

/-- What a command does to the files. A script is printed and not written. -/
def Action.run (path : String) : Action → StateM σ (Except CommandError Unit)
  | .addTab id name icon => quietly (Command.addTab path id name icon)
  | .addWidget selector id kind name => quietly (Command.addWidget path selector id kind name)
  | .addPreset selector id key => quietly (Command.addPreset path selector id key)
  | .removeTab selector => quietly (Command.removeTab path selector)
  | .removeWidget selector widget => quietly (Command.removeWidget path selector widget)
  | .check settings => quietly (Command.check settings path)
  | .compile settings =>
    quietly (Command.compile { settings with outputDirectory := none } path none)

/-- The files and the document in memory that runs on a path lead to, after a project was made
there. -/
inductive Reached (path : String) : σ → Document → Prop
  | created {settings : Settings} {millis : Int} {given : Option String} {s s' : σ}
      (h : newProject (m := StateM σ) settings millis given s = (.ok path, s')) :
      Reached path s' {}
  | after {s : σ} {d : Document} (a : Action) : Reached path s d → a.IsFresh d →
      Reached path (a.run path s).2 (a.after d)

/-- The file at the path holds the saved text of the document, which can be saved. -/
structure Holds (path : String) (s : σ) (d : Document) : Prop where
  savable : d.Savable
  reads : ReadsAs s path d.toJson.pretty

/-- A command does what an edit of the document does: it fails as the edit does and changes nothing,
or the file then holds the document that the edit gives. -/
structure Refines {α : Type} (path : String) (s : σ) (x : StateM σ (Except CommandError α))
    (r : Except CommandError Document) : Prop where
  failed : ∀ e, r = .error e → x s = (.error e, s)
  edited : ∀ d, r = .ok d → ∃ a s', x s = (.ok a, s') ∧ Holds path s' d

section

variable {path : String} {s : σ} {d d' : Document} {α β : Type}

theorem refines_error {x : StateM σ (Except CommandError α)} {e : CommandError}
    (hx : x s = (.error e, s)) : Refines path s x (.error e) where
  failed e' he := by
    cases he
    exact hx
  edited d hd := by cases hd

theorem refines_ok {x : StateM σ (Except CommandError α)} {a : α} {s' : σ}
    (hx : x s = (.ok a, s')) (h : Holds path s' d) : Refines path s x (.ok d) where
  failed e he := by cases he
  edited d' hd := by
    cases hd
    exact ⟨a, s', hx, h⟩

/-- What follows a command without looking at the files does not matter. -/
theorem Refines.bind {x : StateM σ (Except CommandError α)} {r : Except CommandError Document}
    (h : Refines path s x r) {f : Except CommandError α → StateM σ (Except CommandError β)}
    (hfailed : ∀ e, f (.error e) = pure (.error e))
    (hgiven : ∀ a, ∃ b, f (.ok a) = pure (.ok b)) : Refines path s (x >>= f) r where
  failed e he := by
    rw [bind_apply, h.failed e he, hfailed]
    rfl
  edited d hd := by
    obtain ⟨a, s', hx, hholds⟩ := h.edited d hd
    obtain ⟨b, hb⟩ := hgiven a
    refine ⟨b, s', ?_, hholds⟩
    rw [bind_apply, hx, hb]
    rfl

theorem Refines.quietly {x : StateM σ (Except CommandError α)} {r : Except CommandError Document}
    (h : Refines path s x r) : Refines path s (quietly x) r :=
  h.bind (fun _ => rfl) fun _ => ⟨(), rfl⟩

theorem load_eq_ok_iff {s' : σ} :
    ProjectFile.load (m := StateM σ) path s = (.ok d, s') ↔
      ∃ text, FileAccess.readText (m := StateM σ) path s = (.ok text, s') ∧
        Document.load text = .ok d := by
  rw [ProjectFile.load, bind_apply]
  rcases FileAccess.readText (m := StateM σ) path s with ⟨e | text, s₁⟩
  · constructor
    · intro h
      cases h
    · rintro ⟨text, h, -⟩
      cases h
  · dsimp only
    cases hload : Document.load text with
    | error e =>
        constructor
        · intro h
          cases h
        · rintro ⟨text', h, htext'⟩
          cases h
          rw [hload] at htext'
          cases htext'
    | ok d₁ =>
        constructor
        · intro h
          cases h
          exact ⟨text, rfl, hload⟩
        · rintro ⟨text', h, htext'⟩
          cases h
          rw [hload] at htext'
          cases htext'
          rfl

theorem Holds.load (h : Holds path s d) :
    ProjectFile.load (m := StateM σ) path s = (.ok d, s) :=
  load_eq_ok_iff.mpr ⟨_, h.reads, h.savable.load_pretty⟩

theorem openProject_of_load (h : ProjectFile.load (m := StateM σ) path s = (.ok d, s)) :
    openProject (m := StateM σ) path s = (.ok (.ofDocument d), s) := by
  rw [openProject, bind_apply, h]
  rfl

theorem writeText_eq {text : String} {s' : σ}
    (hdirectories : ∀ directory ∈ Path.parent? path, directory ≠ "" →
      makeDirectories (m := StateM σ) directory s = (.ok (), s))
    (hwrite : writeText (m := StateM σ) path text s = (.ok (), s')) :
    ProjectFile.writeText (m := StateM σ) path text s = (.ok (), s') := by
  have hput : ∀ {f : Except StorageError Unit → StateM σ (Except FileError Unit)},
      f (.ok ()) = pure (.ok ()) → (∀ e s, (f (.error e) s).1 ≠ .ok ()) →
      (writeText (m := StateM σ) path text >>= f) s = (.ok (), s') :=
    fun hok herror => (passed_eq_ok_iff hok herror).mpr hwrite
  rw [ProjectFile.writeText]
  cases hparent : Path.parent? path with
  | none => exact hput rfl nofun
  | some directory =>
      by_cases hempty : directory = ""
      · simp only [hempty, if_true]
        exact hput rfl nofun
      · simp only [hempty, if_false]
        rw [bind_apply, hdirectories directory hparent hempty]
        exact hput rfl nofun

/-- What putting a text into a file comes to. Either the directories above the file cannot be made,
or the text is written or refused once they are there. -/
inductive PutsText (path text : String) (s : σ) : Except FileError Unit × σ → Prop
  | noDirectory {directory : String} {e : StorageError} {s' : σ}
      (hmake : makeDirectories (m := StateM σ) directory s = (.error e, s')) :
      PutsText path text s (.error ⟨directory, .storage e⟩, s')
  | refused {e : StorageError} {s₁ s' : σ}
      (hmade : s₁ = s ∨ ∃ directory, makeDirectories (m := StateM σ) directory s = (.ok (), s₁))
      (hwrite : writeText (m := StateM σ) path text s₁ = (.error e, s')) :
      PutsText path text s (.error ⟨path, .storage e⟩, s')
  | written {s₁ s' : σ}
      (hmade : s₁ = s ∨ ∃ directory, makeDirectories (m := StateM σ) directory s = (.ok (), s₁))
      (hwrite : writeText (m := StateM σ) path text s₁ = (.ok (), s')) :
      PutsText path text s (.ok (), s')

theorem putsText_of_made {text : String} {s₁ : σ}
    (hmade : s₁ = s ∨ ∃ directory, makeDirectories (m := StateM σ) directory s = (.ok (), s₁))
    {f : Except StorageError Unit → StateM σ (Except FileError Unit)}
    (herror : ∀ e, f (.error e) = pure (.error ⟨path, .storage e⟩))
    (hok : f (.ok ()) = pure (.ok ())) :
    PutsText path text s ((writeText (m := StateM σ) path text >>= f) s₁) := by
  rw [bind_apply]
  rcases hwrite : writeText (m := StateM σ) path text s₁ with ⟨e | ⟨⟩, s'⟩
  · rw [herror]
    exact .refused hmade hwrite
  · rw [hok]
    exact .written hmade hwrite

theorem putsText (path text : String) (s : σ) :
    PutsText path text s (ProjectFile.writeText (m := StateM σ) path text s) := by
  rw [ProjectFile.writeText]
  cases Path.parent? path with
  | none => exact putsText_of_made (.inl rfl) (fun _ => rfl) rfl
  | some directory =>
      by_cases hempty : directory = ""
      · simp only [hempty, if_true]
        exact putsText_of_made (.inl rfl) (fun _ => rfl) rfl
      · simp only [hempty, if_false]
        rw [bind_apply]
        rcases hmake : makeDirectories (m := StateM σ) directory s with ⟨e | ⟨⟩, s₁⟩
        · exact .noDirectory hmake
        · exact putsText_of_made (.inr ⟨directory, hmake⟩) (fun _ => rfl) rfl

theorem exists_of_writeText {text : String} {s' : σ}
    (h : ProjectFile.writeText (m := StateM σ) path text s = (.ok (), s')) :
    ∃ s₁, (s₁ = s ∨ ∃ directory, makeDirectories (m := StateM σ) directory s = (.ok (), s₁)) ∧
      writeText (m := StateM σ) path text s₁ = (.ok (), s') := by
  have hputs := putsText path text s
  rw [h] at hputs
  cases hputs with
  | written hmade hwrite => exact ⟨_, hmade, hwrite⟩

theorem save_of_load (hpath : Dependable σ path)
    (h : ProjectFile.load (m := StateM σ) path s = (.ok d, s)) (hd : d'.Savable) :
    ∃ s', ProjectFile.save (m := StateM σ) path d' s = (.ok (), s') ∧ Holds path s' d' := by
  obtain ⟨text, hreads, -⟩ := load_eq_ok_iff.mp h
  obtain ⟨s', hwrite⟩ := hpath.exists_write hreads d'.toJson.pretty
  refine ⟨s', ?_, hd, hpath.reads_of_write hwrite⟩
  rw [ProjectFile.save, hd.save_eq]
  exact writeText_eq (hpath.makeDirectories_of_reads hreads) hwrite

theorem editProject_refines (hpath : Dependable σ path)
    (h : ProjectFile.load (m := StateM σ) path s = (.ok d, s))
    {edit : Session → Except CommandError (α × Session)} {r : Except CommandError Document}
    (hedit : left (edit (.ofDocument d)) = r) (hr : ∀ d', r = .ok d' → d'.Savable) :
    Refines path s (editProject path edit) r := by
  subst hedit
  cases hresult : edit (.ofDocument d) with
  | error e =>
      refine refines_error ?_
      rw [editProject, bind_apply, openProject_of_load h]
      simp only [hresult]
      rfl
  | ok p =>
      obtain ⟨s', hsave, hholds⟩ := save_of_load hpath h (hr p.2.document (by rw [hresult]; rfl))
      refine refines_ok (a := p.1) ?_ hholds
      rw [editProject, bind_apply, openProject_of_load h]
      simp only [hresult]
      rw [bind_apply, hsave]
      rfl

theorem compileProject_of_holds (h : Holds path s d) (settings : Settings) :
    ∃ script, d.compile settings.scriptOptions = .ok script ∧
      compileProject (m := StateM σ) settings path s =
        (.ok (.ofDocument d, script), s) := by
  obtain ⟨script, hscript⟩ := h.savable.exists_compile settings.scriptOptions
  refine ⟨script, hscript, ?_⟩
  have hcompile : (Session.ofDocument d).compile settings.scriptOptions = .ok script := by
    rw [Session.compile, Session.ofDocument, hscript]
  rw [compileProject, bind_apply, openProject_of_load h.load]
  simp only [hcompile]
  rfl

theorem check_of_holds (h : Holds path s d) (settings : Settings) :
    ∃ summary, Command.check (m := StateM σ) settings path s = (.ok summary, s) := by
  obtain ⟨script, -, hcompile⟩ := compileProject_of_holds h settings
  refine ⟨(Session.ofDocument d).summary path script, ?_⟩
  rw [Command.check, bind_apply, hcompile]
  rfl

theorem compile_of_holds (h : Holds path s d) (settings : Settings)
    (hsettings : settings.outputDirectory = none) :
    ∃ script, d.compile settings.scriptOptions = .ok script ∧
      Command.compile (m := StateM σ) settings path none s = (.ok (.printed script), s) := by
  obtain ⟨script, hscript, hcompile⟩ := compileProject_of_holds h settings
  refine ⟨script, hscript, ?_⟩
  rw [Command.compile, bind_apply, hcompile]
  simp only [hsettings]
  rfl

theorem removeWidget_refines (hpath : Dependable σ path) (hd : d.Savable)
    (h : ProjectFile.load (m := StateM σ) path s = (.ok d, s)) (selector widget : String) :
    Refines path s (Command.removeWidget path selector widget)
      ((Action.removeWidget selector widget).edit d) := by
  have hedit : Refines path s (editProject path fun s => s.removeWidget selector widget) _ :=
    editProject_refines hpath h (left_removeWidget (.ofDocument d) selector widget)
      fun d' => savable_of_edit hd trivial
  exact hedit.bind (fun e => rfl) fun w => ⟨_, rfl⟩

/-- Each command does to the file what its edit does to the document. -/
theorem Holds.refines (hpath : Dependable σ path) (h : Holds path s d) {a : Action}
    (ha : a.IsFresh d) : Refines path s (a.run path) (a.edit d) := by
  have hsavable : ∀ d', a.edit d = .ok d' → d'.Savable := fun d' => savable_of_edit h.savable ha
  cases a with
  | addTab id name icon =>
      have hedit : Refines path s (Command.addTab path id name icon) _ :=
        editProject_refines hpath h.load (left_addTabWith (s := .ofDocument d) ha.2 name icon)
          hsavable
      exact hedit.quietly
  | addWidget selector id kind name =>
      have hedit : Refines path s (Command.addWidget path selector id kind name) _ :=
        editProject_refines hpath h.load
          (left_addWidgetTo (.ofDocument d) selector (newWidget id kind name)) hsavable
      exact hedit.quietly
  | addPreset selector id key =>
      have hedit : Refines path s (Command.addPreset path selector id key)
          ((Action.addPreset selector id key).edit d) := by
        rw [Command.addPreset]
        rw [Action.edit] at hsavable ⊢
        cases hp : Preset.find? key with
        | none => exact refines_error rfl
        | some p =>
            simp only [hp] at hsavable ⊢
            exact editProject_refines hpath h.load
              (left_addWidgetTo (.ofDocument d) selector (p.instantiate id)) hsavable
      exact hedit.quietly
  | removeTab selector =>
      have hedit : Refines path s (editProject path fun s => s.removeTab selector) _ :=
        editProject_refines hpath h.load (left_removeTab (.ofDocument d) selector) hsavable
      have hremove : Refines path s (Command.removeTab path selector) _ :=
        hedit.bind (fun e => rfl) fun t => ⟨_, rfl⟩
      exact hremove.quietly
  | removeWidget selector widget =>
      exact (removeWidget_refines hpath h.savable h.load selector widget).quietly
  | check settings =>
      obtain ⟨summary, hcheck⟩ := check_of_holds h settings
      exact (refines_ok hcheck h).quietly
  | compile settings =>
      obtain ⟨script, -, hcompile⟩ :=
        compile_of_holds h { settings with outputDirectory := none } rfl
      exact (refines_ok hcompile h).quietly

theorem holds_of_newProject (hpath : Dependable σ path) {settings : Settings} {millis : Int}
    {given : Option String} {s' : σ}
    (h : newProject (m := StateM σ) settings millis given s = (.ok path, s')) :
    Holds path s' {} := by
  have hempty : Document.Savable {} := Document.validWith_empty
  rw [newProject] at h
  generalize given.getD _ = target at h
  simp only [bind_apply] at h
  split at h
  · cases h
  · rw [bind_apply, ProjectFile.save, hempty.save_eq] at h
    simp only at h
    rcases hwrite : ProjectFile.writeText (m := StateM σ) target (Document.toJson {}).pretty
      (contains (m := StateM σ) target s).2 with ⟨_ | ⟨⟩, s₁⟩
    · rw [hwrite] at h
      cases h
    · rw [hwrite] at h
      cases h
      obtain ⟨s₂, -, hlast⟩ := exists_of_writeText hwrite
      exact ⟨hempty, hpath.reads_of_write hlast⟩

theorem newProject_of_contains (h : contains (m := StateM σ) path s = (true, s))
    {settings : Settings} {millis : Int} {given : Option String}
    (hgiven : given.getD (Path.join (settings.projectsDirectory.getD "")
      (ProjectFile.nameAt millis)) = path) :
    newProject (m := StateM σ) settings millis given s = (.error (.alreadyExists path), s) := by
  simp only [newProject, hgiven]
  rw [bind_apply, h]
  rfl

theorem newProject_of_holds (hpath : Dependable σ path) (h : Holds path s d) {settings : Settings}
    {millis : Int} {given : Option String}
    (hgiven : given.getD (Path.join (settings.projectsDirectory.getD "")
      (ProjectFile.nameAt millis)) = path) :
    newProject (m := StateM σ) settings millis given s = (.error (.alreadyExists path), s) :=
  newProject_of_contains (hpath.contains_of_reads h.reads) hgiven

theorem Reached.holds (hpath : Dependable σ path) (h : Reached path s d) : Holds path s d := by
  induction h with
  | created h => exact holds_of_newProject hpath h
  | @after s d a _ ha ih =>
      have hrun := ih.refines hpath ha
      rw [Action.after]
      cases hedit : a.edit d with
      | error e =>
          rw [hrun.failed e hedit]
          exact ih
      | ok d' =>
          obtain ⟨u, s', hs', hholds⟩ := hrun.edited d' hedit
          rw [hs']
          exact hholds

/-- Along every run of commands the file holds the saved text of the document that the same edits
make in memory. A command fails exactly if its edit does, and changes nothing then; the project can
be checked and compiled at every point, and is not made anew. -/
theorem Reached.follows_document (hpath : Dependable σ path) (h : Reached path s d) :
    (∃ text, d.save = .ok text ∧ FileAccess.readText (m := StateM σ) path s = (.ok text, s)) ∧
    (∀ a : Action, a.IsFresh d →
      (∀ e, a.edit d = .error e → a.run path s = (.error e, s)) ∧
      ∀ d', a.edit d = .ok d' → ∃ s' text, a.run path s = (.ok (), s') ∧
        d'.save = .ok text ∧ FileAccess.readText (m := StateM σ) path s' = (.ok text, s')) ∧
    (∀ settings, ∃ summary,
      Command.check (m := StateM σ) settings path s = (.ok summary, s)) ∧
    (∀ settings : Settings, settings.outputDirectory = none →
      ∃ script, d.compile settings.scriptOptions = .ok script ∧
        Command.compile (m := StateM σ) settings path none s = (.ok (.printed script), s)) ∧
    ∀ (settings : Settings) (millis : Int) (given : Option String),
      given.getD (Path.join (settings.projectsDirectory.getD "") (ProjectFile.nameAt millis)) =
        path →
      newProject (m := StateM σ) settings millis given s = (.error (.alreadyExists path), s) := by
  have hholds := h.holds hpath
  refine ⟨⟨_, hholds.savable.save_eq, hholds.reads⟩, fun a ha => ?_, check_of_holds hholds,
    compile_of_holds hholds, fun settings millis given => newProject_of_holds hpath hholds⟩
  have hrun := hholds.refines hpath ha
  refine ⟨hrun.failed, fun d' hd' => ?_⟩
  obtain ⟨⟨⟩, s', hs', hholds'⟩ := hrun.edited d' hd'
  exact ⟨s', _, hs', hholds'.savable.save_eq, hholds'.reads⟩

end

/-- A file in a directory that is made together with it. -/
def hubPath : String := "projects/hub.json"

theorem dependable_hubPath : Dependable Storage hubPath := by
  refine Storage.dependable fun {s text} h directory hdirectory _ => ?_
  have hparent : Path.parent? hubPath = some "projects" := by decide +kernel
  have hnames : Path.names hubPath = ["projects"] ++ ["hub.json"] := by decide +kernel
  obtain ⟨place, name, hspot, -⟩ := Storage.exists_spot_of_readText h
  obtain ⟨above, habove, hresolve⟩ := hspot.names
  obtain ⟨rfl, -⟩ := List.append_inj' (hnames.symm.trans habove) rfl
  obtain ⟨next, hleads, hnext⟩ := Storage.resolve_cons_eq_ok_iff.mp hresolve
  cases hnext
  rw [hparent] at hdirectory
  cases hdirectory
  cases hleads with
  | stay _ hname => exact absurd hname (by decide)
  | up _ hname => exact absurd hname (by decide)
  | down =>
      exact Storage.makeDirectories_of_isDirectoryAt (by decide +kernel) (by decide +kernel) rfl
        (by decide +kernel) (by decide) (by decide +kernel) hspot.directory

theorem follows_document_hubPath :
    ∃ (s : Storage) (d : Document), Reached hubPath s d ∧ d.tabIds = [⟨"a"⟩] ∧
      ∃ text, d.save = .ok text ∧
        FileAccess.readText (m := StateM Storage) hubPath s = (.ok text, s) := by
  have hnew : (newProject (m := StateM Storage) {} 0 (some hubPath) {}).1.toOption =
      some hubPath := by
    decide +kernel
  rcases hmade : newProject (m := StateM Storage) {} 0 (some hubPath) {} with ⟨_ | path, s⟩
  · rw [hmade] at hnew
    cases hnew
  · rw [hmade] at hnew
    cases hnew
    have hfresh : Action.IsFresh {} (.addTab ⟨"a"⟩ none none) := ⟨by decide, by decide⟩
    have hreached : Reached hubPath _ _ := .after _ (.created hmade) hfresh
    obtain ⟨hfile, -⟩ := hreached.follows_document dependable_hubPath
    exact ⟨_, _, hreached, rfl, hfile⟩

end ControlPanel.Command
