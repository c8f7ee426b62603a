import ControlPanel.Proofs.Outcome
import ControlPanel.Storage.Access

namespace ControlPanel

namespace FileAccess

theorem bind_apply {σ α β : Type} (x : StateM σ α) (f : α → StateM σ β) (s : σ) :
    (x >>= f) s = f (x s).1 (x s).2 :=
  rfl

/-- What only passes an outcome on succeeds exactly if that which it follows does. -/
theorem passed_eq_ok_iff {σ ε δ : Type} {x : StateM σ (Except ε Unit)} {s s' : σ}
    {f : Except ε Unit → StateM σ (Except δ Unit)} (hok : f (.ok ()) = pure (.ok ()))
    (herror : ∀ e s, (f (.error e) s).1 ≠ .ok ()) :
    (x >>= f) s = (.ok (), s') ↔ x s = (.ok (), s') := by
  rw [bind_apply]
  rcases x s with ⟨e | ⟨⟩, s₁⟩
  · constructor
    · intro h
      exact absurd (congrArg Prod.fst h) (herror e s₁)
    · intro h
      cases h
  · rw [hok]
    constructor <;>
    · intro h
      cases h
      rfl

variable {σ : Type} [FileAccess (StateM σ)]

/-- The file at the path holds the text, and reading it changes nothing. -/
def ReadsAs (s : σ) (path text : String) : Prop :=
  readText (m := StateM σ) path s = (.ok text, s)

/-- A file at the path reads back as last written. Once it can be read, it is there and can be
written again, and the directory that holds it is there too. -/
structure Dependable (σ : Type) [FileAccess (StateM σ)] (path : String) : Prop where
  reads_of_write : ∀ {s s' : σ} {text : String},
    writeText (m := StateM σ) path text s = (.ok (), s') → ReadsAs s' path text
  exists_write : ∀ {s : σ} {text : String}, ReadsAs s path text → ∀ new,
    ∃ s', writeText (m := StateM σ) path new s = (.ok (), s')
  contains_of_reads : ∀ {s : σ} {text : String}, ReadsAs s path text →
    contains (m := StateM σ) path s = (true, s)
  makeDirectories_of_reads : ∀ {s : σ} {text : String}, ReadsAs s path text →
    ∀ directory ∈ Path.parent? path, directory ≠ "" →
      makeDirectories (m := StateM σ) directory s = (.ok (), s)

end FileAccess

namespace Storage

variable {s s' : Storage} {place p : List String} {names : List String}

@[simp] theorem entry?_root (s : Storage) : s.entry? [] = some .directory :=
  rfl

theorem entry?_of_ne_nil (hplace : place ≠ []) :
    s.entry? place = (s.entries.find? fun e => e.1 == place).map Prod.snd :=
  if_neg hplace

theorem entry?_insert (hplace : place ≠ []) (e : Entry) (q : List String) :
    Storage.entry? (s.insert place e) q = if q = place then some e else s.entry? q := by
  by_cases hq : q = []
  · subst hq
    rw [entry?_root, entry?_root, if_neg hplace.symm]
  rw [entry?_of_ne_nil hq, entry?_of_ne_nil hq, insert]
  by_cases hsome : (s.entry? place).isSome = true
  · have hkey : ((fun x : List String × Entry => x.1 == q) ∘ fun old =>
        if old.1 = place then (place, e) else old) = fun x => x.1 == q := by
      funext old
      by_cases hold : old.1 = place <;> simp [hold]
    rw [if_pos hsome, List.find?_map, hkey]
    cases hfind : s.entries.find? fun x => x.1 == q with
    | none =>
        have hne : q ≠ place := by
          rintro rfl
          simp [entry?_of_ne_nil hq, hfind] at hsome
        rw [if_neg hne]
        rfl
    | some old =>
        have hold : old.1 = q := by simpa using List.find?_some hfind
        by_cases heq : q = place
        · simp [hold, heq]
        · simp [hold, heq]
  · have hnone : s.entries.find? (fun x => x.1 == place) = none := by
      rw [Option.not_isSome_iff_eq_none, entry?_of_ne_nil hplace, Option.map_eq_none_iff] at hsome
      exact hsome
    rw [if_neg hsome, List.find?_append]
    by_cases heq : q = place
    · subst heq
      simp [hnone]
    · have hne : place ≠ q := fun h => heq h.symm
      simp [heq, hne]

theorem resolve_append (s : Storage) (place : List String) (names names' : List String) :
    s.resolve place (names ++ names') =
      s.resolve place names >>= fun p => s.resolve p names' := by
  induction names generalizing place with
  | nil => rfl
  | cons name names ih =>
      simp only [List.cons_append, resolve, ih]
      repeat' split
      all_goals rfl

/-- One name leads from a directory to a place. -/
inductive Leads (s : Storage) (place : List String) (name : String) : List String → Prop
  | stay (hplace : s.isDirectoryAt place = true) (hname : name = ".") : Leads s place name place
  | up (hplace : s.isDirectoryAt place = true) (hname : name = "..") :
      Leads s place name place.dropLast
  | down (hplace : s.isDirectoryAt place = true) (hname : isDots name = false)
      (hlength : Path.isNameTooLong name = false)
      (hsome : (s.entry? (place ++ [name])).isSome = true) : Leads s place name (place ++ [name])

theorem resolve_cons_eq_ok_iff {name : String} :
    s.resolve place (name :: names) = .ok p ↔
      ∃ next, Leads s place name next ∧ s.resolve next names = .ok p := by
  constructor
  · intro h
    rw [resolve] at h
    split at h
    · cases h
    rename_i hplace
    rw [Bool.not_eq_true, Bool.not_eq_false'] at hplace
    split at h
    · rename_i hdot
      exact ⟨_, .stay hplace hdot, h⟩
    rename_i hdot
    split at h
    · rename_i hup
      exact ⟨_, .up hplace hup, h⟩
    rename_i hup
    split at h
    · cases h
    rename_i hlength
    simp only at h
    split at h
    · rename_i hsome
      exact ⟨_, .down hplace (by simp [isDots, hdot, hup]) (by simpa using hlength) hsome, h⟩
    · cases h
  · rintro ⟨next, hleads, h⟩
    rw [resolve]
    cases hleads with
    | stay hplace hname => simpa [hplace, hname] using h
    | up hplace hname => simpa [hplace, hname] using h
    | down hplace hname hlength hsome =>
        have hdots : name ≠ "." ∧ name ≠ ".." := by simpa [isDots] using hname
        simpa [hplace, hdots, hlength, hsome] using h

/-- A path leads to the same place where nothing is missing that was there before. -/
theorem resolve_of_le (hsome : ∀ q, (s.entry? q).isSome = true → (s'.entry? q).isSome = true)
    (hdirectory : ∀ q, s.isDirectoryAt q = true → s'.isDirectoryAt q = true)
    (h : s.resolve place names = .ok p) : s'.resolve place names = .ok p := by
  induction names generalizing place with
  | nil => exact h
  | cons name names ih =>
      obtain ⟨next, hleads, hrest⟩ := resolve_cons_eq_ok_iff.mp h
      refine resolve_cons_eq_ok_iff.mpr ⟨next, ?_, ih hrest⟩
      cases hleads with
      | stay hplace hname => exact .stay (hdirectory _ hplace) hname
      | up hplace hname => exact .up (hdirectory _ hplace) hname
      | down hplace hname hlength hnext =>
          exact .down (hdirectory _ hplace) hname hlength (hsome _ hnext)

/-- Above every place that a path leads to there are directories only. -/
theorem isDirectoryAt_of_resolve (hplace : ∀ q, q <+: place → q ≠ place → s.isDirectoryAt q = true)
    (h : s.resolve place names = .ok p) :
    ∀ q, q <+: p → q ≠ p → s.isDirectoryAt q = true := by
  induction names generalizing place with
  | nil =>
      cases h
      exact hplace
  | cons name names ih =>
      obtain ⟨next, hleads, hrest⟩ := resolve_cons_eq_ok_iff.mp h
      refine ih ?_ hrest
      cases hleads with
      | stay => exact hplace
      | up hdirectory =>
          intro q hq hne
          refine hplace q (hq.trans (List.dropLast_prefix place)) ?_
          rintro rfl
          exact hne (hq.eq_of_length_le (by simp))
      | down hdirectory =>
          intro q hq hne
          rcases List.prefix_concat_iff.mp hq with heq | hq
          · exact absurd heq hne
          · by_cases heq : q = place
            · rw [heq]
              exact hdirectory
            · exact hplace q hq heq

variable {path text : String} {content : Content}

theorem readText_eq_ok_iff :
    s.readText path = .ok text ↔
      checkPath path = .ok () ∧ Path.endsInSlash path = false ∧
        ∃ place, s.resolve [] (Path.names path) = .ok place ∧
          s.entry? place = some (.file (.text text)) := by
  simp only [readText, locate, Outcome.bind_eq_ok_iff]
  constructor
  · rintro ⟨place, ⟨⟨⟩, hcheck, place', hresolve, hslash⟩, hentry⟩
    split at hslash
    · cases hslash
    rename_i hends
    cases hslash
    split at hentry
    · rename_i t hplace
      cases hentry
      refine ⟨hcheck, ?_, place, hresolve, hplace⟩
      simpa [isDirectoryAt, hplace] using hends
    all_goals cases hentry
  · rintro ⟨hcheck, hends, place, hresolve, hplace⟩
    refine ⟨place, ⟨(), hcheck, place, hresolve, ?_⟩, ?_⟩
    · rw [hends]
      rfl
    · rw [hplace]
      rfl

/-- A file can be put at the path: its last name is free, or that of a file, in the directory that
the others lead to. -/
structure Spot (s : Storage) (path : String) (place : List String) (name : String) : Prop where
  check : checkPath path = .ok ()
  no_slash : Path.endsInSlash path = false
  names : ∃ above, Path.names path = above ++ [name] ∧ s.resolve [] above = .ok place
  directory : s.isDirectoryAt place = true
  no_dots : isDots name = false
  short : Path.isNameTooLong name = false
  no_directory : s.isDirectoryAt (place ++ [name]) = false

theorem writeFile_eq_ok_iff :
    s.writeFile path content = .ok s' ↔
      ∃ place name, s.Spot path place name ∧
        s' = s.insert (place ++ [name]) (.file content) := by
  simp only [writeFile, Outcome.bind_eq_ok_iff]
  rcases List.eq_nil_or_concat (Path.names path) with hnames | ⟨above, name, hnames⟩
  · rw [hnames]
    constructor
    · rintro ⟨⟨⟩, -, h⟩
      cases h
    · rintro ⟨place, name, ⟨-, -, ⟨above, habove, -⟩, -⟩, -⟩
      simp [hnames] at habove
  · rw [List.concat_eq_append] at hnames
    simp only [hnames, resolveParent, List.getLast?_concat, List.dropLast_concat,
      Outcome.bind_eq_ok_iff]
    constructor
    · rintro ⟨⟨⟩, hcheck, place, ⟨place', hresolve, hparent⟩, h⟩
      split at hparent
      · rename_i hdirectory
        cases hparent
        split at h
        · cases h
        rename_i hends
        split at h
        · cases h
        rename_i hlength
        split at h
        · cases h
        rename_i hfile
        cases h
        rw [Bool.or_eq_true, not_or, Bool.not_eq_true, Bool.not_eq_true] at hends
        exact ⟨place, name, ⟨hcheck, hends.2, ⟨above, hnames, hresolve⟩, hdirectory, hends.1,
          by simpa using hlength, by simpa using hfile⟩, rfl⟩
      · cases hparent
    · rintro ⟨place, name', ⟨hcheck, hslash, ⟨above', habove, hresolve⟩, hdirectory, hdots, hlength,
        hfile⟩, rfl⟩
      obtain ⟨rfl, hname⟩ := List.append_inj' (hnames.symm.trans habove) rfl
      cases hname
      refine ⟨(), hcheck, place, ⟨place, hresolve, by rw [if_pos hdirectory]; rfl⟩, ?_⟩
      simp [hdots, hslash, hlength, hfile, pure, Except.pure]

theorem exists_spot_of_readText (h : s.readText path = .ok text) :
    ∃ place name, s.Spot path place name ∧
      s.entry? (place ++ [name]) = some (.file (.text text)) := by
  obtain ⟨hcheck, hslash, p, hresolve, hentry⟩ := readText_eq_ok_iff.mp h
  have hfile : s.isDirectoryAt p = false := by simp [isDirectoryAt, hentry]
  rcases List.eq_nil_or_concat (Path.names path) with hnames | ⟨above, name, hnames⟩
  · rw [hnames] at hresolve
    cases hresolve
    cases hentry
  · rw [List.concat_eq_append] at hnames
    rw [hnames, resolve_append] at hresolve
    obtain ⟨place, habove, hlast⟩ := Outcome.bind_eq_ok_iff.mp hresolve
    obtain ⟨next, hleads, hnext⟩ := resolve_cons_eq_ok_iff.mp hlast
    cases hnext
    cases hleads with
    | stay hplace => rw [hplace] at hfile; cases hfile
    | up hplace =>
        -- Two dots lead to a directory, which is no file.
        have hup : s.isDirectoryAt place.dropLast = true := by
          by_cases heq : place.dropLast = place
          · rw [heq]
            exact hplace
          · exact isDirectoryAt_of_resolve (by simp) habove _ (List.dropLast_prefix place) heq
        rw [hup] at hfile
        cases hfile
    | down hplace hdots hlength hsome =>
        exact ⟨place, name,
          ⟨hcheck, hslash, ⟨above, hnames, habove⟩, hplace, hdots, hlength, hfile⟩, hentry⟩

theorem Spot.resolve_insert {name : String} (h : s.Spot path place name) (content : Content) :
    (s.insert (place ++ [name]) (.file content)).resolve [] (Path.names path) =
      .ok (place ++ [name]) := by
  obtain ⟨above, hnames, hresolve⟩ := h.names
  have hplace : place ++ [name] ≠ [] := by simp
  have hentry := entry?_insert (s := s) hplace (.file content)
  have hsome : ∀ q, (s.entry? q).isSome = true →
      (Storage.entry? (s.insert (place ++ [name]) (.file content)) q).isSome = true := by
    intro q hq
    rw [hentry]
    split
    · rfl
    · exact hq
  have hdirectory : ∀ q, s.isDirectoryAt q = true →
      (s.insert (place ++ [name]) (.file content)).isDirectoryAt q = true := by
    intro q hq
    have hne : q ≠ place ++ [name] := by
      rintro rfl
      rw [h.no_directory] at hq
      cases hq
    rw [isDirectoryAt, hentry, if_neg hne]
    exact hq
  rw [hnames, resolve_append, resolve_of_le hsome hdirectory hresolve]
  refine resolve_cons_eq_ok_iff.mpr ⟨_, .down (hdirectory _ h.directory) h.no_dots h.short ?_, rfl⟩
  rw [hentry, if_pos rfl]
  rfl

theorem Spot.locate_insert {name : String} (h : s.Spot path place name) (content : Content) :
    (s.insert (place ++ [name]) (.file content)).locate path = .ok (place ++ [name]) := by
  rw [locate, h.check, Outcome.ok_bind, h.resolve_insert, Outcome.ok_bind, h.no_slash]
  rfl

theorem Spot.readText_insert {name : String} (h : s.Spot path place name) (text : String) :
    (s.insert (place ++ [name]) (.file (.text text))).readText path = .ok text := by
  refine readText_eq_ok_iff.mpr ⟨h.check, h.no_slash, _, h.resolve_insert _, ?_⟩
  rw [entry?_insert (by simp), if_pos rfl]

theorem reads_iff : FileAccess.ReadsAs s path text ↔ s.readText path = .ok text := by
  constructor
  · intro h
    exact congrArg Prod.fst h
  · intro h
    exact Prod.ext h rfl

theorem attempt_eq_ok_iff {f : Storage → Except StorageError Storage} :
    attempt f s = (.ok (), s') ↔ f s = .ok s' := by
  unfold attempt
  constructor <;> intro h
  · cases hf : f s with
    | error e =>
        rw [hf] at h
        cases h
    | ok s₁ =>
        rw [hf] at h
        cases h
        rfl
  · rw [h]

theorem attempt_of_error {f : Storage → Except StorageError Storage} {e : StorageError}
    (h : f s = .error e) : attempt f s = (.error e, s) := by
  unfold attempt
  simp only [h]

theorem makeDirectories_of_isDirectoryAt {name : String} (hnames : Path.names name = [name])
    (hrooted : Path.isRooted name = false) (hcheck : checkPath name = .ok ())
    (hslash : Path.endsInSlash name = false) (hdots : isDots name = false)
    (hshort : Path.isNameTooLong name = false) (h : s.isDirectoryAt [name] = true) :
    FileAccess.makeDirectories (m := StateM Storage) name s = (.ok (), s) := by
  have hentry : s.entry? [name] = some .directory := by simpa [isDirectoryAt] using h
  have hne : name ≠ "." ∧ name ≠ ".." := by simpa [isDots] using hdots
  have hmake : s.makeDirectory name = .error .occupied := by
    rw [makeDirectory, hcheck, hnames]
    simp [Outcome.ok_bind, resolveParent, resolve, isDirectoryAt, hentry, hshort]
  have hread : s.readText name = .error .isDirectory := by
    rw [readText, locate, hcheck, hnames]
    simp [Outcome.ok_bind, resolve, isDirectoryAt, hentry, hshort, hslash, hne]
  have hoccupied : FileAccess.makeDirectory (m := StateM Storage) name s = (.error .occupied, s) :=
    attempt_of_error hmake
  have hdirectory : FileAccess.isDirectory (m := StateM Storage) name s = (true, s) := by
    have hread' : FileAccess.readText (m := StateM Storage) name s = (.error .isDirectory, s) :=
      Prod.ext hread rfl
    rw [FileAccess.isDirectory, FileAccess.bind_apply, hread']
    rfl
  have hup : ((Path.names name).filter (· ≠ ".")).reverse = [name] := by
    simp [hnames, hne]
  have hpath : Path.ofNames false [name].reverse = name := by
    simp [Path.ofNames]
  rw [FileAccess.makeDirectories, hrooted, hup]
  simp only [FileAccess.makeDirectoriesUp, hpath]
  rw [FileAccess.bind_apply, hoccupied]
  simp only
  rw [FileAccess.bind_apply, hdirectory]
  rfl

theorem readsAs_of_writeText
    (h : FileAccess.writeText (m := StateM Storage) path text s = (.ok (), s')) :
    FileAccess.ReadsAs s' path text := by
  obtain ⟨place, name, hspot, rfl⟩ := writeFile_eq_ok_iff.mp (attempt_eq_ok_iff.mp h)
  exact reads_iff.mpr (hspot.readText_insert _)

theorem contains_of_locate (h : s.locate path = .ok place) :
    FileAccess.contains (m := StateM Storage) path s = (true, s) := by
  refine Prod.ext ?_ rfl
  change contains _ path = true
  rw [contains, h]

/-- A storage can be relied on at a path, if a file there has the directories above it. -/
theorem dependable (hdirectories : ∀ {s : Storage} {text : String}, s.readText path = .ok text →
    ∀ directory ∈ Path.parent? path, directory ≠ "" →
      FileAccess.makeDirectories (m := StateM Storage) directory s = (.ok (), s)) :
    FileAccess.Dependable Storage path where
  reads_of_write h := readsAs_of_writeText h
  exists_write h new := by
    obtain ⟨place, name, hspot, -⟩ := exists_spot_of_readText (reads_iff.mp h)
    exact ⟨_, attempt_eq_ok_iff.mpr (writeFile_eq_ok_iff.mpr ⟨place, name, hspot, rfl⟩)⟩
  contains_of_reads h := by
    obtain ⟨place, hlocate, -⟩ := Outcome.bind_eq_ok_iff.mp (reads_iff.mp h)
    exact contains_of_locate hlocate
  makeDirectories_of_reads h := hdirectories (reads_iff.mp h)

end Storage

end ControlPanel
