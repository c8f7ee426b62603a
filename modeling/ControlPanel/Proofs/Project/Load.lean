import ControlPanel.Proofs.Json.Printer
import ControlPanel.Proofs.Json.Reader
import ControlPanel.Proofs.Project.Alike

namespace ControlPanel.Document

open Json

theorem noArray_object (ms : List (String × Json)) : NoArray (.object ms) := by
  rintro vs ⟨⟩

theorem load_eq_of_textOf {v : Json} {s : String} (h : TextOf v s) :
    load s = ofProject (canonical v) := by
  rw [load, parse_of_textOf h]

theorem requireSection_of_missing {ms : List (String × Json)} {part : Section}
    (h : part.Missing ms) :
    requireSection (heldMembers ms) part = .error (.missingSection part) := by
  rw [requireSection, member?_heldMembers]
  rcases h with h | h
  · rw [h]
    rfl
  · rw [h]
    rfl

theorem requireSection_of_not_missing {ms : List (String × Json)} {part : Section}
    (h : ¬ part.Missing ms) : requireSection (heldMembers ms) part = .ok () := by
  rw [Section.Missing, not_or] at h
  rw [requireSection, member?_heldMembers]
  cases hlast : last? part.name ms with
  | none => exact absurd hlast h.1
  | some v =>
      cases v with
      | null => exact absurd hlast h.2
      | object ns => rw [Option.map_some, canonical_object_eq]
      | bool | whole | real | text | array => rfl

/-- What the steps after the two sections give. -/
def checked : Read Document → Except ProjectError Document
  | .error e => .error (.malformed e)
  | .ok d =>
    match d.validate with
    | .error e => .error (.invalid e)
    | .ok () => .ok d

theorem ofProject_of_missing_window {ms : List (String × Json)}
    (h : Section.Missing .window ms) :
    ofProject (canonical (.object ms)) = .error (.missingSection .window) := by
  rw [canonical_object_eq, ofProject, requireSection_of_missing h]
  rfl

theorem ofProject_of_missing_tabs {ms : List (String × Json)}
    (hwindow : ¬ Section.Missing .window ms) (h : Section.Missing .tabs ms) :
    ofProject (canonical (.object ms)) = .error (.missingSection .tabs) := by
  rw [canonical_object_eq, ofProject, requireSection_of_not_missing hwindow,
    requireSection_of_missing h]
  rfl

theorem ofProject_of_sections {ms : List (String × Json)}
    (hwindow : ¬ Section.Missing .window ms) (htabs : ¬ Section.Missing .tabs ms) :
    ofProject (canonical (.object ms)) = checked (ofJson (canonical (.object ms))) := by
  rw [canonical_object_eq, ofProject, requireSection_of_not_missing hwindow,
    requireSection_of_not_missing htabs]
  rfl

theorem ofProject_of_not_object {v : Json} (h : ∀ ms, v ≠ .object ms) :
    ofProject (canonical v) = .error .notAnObject := by
  cases v with
  | object ms => exact absurd rfl (h ms)
  | array vs => rw [canonical_array, ofProject]; simp
  | null | bool | whole | real | text => rfl

/-- Which step of loading an object decides, and what it gives. -/
theorem ofProject_object (ms : List (String × Json)) :
    (Section.Missing .window ms ∧
      ofProject (canonical (.object ms)) = .error (.missingSection .window)) ∨
    (¬ Section.Missing .window ms ∧ Section.Missing .tabs ms ∧
      ofProject (canonical (.object ms)) = .error (.missingSection .tabs)) ∨
    (¬ Section.Missing .window ms ∧ ¬ Section.Missing .tabs ms ∧
      ofProject (canonical (.object ms)) = checked (ofJson (canonical (.object ms)))) := by
  by_cases hwindow : Section.Missing .window ms
  · exact .inl ⟨hwindow, ofProject_of_missing_window hwindow⟩
  · by_cases htabs : Section.Missing .tabs ms
    · exact .inr (.inl ⟨hwindow, htabs, ofProject_of_missing_tabs hwindow htabs⟩)
    · exact .inr (.inr ⟨hwindow, htabs, ofProject_of_sections hwindow htabs⟩)

theorem checked_eq_malformed_iff {r : Read Document} :
    (∃ e, checked r = .error (.malformed e)) ↔ ¬ ∃ d, r = .ok d := by
  cases r with
  | error e => simp [checked]
  | ok d =>
      rw [checked]
      cases d.validate <;> simp

theorem checked_eq_invalid_iff {r : Read Document} {e : DocumentError} :
    checked r = .error (.invalid e) ↔ ∃ d, r = .ok d ∧ d.validate = .error e := by
  cases r with
  | error e => simp [checked]
  | ok d =>
      cases hvalid : d.validate <;> simp [checked, hvalid]

theorem checked_eq_ok_iff {r : Read Document} {d : Document} :
    checked r = .ok d ↔ r = .ok d ∧ d.validate = .ok () := by
  cases r with
  | error e => simp [checked]
  | ok d' =>
      cases hvalid : d'.validate with
      | error e =>
          simp only [checked, hvalid, Except.ok.injEq]
          constructor
          · rintro ⟨⟩
          · rintro ⟨rfl, hok⟩
            cases hvalid.symm.trans hok
      | ok u =>
          simp only [checked, hvalid, Except.ok.injEq]
          constructor
          · rintro rfl
            exact ⟨rfl, hvalid⟩
          · rintro ⟨rfl, -⟩
            rfl

/-- The steps after the two sections report nothing that belongs to the steps before. -/
theorem checked_ne {r : Read Document} {e : ProjectError}
    (hmalformed : ∀ misfit, e ≠ .malformed misfit) (hinvalid : ∀ error, e ≠ .invalid error) :
    checked r ≠ .error e := by
  cases r with
  | error misfit =>
      rintro ⟨⟩
      exact hmalformed _ rfl
  | ok d =>
      rw [checked]
      cases d.validate with
      | error error =>
          rintro ⟨⟩
          exact hinvalid _ rfl
      | ok _ => rintro ⟨⟩

theorem ofProject_ne_notJson {v : Json} {e : SyntaxError} :
    ofProject (canonical v) ≠ .error (.notJson e) := by
  by_cases hobject : ∃ ms, v = .object ms
  · obtain ⟨ms, rfl⟩ := hobject
    rcases ofProject_object ms with ⟨_, h⟩ | ⟨_, _, h⟩ | ⟨_, _, h⟩
    · rw [h]
      rintro ⟨⟩
    · rw [h]
      rintro ⟨⟩
    · rw [h]
      exact checked_ne (by simp) (by simp)
  · rw [ofProject_of_not_object (not_exists.mp hobject)]
    rintro ⟨⟩

theorem load_eq_notJson_iff {s : String} :
    (∃ e, load s = .error (.notJson e)) ↔ ¬ ∃ v, TextOf v s := by
  constructor
  · rintro ⟨e, he⟩ ⟨v, hv⟩
    rw [load_eq_of_textOf hv] at he
    exact ofProject_ne_notJson he
  · intro h
    rw [load]
    cases hparse : parse s with
    | error e => exact ⟨e, rfl⟩
    | ok w =>
        obtain ⟨v, hv, -⟩ := parse_eq_ok_iff.mp hparse
        exact absurd ⟨v, hv⟩ h

theorem Held.sections {ms : List (String × Json)} {d : Document} (h : Held (.object ms) d) :
    ¬ Section.Missing .window ms ∧ ¬ Section.Missing .tabs ms := by
  obtain ⟨ns, hns, ⟨w, hwindow, ws, hw, -⟩, v, htabs, vs, hv, -⟩ := h
  cases hns
  subst hw hv
  refine ⟨?_, ?_⟩
  · rintro (h | h) <;> cases hwindow.symm.trans h
  · rintro (h | h) <;> cases htabs.symm.trans h

theorem load_eq_notAnObject_iff {v : Json} {s : String} (hs : TextOf v s) :
    load s = .error .notAnObject ↔ ∀ ms, v ≠ .object ms := by
  rw [load_eq_of_textOf hs]
  constructor
  · rintro h ms rfl
    rcases ofProject_object ms with ⟨_, h'⟩ | ⟨_, _, h'⟩ | ⟨_, _, h'⟩
    · cases h'.symm.trans h
    · cases h'.symm.trans h
    · exact checked_ne (by simp) (by simp) (h'.symm.trans h)
  · exact ofProject_of_not_object

theorem load_eq_missing_window_iff {ms : List (String × Json)} {s : String}
    (hs : TextOf (.object ms) s) :
    load s = .error (.missingSection .window) ↔ Section.Missing .window ms := by
  rw [load_eq_of_textOf hs]
  rcases ofProject_object ms with ⟨hwindow, h⟩ | ⟨hwindow, _, h⟩ | ⟨hwindow, _, h⟩
  · simp [h, hwindow]
  · simp [h, hwindow]
  · simp only [h, hwindow, iff_false]
    exact checked_ne (by simp) (by simp)

theorem load_eq_missing_tabs_iff {ms : List (String × Json)} {s : String}
    (hs : TextOf (.object ms) s) :
    load s = .error (.missingSection .tabs) ↔
      ¬ Section.Missing .window ms ∧ Section.Missing .tabs ms := by
  rw [load_eq_of_textOf hs]
  rcases ofProject_object ms with ⟨hwindow, h⟩ | ⟨hwindow, htabs, h⟩ | ⟨hwindow, htabs, h⟩
  · simp [h, hwindow]
  · simp [h, hwindow, htabs]
  · simp only [h, htabs, and_false, iff_false]
    exact checked_ne (by simp) (by simp)

section

variable {ms : List (String × Json)} {s : String}

theorem load_eq_malformed_iff (hs : TextOf (.object ms) s) (hplaces : NoPlaces (.object ms)) :
    (∃ e, load s = .error (.malformed e)) ↔
      ¬ Section.Missing .window ms ∧ ¬ Section.Missing .tabs ms ∧
        ¬ ∃ d, Held (.object ms) d := by
  have hreads := Document.reads (noArray_object ms) hplaces
  rw [load_eq_of_textOf hs]
  rcases ofProject_object ms with ⟨hwindow, h⟩ | ⟨hwindow, htabs, h⟩ | ⟨hwindow, htabs, h⟩
  · simp [h, hwindow]
  · simp [h, htabs]
  · simp only [h, hwindow, htabs, not_false_eq_true, true_and]
    rw [checked_eq_malformed_iff, not_iff_not]
    exact exists_congr hreads

theorem load_eq_invalid_iff (hs : TextOf (.object ms) s) (hplaces : NoPlaces (.object ms))
    {e : DocumentError} :
    load s = .error (.invalid e) ↔ ∃ d, Held (.object ms) d ∧ d.validate = .error e := by
  have hreads := Document.reads (noArray_object ms) hplaces
  rw [load_eq_of_textOf hs]
  rcases ofProject_object ms with ⟨hwindow, h⟩ | ⟨_, htabs, h⟩ | ⟨_, _, h⟩
  · rw [h]
    refine ⟨by rintro ⟨⟩, ?_⟩
    rintro ⟨d, hd, -⟩
    exact absurd hwindow hd.sections.1
  · rw [h]
    refine ⟨by rintro ⟨⟩, ?_⟩
    rintro ⟨d, hd, -⟩
    exact absurd htabs hd.sections.2
  · rw [h, checked_eq_invalid_iff]
    exact exists_congr fun d => and_congr_left fun _ => hreads d

theorem load_eq_ok_iff (hs : TextOf (.object ms) s) (hplaces : NoPlaces (.object ms))
    {d : Document} : load s = .ok d ↔ Held (.object ms) d ∧ d.validate = .ok () := by
  have hreads := Document.reads (noArray_object ms) hplaces
  rw [load_eq_of_textOf hs]
  rcases ofProject_object ms with ⟨hwindow, h⟩ | ⟨_, htabs, h⟩ | ⟨_, _, h⟩
  · rw [h]
    refine ⟨by rintro ⟨⟩, ?_⟩
    rintro ⟨hd, -⟩
    exact absurd hwindow hd.sections.1
  · rw [h]
    refine ⟨by rintro ⟨⟩, ?_⟩
    rintro ⟨hd, -⟩
    exact absurd htabs hd.sections.2
  · rw [h, checked_eq_ok_iff, hreads d]

end

theorem AlikeRecords.null_iff {fields : List (String × (Json → Json → Prop))} {v u : Json}
    (h : AlikeRecords fields v u) : v = .null ↔ u = .null := by
  cases h with
  | plain => exact Iff.rfl
  | objects => simp

theorem AlikeLists.null_iff {same : Json → Json → Prop} {v u : Json} (h : AlikeLists same v u) :
    v = .null ↔ u = .null := by
  cases h with
  | plain _ h =>
      cases h with
      | refl => exact Iff.rfl
      | arrays => simp
      | objects => simp
  | arrays => simp

theorem missing_iff_of_rel {part : Section} {same : Json → Json → Prop}
    (hsame : ∀ {v u}, same v u → (v = .null ↔ u = .null)) {ms ns : List (String × Json)}
    (h : Option.Rel same (last? part.name ms) (last? part.name ns)) :
    part.Missing ms ↔ part.Missing ns := by
  rw [Section.Missing, Section.Missing]
  generalize last? part.name ms = v?, last? part.name ns = u? at h
  cases h with
  | none => exact Iff.rfl
  | some h => simp [hsame h]

theorem checked_alike {r r' : Read Document} (h : SameResult r r') :
    (checked r).mapError ProjectError.message = (checked r').mapError ProjectError.message := by
  cases r with
  | error e =>
      cases r' with
      | error e' =>
          have hmessage : e.message = e'.message := Except.error.inj h
          exact congrArg (fun t => Except.error ("malformed project: " ++ t)) hmessage
      | ok d' => cases h
  | ok d =>
      cases r' with
      | error e' => cases h
      | ok d' =>
          cases h
          rfl

theorem ofProject_alike {v u : Json} (h : Document.Alike v u) :
    (ofProject (canonical v)).mapError ProjectError.message =
      (ofProject (canonical u)).mapError ProjectError.message := by
  have hread := Document.readsAlike v u h
  cases h with
  | plain => rfl
  | @objects ms ns hfields =>
      simp only [AlikeMembers, List.forall_mem_cons] at hfields
      obtain ⟨hwindow, htabs, -⟩ := hfields
      have hwindow : Section.Missing .window ms ↔ Section.Missing .window ns :=
        missing_iff_of_rel AlikeRecords.null_iff hwindow
      have htabs : Section.Missing .tabs ms ↔ Section.Missing .tabs ns :=
        missing_iff_of_rel AlikeLists.null_iff htabs
      rcases ofProject_object ms with ⟨hmissing, h⟩ | ⟨hsome, hmissing, h⟩ | ⟨hsome, hsome', h⟩
      · rw [h, ofProject_of_missing_window (hwindow.mp hmissing)]
      · rw [h, ofProject_of_missing_tabs (mt hwindow.mpr hsome) (htabs.mp hmissing)]
      · rw [h, ofProject_of_sections (mt hwindow.mpr hsome) (mt htabs.mpr hsome')]
        exact checked_alike hread

/-- A text is loaded exactly as the save format says. Not JSON, not an object, a missing section, a
value of another form and a document that is not valid are told apart in this order, and what is
left is the document that the value holds. Nothing else about the text matters. -/
theorem load_follows_format (s : String) (hplaces : ∀ v, TextOf v s → NoPlaces v) :
    ((∃ e, load s = .error (.notJson e)) ↔ ¬ ∃ v, TextOf v s) ∧
    (∀ v, TextOf v s → (load s = .error .notAnObject ↔ ∀ ms, v ≠ .object ms)) ∧
    (∀ ms, TextOf (.object ms) s →
      (load s = .error (.missingSection .window) ↔ Section.Missing .window ms) ∧
      (load s = .error (.missingSection .tabs) ↔
        ¬ Section.Missing .window ms ∧ Section.Missing .tabs ms) ∧
      ((∃ e, load s = .error (.malformed e)) ↔
        ¬ Section.Missing .window ms ∧ ¬ Section.Missing .tabs ms ∧
          ¬ ∃ d, Held (.object ms) d) ∧
      (∀ e, load s = .error (.invalid e) ↔
        ∃ d, Held (.object ms) d ∧ d.validate = .error e) ∧
      (∀ d, load s = .ok d ↔ Held (.object ms) d ∧ d.validate = .ok ())) ∧
    ∀ s' v u, TextOf v s → TextOf u s' → Document.Alike v u →
      (load s).mapError ProjectError.message = (load s').mapError ProjectError.message := by
  refine ⟨load_eq_notJson_iff, fun v hs => load_eq_notAnObject_iff hs, fun ms hs => ?_, ?_⟩
  · have hparts := hplaces _ hs
    exact ⟨load_eq_missing_window_iff hs, load_eq_missing_tabs_iff hs,
      load_eq_malformed_iff hs hparts, fun e => load_eq_invalid_iff hs hparts,
      fun d => load_eq_ok_iff hs hparts⟩
  · intro s' v u hs hs' halike
    rw [load_eq_of_textOf hs, load_eq_of_textOf hs']
    exact ofProject_alike halike

theorem last?_of_canonical_eq {ms ns : List (String × Json)}
    (h : canonical (.object ms) = canonical (.object ns)) (key : String) :
    (last? key ms).map canonical = (last? key ns).map canonical := by
  rw [canonical_object_eq, canonical_object_eq, Json.object.injEq] at h
  rw [← member?_heldMembers, ← member?_heldMembers, h]

theorem noArray_of_canonical_eq {v : Json} {ms : List (String × Json)}
    (h : canonical v = canonical (.object ms)) : NoArray v := by
  rintro vs rfl
  rw [canonical_array, canonical_object_eq] at h
  cases h

/-- A saved text with an empty window and an empty tab. -/
def bareText : String :=
  (Json.object [("tabs", .array [.object []]), ("window", .object [])]).pretty

theorem textOf_bareText :
    TextOf (.object [("tabs", .array [.object []]), ("window", .object [])]) bareText :=
  textOf_pretty (by simp [Fits])

theorem noPlaces_bareText {v : Json} (hv : TextOf v bareText) : NoPlaces v := by
  have hcanonical := Except.ok.inj ((parse_of_textOf hv).symm.trans
    (parse_of_textOf textOf_bareText))
  rintro ms rfl
  have hlast := last?_of_canonical_eq hcanonical
  refine ⟨fun u hu => ?_, fun vs hvs u hu => ?_⟩
  · have hwindow : canonical u = canonical (.object []) := by
      have h := hlast "window"
      rw [hu] at h
      exact Option.some.inj h
    refine ⟨noArray_of_canonical_eq hwindow, ?_⟩
    rintro ns rfl key - u' hu'
    have hnone := last?_of_canonical_eq hwindow key
    rw [hu'] at hnone
    cases hnone
  · have htabs : canonical (.array vs) = canonical (.array [.object []]) := by
      have h := hlast "tabs"
      rw [hvs] at h
      exact Option.some.inj h
    have htab : canonical u = canonical (.object []) := by
      rw [canonical_array, canonical_array, Json.array.injEq] at htabs
      have hmem : canonical u ∈ vs.map canonical := List.mem_map_of_mem hu
      rw [htabs] at hmem
      simpa using hmem
    refine ⟨noArray_of_canonical_eq htab, ?_⟩
    rintro ns rfl us hus
    have hnone := last?_of_canonical_eq htab "elements"
    rw [hus] at hnone
    cases hnone

theorem load_bareText_malformed :
    (∀ v, TextOf v bareText → NoPlaces v) ∧ ∃ e, load bareText = .error (.malformed e) := by
  refine ⟨fun v => noPlaces_bareText, ?_⟩
  obtain ⟨-, -, hobject, -⟩ := load_follows_format bareText fun v => noPlaces_bareText
  obtain ⟨-, -, hmalformed, -⟩ := hobject _ textOf_bareText
  refine hmalformed.mpr ⟨?_, ?_, ?_⟩
  · rintro (h | h) <;> cases h
  · rintro (h | h) <;> cases h
  · rintro ⟨d, ms, hms, ⟨w, hw, ns, rfl, ⟨u, hu, -⟩, -⟩, -⟩
    cases hms
    cases hw
    cases hu

end ControlPanel.Document
