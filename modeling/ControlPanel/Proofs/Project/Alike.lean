import ControlPanel.Proofs.Project.Records

namespace ControlPanel

open Json

/-- Values that are told apart by no reader of plain values. -/
inductive Json.Alike : Json → Json → Prop
  | refl (v : Json) : Alike v v
  | arrays (vs us : List Json) : Alike (.array vs) (.array us)
  | objects (ms ns : List (String × Json)) : Alike (.object ms) (.object ns)

inductive AlikeLists (same : Json → Json → Prop) : Json → Json → Prop
  | plain {v u : Json} (hv : NoArray v) (h : Json.Alike v u) : AlikeLists same v u
  | arrays {vs us : List Json} (h : List.Forall₂ same vs us) :
      AlikeLists same (.array vs) (.array us)

/-- The members that count for the keys are the same, each in its own sense. -/
def AlikeMembers (fields : List (String × (Json → Json → Prop))) (ms ns : List (String × Json)) :
    Prop :=
  ∀ f ∈ fields, Option.Rel f.2 (last? f.1 ms) (last? f.1 ns)

inductive AlikeRecords (fields : List (String × (Json → Json → Prop))) : Json → Json → Prop
  | plain {v : Json} (hv : ∀ ms, v ≠ .object ms) : AlikeRecords fields v v
  | objects {ms ns : List (String × Json)} (h : AlikeMembers fields ms ns) :
      AlikeRecords fields (.object ms) (.object ns)

def ConfigurationSaving.Alike : Json → Json → Prop :=
  AlikeRecords [("enabled", Json.Alike), ("folderName", Json.Alike), ("fileName", Json.Alike)]

def KeySettings.Alike : Json → Json → Prop :=
  AlikeRecords
    [("title", Json.Alike), ("subtitle", Json.Alike), ("note", Json.Alike),
     ("fileName", Json.Alike), ("saveKey", Json.Alike), ("grabbingKey", Json.Alike),
     ("key", Json.Alike)]

def Window.Alike : Json → Json → Prop :=
  AlikeRecords
    [("name", Json.Alike), ("loadingTitle", Json.Alike), ("loadingSubtitle", Json.Alike),
     ("configurationSaving", ConfigurationSaving.Alike), ("keySystem", Json.Alike),
     ("keySettings", KeySettings.Alike)]

/-- The fields that belong to a kind of widget. -/
def WidgetKind.fields : WidgetKind → List (String × (Json → Json → Prop))
  | button => [("callbackLogic", Json.Alike)]
  | toggle => [("default", Json.Alike), ("callbackLogic", Json.Alike)]
  | slider =>
    [("min", Json.Alike), ("max", Json.Alike), ("default", Json.Alike), ("suffix", Json.Alike),
     ("callbackLogic", Json.Alike)]
  | input =>
    [("placeholder", Json.Alike), ("removeTextAfterFocusLost", Json.Alike),
     ("callbackLogic", Json.Alike)]
  | label => [("color", Json.Alike)]
  | paragraph => [("content", Json.Alike)]
  | keybind =>
    [("defaultKey", Json.Alike), ("holdToInteract", Json.Alike), ("callbackLogic", Json.Alike)]
  | dropdown =>
    [("options", AlikeLists Json.Alike), ("defaultOption", Json.Alike),
     ("multiSelection", Json.Alike), ("callbackLogic", Json.Alike)]

/-- Which fields count depends on the tag. -/
inductive Widget.Alike : Json → Json → Prop
  | plain {v : Json} (hv : ∀ ms, v ≠ .object ms) : Widget.Alike v v
  | objects {ms ns : List (String × Json)}
      (htag : Option.Rel Json.Alike (last? "type" ms) (last? "type" ns))
      (h : ∀ kind : WidgetKind, last? "type" ms = some (.text kind.name) →
        AlikeMembers (("id", Json.Alike) :: ("name", Json.Alike) :: kind.fields) ms ns) :
      Widget.Alike (.object ms) (.object ns)

def Tab.Alike : Json → Json → Prop :=
  AlikeRecords
    [("id", Json.Alike), ("name", Json.Alike), ("icon", Json.Alike),
     ("elements", AlikeLists Widget.Alike)]

def Document.Alike : Json → Json → Prop :=
  AlikeRecords [("window", Window.Alike), ("tabs", AlikeLists Tab.Alike)]

/-- Both give the same value, or errors with the same message. -/
def SameResult {α : Type} (x y : Read α) : Prop :=
  x.mapError Misfit.message = y.mapError Misfit.message

theorem SameResult.refl {α : Type} (x : Read α) : SameResult x x :=
  Eq.refl _

theorem SameResult.bind_of_ok {α β : Type} {x y : Read α} {f g : α → Read β}
    (h : SameResult x y) (hfg : ∀ a, x = .ok a → SameResult (f a) (g a)) :
    SameResult (x >>= f) (y >>= g) := by
  cases x with
  | error e =>
      cases y with
      | error e' => exact congrArg Except.error (Except.error.inj h)
      | ok b => cases h
  | ok a =>
      cases y with
      | error e => cases h
      | ok b =>
          cases h
          exact hfg a rfl

theorem SameResult.bind {α β : Type} {x y : Read α} {f g : α → Read β} (h : SameResult x y)
    (hfg : ∀ a, SameResult (f a) (g a)) : SameResult (x >>= f) (y >>= g) :=
  h.bind_of_ok fun a _ => hfg a

theorem Misfit.message_wrongType (v : Json) (expected : Expectation) :
    (Misfit.wrongType v expected).message =
      "invalid type: " ++ v.shown ++ ", expected " ++ expected.message :=
  rfl

theorem sameResult_wrongType {α : Type} {v u : Json} {expected : Expectation}
    (h : v.shown = u.shown) :
    SameResult (.error (.wrongType v expected) : Read α) (.error (.wrongType u expected)) := by
  rw [SameResult, Except.mapError, Except.mapError, Misfit.message_wrongType,
    Misfit.message_wrongType, h]

/-- Values that are the same in the given sense are read alike. -/
def ReadsAlike {α : Type} (read : Json → Read α) (same : Json → Json → Prop) : Prop :=
  ∀ v u, same v u → SameResult (read (canonical v)) (read (canonical u))

/-- A reader that refuses arrays and objects tells none of either apart. -/
theorem readsAlike_plain {α : Type} {read : Json → Read α} {expected : Expectation}
    (harrays : ∀ vs, read (.array vs) = .error (.wrongType (.array vs) expected))
    (hobjects : ∀ ms, read (.object ms) = .error (.wrongType (.object ms) expected)) :
    ReadsAlike read Json.Alike := by
  intro v u h
  cases h with
  | refl => exact SameResult.refl _
  | arrays vs us =>
      rw [canonical_array, canonical_array, harrays, harrays]
      exact sameResult_wrongType rfl
  | objects ms ns =>
      rw [canonical_object_eq, canonical_object_eq, hobjects, hobjects]
      exact sameResult_wrongType rfl

theorem readsAlike_text : ReadsAlike readText Json.Alike :=
  readsAlike_plain (fun _ => rfl) fun _ => rfl

theorem readsAlike_truth : ReadsAlike readTruth Json.Alike :=
  readsAlike_plain (fun _ => rfl) fun _ => rfl

theorem readsAlike_number : ReadsAlike readNumber Json.Alike :=
  readsAlike_plain (fun _ => rfl) fun _ => rfl

theorem readsAlike_textOrNull : ReadsAlike readOptionalText Json.Alike :=
  readsAlike_plain (fun _ => rfl) fun _ => rfl

theorem readsAlike_list {α : Type} {read : Json → Read α} {same : Json → Json → Prop}
    (hread : ReadsAlike read same) : ReadsAlike (readList read) (AlikeLists same) := by
  intro v u h
  cases h with
  | plain hv h =>
      cases h with
      | refl => exact SameResult.refl _
      | arrays vs us => exact absurd rfl (hv vs)
      | objects ms ns =>
          rw [canonical_object_eq, canonical_object_eq]
          exact sameResult_wrongType rfl
  | arrays h =>
      rw [canonical_array, canonical_array, readList, readList]
      induction h with
      | nil => exact SameResult.refl _
      | cons hsame _ ih => exact (hread _ _ hsame).bind fun _ => ih.bind fun _ => SameResult.refl _

/-- The members for a form are both missing, or checked alike. -/
def FieldForm.Alike (f : FieldForm) (ks ls : List (String × Json)) : Prop :=
  Option.Rel (fun v u => SameResult (f.check v) (f.check u)) (member? f.name ks)
    (member? f.name ls)

/-- The members that belong to a form. -/
def knownMembers (forms : List FieldForm) (ks : List (String × Json)) : List (String × Json) :=
  ks.filter fun m => (forms.find? fun f => f.name == m.1).isSome

theorem checkMembers_knownMembers (forms : List FieldForm) (ks : List (String × Json)) :
    Record.checkMembers forms (knownMembers forms ks) = Record.checkMembers forms ks := by
  induction ks with
  | nil => rfl
  | cons m ks ih =>
      obtain ⟨key, v⟩ := m
      rw [knownMembers] at ih ⊢
      cases hfind : forms.find? fun f => f.name == key with
      | none => simp only [List.filter_cons, hfind, Record.checkMembers, ih, Option.isSome_none,
          Bool.false_eq_true, if_false]
      | some f => simp only [List.filter_cons, hfind, Record.checkMembers, ih, Option.isSome_some,
          if_true]

theorem member?_knownMembers {forms : List FieldForm} {f : FieldForm} (hf : f ∈ forms)
    (ks : List (String × Json)) : member? f.name (knownMembers forms ks) = member? f.name ks := by
  rw [member?, member?, knownMembers, List.find?_filter]
  congr 2
  funext m
  by_cases hm : m.1 = f.name
  · have hsome : (forms.find? fun g => g.name == m.1).isSome = true := by
      rw [List.find?_isSome]
      exact ⟨f, hf, by simp [hm]⟩
    simp only [hsome, true_and, Bool.decide_eq_true]
  · simp [hm]

theorem member?_eq_none_of_lt {key : String} {ks : List (String × Json)}
    (hks : ∀ m ∈ ks, key < m.1) : member? key ks = none := by
  rw [member?, Option.map_eq_none_iff, List.find?_eq_none]
  intro m hm
  simpa using (hks m hm).ne'

/-- Some member before all of the others is known, so its form tells the two lists apart. -/
theorem not_alike_of_lt {forms : List FieldForm} {m : String × Json}
    {ks ls : List (String × Json)} (hm : (forms.find? fun f => f.name == m.1).isSome = true)
    (hls : ∀ n ∈ ls, m.1 < n.1) : ¬ ∀ f ∈ forms, f.Alike (m :: ks) ls := by
  intro h
  obtain ⟨f, hf, hname⟩ := List.find?_isSome.mp hm
  have hname : f.name = m.1 := by simpa using hname
  have halike := h f hf
  rw [FieldForm.Alike, hname, member?_cons, if_pos rfl, member?_eq_none_of_lt hls] at halike
  cases halike

theorem FieldForm.Alike.symm {f : FieldForm} {ks ls : List (String × Json)} (h : f.Alike ks ls) :
    f.Alike ls ks := by
  rw [FieldForm.Alike] at h ⊢
  generalize member? f.name ks = v?, member? f.name ls = u? at h ⊢
  cases h with
  | none => exact .none
  | some h => exact .some (Eq.symm h)

theorem checkMembers_alike_of_known {forms : List FieldForm} {ks ls : List (String × Json)}
    (hks : Ascending ks) (hls : Ascending ls)
    (hknown : ∀ m ∈ ks, (forms.find? fun f => f.name == m.1).isSome = true)
    (hknown' : ∀ m ∈ ls, (forms.find? fun f => f.name == m.1).isSome = true)
    (h : ∀ f ∈ forms, f.Alike ks ls) :
    SameResult (Record.checkMembers forms ks) (Record.checkMembers forms ls) := by
  induction ks generalizing ls with
  | nil =>
      cases ls with
      | nil => exact SameResult.refl _
      | cons n ls =>
          exact absurd (fun f hf => (h f hf).symm)
            (not_alike_of_lt (hknown' n (by simp)) (List.forall_mem_nil _))
  | cons m ks ih =>
      obtain ⟨hhead, htail⟩ := List.pairwise_cons.mp hks
      cases ls with
      | nil => exact absurd h (not_alike_of_lt (hknown m (by simp)) (List.forall_mem_nil _))
      | cons n ls =>
          obtain ⟨hhead', htail'⟩ := List.pairwise_cons.mp hls
          obtain ⟨key, v⟩ := m
          obtain ⟨key', u⟩ := n
          have hkey : key = key' := by
            rcases lt_trichotomy key key' with hlt | heq | hlt
            · refine absurd h (not_alike_of_lt (hknown _ (by simp)) ?_)
              exact List.forall_mem_cons.mpr ⟨hlt, fun n hn => hlt.trans (hhead' n hn)⟩
            · exact heq
            · refine absurd (fun f hf => (h f hf).symm)
                (not_alike_of_lt (hknown' _ (by simp)) ?_)
              exact List.forall_mem_cons.mpr ⟨hlt, fun n hn => hlt.trans (hhead n hn)⟩
          subst hkey
          obtain ⟨f, hfind⟩ := Option.isSome_iff_exists.mp (hknown (key, v) (by simp))
          have hf : f ∈ forms := List.mem_of_find?_eq_some hfind
          have hname : f.name = key := by simpa using List.find?_some hfind
          rw [Record.checkMembers, Record.checkMembers, hfind]
          have hcheck : SameResult (f.check v) (f.check u) := by
            have halike := h f hf
            rw [FieldForm.Alike, hname, member?_cons, member?_cons, if_pos rfl, if_pos rfl]
              at halike
            cases halike
            assumption
          refine hcheck.bind fun _ => ih htail htail' (fun n hn => hknown n (by simp [hn]))
            (fun n hn => hknown' n (by simp [hn])) fun g hg => ?_
          have halike := h g hg
          rw [FieldForm.Alike, member?_cons, member?_cons] at halike
          by_cases hg : key = g.name
          · rw [FieldForm.Alike, ← hg, member?_eq_none_of_lt hhead, member?_eq_none_of_lt hhead']
            exact .none
          · rwa [if_neg hg, if_neg hg] at halike

theorem checkMembers_alike {forms : List FieldForm} {ks ls : List (String × Json)}
    (hks : Ascending ks) (hls : Ascending ls) (h : ∀ f ∈ forms, f.Alike ks ls) :
    SameResult (Record.checkMembers forms ks) (Record.checkMembers forms ls) := by
  rw [← checkMembers_knownMembers forms ks, ← checkMembers_knownMembers forms ls]
  refine checkMembers_alike_of_known (List.Pairwise.filter _ hks) (List.Pairwise.filter _ hls)
    (fun m hm => (List.mem_filter.mp hm).2) (fun m hm => (List.mem_filter.mp hm).2) ?_
  intro f hf
  rw [FieldForm.Alike, member?_knownMembers hf, member?_knownMembers hf]
  exact h f hf

section

variable {α : Type} {name : String} {forms : List FieldForm} {ms ns : List (String × Json)}
  {place : Nat} {f : Field α} {same : Json → Json → Prop}

theorem get_alike (hread : ReadsAlike f.read same)
    (h : Option.Rel same (last? f.name ms) (last? f.name ns)) :
    SameResult ((recordOf name forms ms).get place f) ((recordOf name forms ns).get place f) := by
  rw [get_recordOf, get_recordOf]
  generalize last? f.name ms = v?, last? f.name ns = u? at h
  cases h with
  | none => exact SameResult.refl _
  | some h => exact hread _ _ h

theorem form_alike (hread : ReadsAlike f.read same)
    (h : Option.Rel same (last? f.name ms) (last? f.name ns)) :
    f.form.Alike (heldMembers ms) (heldMembers ns) := by
  have hname : f.form.name = f.name := rfl
  rw [FieldForm.Alike, hname, member?_heldMembers, member?_heldMembers]
  generalize last? f.name ms = v?, last? f.name ns = u? at h
  cases h with
  | none => exact .none
  | some h => exact .some ((hread _ _ h).bind fun _ => SameResult.refl _)

theorem record_alike {body : Record → Read α}
    {v u : Json} {fields : List (String × (Json → Json → Prop))} (h : AlikeRecords fields v u)
    (hfields : ∀ ms ns, AlikeMembers fields ms ns →
      (∀ f ∈ forms, f.Alike (heldMembers ms) (heldMembers ns)) ∧
        SameResult (body (recordOf name forms ms)) (body (recordOf name forms ns))) :
    SameResult (Record.ofJson name forms (canonical v) >>= body)
      (Record.ofJson name forms (canonical u) >>= body) := by
  cases h with
  | plain => exact SameResult.refl _
  | @objects ms ns h =>
      rw [canonical_object_eq, canonical_object_eq, Record.ofJson, Record.ofJson, bind_assoc,
        bind_assoc]
      obtain ⟨hforms, hbody⟩ := hfields ms ns h
      refine (checkMembers_alike (ascending_keptMembers _) (ascending_keptMembers _)
        hforms).bind fun _ => ?_
      rw [pure_bind, pure_bind]
      exact hbody

end

theorem ConfigurationSaving.readsAlike :
    ReadsAlike ConfigurationSaving.ofJson ConfigurationSaving.Alike := by
  intro v u h
  refine record_alike h fun ms ns hfields => ?_
  simp only [AlikeMembers, List.forall_mem_cons] at hfields
  obtain ⟨henabled, hfolder, hfile, -⟩ := hfields
  refine ⟨?_, ?_⟩
  · simp only [forms, List.forall_mem_cons]
    exact ⟨form_alike readsAlike_truth henabled, form_alike readsAlike_text hfolder,
      form_alike readsAlike_text hfile, List.forall_mem_nil _⟩
  · exact (get_alike readsAlike_truth henabled).bind fun _ =>
      (get_alike readsAlike_text hfolder).bind fun _ =>
      (get_alike readsAlike_text hfile).bind fun _ => SameResult.refl _

theorem KeySettings.readsAlike : ReadsAlike KeySettings.ofJson KeySettings.Alike := by
  intro v u h
  refine record_alike h fun ms ns hfields => ?_
  simp only [AlikeMembers, List.forall_mem_cons] at hfields
  obtain ⟨htitle, hsubtitle, hnote, hfile, hsave, hgrabbing, hkey, -⟩ := hfields
  refine ⟨?_, ?_⟩
  · simp only [forms, List.forall_mem_cons]
    exact ⟨form_alike readsAlike_text htitle, form_alike readsAlike_text hsubtitle,
      form_alike readsAlike_text hnote, form_alike readsAlike_text hfile,
      form_alike readsAlike_truth hsave, form_alike readsAlike_text hgrabbing,
      form_alike readsAlike_text hkey, List.forall_mem_nil _⟩
  · exact (get_alike readsAlike_text htitle).bind fun _ =>
      (get_alike readsAlike_text hsubtitle).bind fun _ =>
      (get_alike readsAlike_text hnote).bind fun _ =>
      (get_alike readsAlike_text hfile).bind fun _ =>
      (get_alike readsAlike_truth hsave).bind fun _ =>
      (get_alike readsAlike_text hgrabbing).bind fun _ =>
      (get_alike readsAlike_text hkey).bind fun _ => SameResult.refl _

theorem Window.readsAlike : ReadsAlike Window.ofJson Window.Alike := by
  intro v u h
  refine record_alike h fun ms ns hfields => ?_
  simp only [AlikeMembers, List.forall_mem_cons] at hfields
  obtain ⟨hname, htitle, hsubtitle, hsaving, hsystem, hkey, -⟩ := hfields
  refine ⟨?_, ?_⟩
  · simp only [forms, List.forall_mem_cons]
    exact ⟨form_alike readsAlike_text hname, form_alike readsAlike_text htitle,
      form_alike readsAlike_text hsubtitle, form_alike ConfigurationSaving.readsAlike hsaving,
      form_alike readsAlike_truth hsystem, form_alike KeySettings.readsAlike hkey,
      List.forall_mem_nil _⟩
  · exact (get_alike readsAlike_text hname).bind fun _ =>
      (get_alike readsAlike_text htitle).bind fun _ =>
      (get_alike readsAlike_text hsubtitle).bind fun _ =>
      (get_alike ConfigurationSaving.readsAlike hsaving).bind fun _ =>
      (get_alike readsAlike_truth hsystem).bind fun _ =>
      (get_alike KeySettings.readsAlike hkey).bind fun _ => SameResult.refl _

section

variable {name : String} {forms : List FieldForm} {ms ns : List (String × Json)}

theorem Widget.kindForms_alike {kind : WidgetKind} (h : AlikeMembers kind.fields ms ns) :
    ∀ f ∈ Widget.kindForms kind, f.Alike (heldMembers ms) (heldMembers ns) := by
  cases kind <;>
    simp only [AlikeMembers, WidgetKind.fields, List.forall_mem_cons] at h <;>
    simp only [Widget.kindForms, List.forall_mem_cons]
  case button =>
    obtain ⟨hbody, -⟩ := h
    exact ⟨form_alike readsAlike_text hbody, List.forall_mem_nil _⟩
  case toggle =>
    obtain ⟨hstate, hbody, -⟩ := h
    exact ⟨form_alike readsAlike_truth hstate, form_alike readsAlike_text hbody,
      List.forall_mem_nil _⟩
  case slider =>
    obtain ⟨hmin, hmax, hvalue, hsuffix, hbody, -⟩ := h
    exact ⟨form_alike readsAlike_number hmin, form_alike readsAlike_number hmax,
      form_alike readsAlike_number hvalue, form_alike readsAlike_text hsuffix,
      form_alike readsAlike_text hbody, List.forall_mem_nil _⟩
  case input =>
    obtain ⟨hplaceholder, hclears, hbody, -⟩ := h
    exact ⟨form_alike readsAlike_text hplaceholder, form_alike readsAlike_truth hclears,
      form_alike readsAlike_text hbody, List.forall_mem_nil _⟩
  case label =>
    obtain ⟨hcolor, -⟩ := h
    exact ⟨form_alike readsAlike_textOrNull hcolor, List.forall_mem_nil _⟩
  case paragraph =>
    obtain ⟨hcontent, -⟩ := h
    exact ⟨form_alike readsAlike_text hcontent, List.forall_mem_nil _⟩
  case keybind =>
    obtain ⟨hkey, hmust, hbody, -⟩ := h
    exact ⟨form_alike readsAlike_text hkey, form_alike readsAlike_truth hmust,
      form_alike readsAlike_text hbody, List.forall_mem_nil _⟩
  case dropdown =>
    obtain ⟨hoptions, hselected, hseveral, hbody, -⟩ := h
    exact ⟨form_alike (readsAlike_list readsAlike_text) hoptions,
      form_alike readsAlike_text hselected, form_alike readsAlike_truth hseveral,
      form_alike readsAlike_text hbody, List.forall_mem_nil _⟩

theorem Widget.controlOf_alike {kind : WidgetKind} (h : AlikeMembers kind.fields ms ns) :
    SameResult (Widget.controlOf (recordOf name forms ms) kind)
      (Widget.controlOf (recordOf name forms ns) kind) := by
  cases kind <;> simp only [AlikeMembers, WidgetKind.fields, List.forall_mem_cons] at h
  case button =>
    obtain ⟨hbody, -⟩ := h
    exact (get_alike readsAlike_text hbody).bind fun _ => SameResult.refl _
  case toggle =>
    obtain ⟨hstate, hbody, -⟩ := h
    exact (get_alike readsAlike_truth hstate).bind fun _ =>
      (get_alike readsAlike_text hbody).bind fun _ => SameResult.refl _
  case slider =>
    obtain ⟨hmin, hmax, hvalue, hsuffix, hbody, -⟩ := h
    exact (get_alike readsAlike_number hmin).bind fun _ =>
      (get_alike readsAlike_number hmax).bind fun _ =>
      (get_alike readsAlike_number hvalue).bind fun _ =>
      (get_alike readsAlike_text hsuffix).bind fun _ =>
      (get_alike readsAlike_text hbody).bind fun _ => SameResult.refl _
  case input =>
    obtain ⟨hplaceholder, hclears, hbody, -⟩ := h
    exact (get_alike readsAlike_text hplaceholder).bind fun _ =>
      (get_alike readsAlike_truth hclears).bind fun _ =>
      (get_alike readsAlike_text hbody).bind fun _ => SameResult.refl _
  case label =>
    obtain ⟨hcolor, -⟩ := h
    exact (get_alike readsAlike_textOrNull hcolor).bind fun _ => SameResult.refl _
  case paragraph =>
    obtain ⟨hcontent, -⟩ := h
    exact (get_alike readsAlike_text hcontent).bind fun _ => SameResult.refl _
  case keybind =>
    obtain ⟨hkey, hmust, hbody, -⟩ := h
    exact (get_alike readsAlike_text hkey).bind fun _ =>
      (get_alike readsAlike_truth hmust).bind fun _ =>
      (get_alike readsAlike_text hbody).bind fun _ => SameResult.refl _
  case dropdown =>
    obtain ⟨hoptions, hselected, hseveral, hbody, -⟩ := h
    exact (get_alike (readsAlike_list readsAlike_text) hoptions).bind fun _ =>
      (get_alike readsAlike_text hselected).bind fun _ =>
      (get_alike readsAlike_truth hseveral).bind fun _ =>
      (get_alike readsAlike_text hbody).bind fun _ => SameResult.refl _

end

theorem Widget.ofFields_alike {kind : WidgetKind} {ms ns : List (String × Json)}
    (h : AlikeMembers (("id", Json.Alike) :: ("name", Json.Alike) :: kind.fields) ms ns) :
    SameResult (Widget.ofFields kind (canonical (.object ms)))
      (Widget.ofFields kind (canonical (.object ns))) := by
  refine record_alike (.objects h) fun ms ns hfields => ?_
  obtain ⟨hid, hrest⟩ := List.forall_mem_cons.mp hfields
  obtain ⟨hname, hcontrol⟩ := List.forall_mem_cons.mp hrest
  refine ⟨?_, ?_⟩
  · simp only [forms, List.forall_mem_cons]
    exact ⟨form_alike readsAlike_text hid, form_alike readsAlike_text hname,
      Widget.kindForms_alike hcontrol⟩
  · exact (get_alike readsAlike_text hid).bind fun _ =>
      (get_alike readsAlike_text hname).bind fun _ =>
      (Widget.controlOf_alike hcontrol).bind fun _ => SameResult.refl _

theorem Widget.readsAlike_kind : ReadsAlike Widget.kindOf Json.Alike :=
  readsAlike_plain (fun _ => rfl) fun _ => rfl

theorem Widget.readsAlike : ReadsAlike Widget.ofJson Widget.Alike := by
  intro v u h
  cases h with
  | plain => exact SameResult.refl _
  | @objects ms ns htag hfields =>
      have hkinds : ∀ kind : WidgetKind, last? "type" ms = some (.text kind.name) →
          SameResult (Widget.ofFields kind (.object (heldMembers ms)))
            (Widget.ofFields kind (.object (heldMembers ns))) := by
        intro kind hkind
        rw [← canonical_object_eq, ← canonical_object_eq]
        exact Widget.ofFields_alike (hfields kind hkind)
      rw [canonical_object_eq, canonical_object_eq, Widget.ofJson, Widget.ofJson,
        member?_heldMembers, member?_heldMembers]
      cases hv : last? "type" ms with
      | none =>
          rw [hv] at htag
          cases hu : last? "type" ns with
          | none => exact SameResult.refl _
          | some u =>
              rw [hu] at htag
              cases htag
      | some v =>
          rw [hv] at htag
          cases hu : last? "type" ns with
          | none =>
              rw [hu] at htag
              cases htag
          | some u =>
              rw [hu] at htag
              cases htag with
              | some h =>
                  refine (Widget.readsAlike_kind v u h).bind_of_ok fun kind hkind => ?_
                  rw [Widget.kindOf_eq_ok_iff] at hkind
                  exact hkinds kind (hv.trans (congrArg some hkind))

theorem Tab.readsAlike : ReadsAlike Tab.ofJson Tab.Alike := by
  intro v u h
  refine record_alike h fun ms ns hfields => ?_
  simp only [AlikeMembers, List.forall_mem_cons] at hfields
  obtain ⟨hid, hname, hicon, hwidgets, -⟩ := hfields
  refine ⟨?_, ?_⟩
  · simp only [forms, List.forall_mem_cons]
    exact ⟨form_alike readsAlike_text hid, form_alike readsAlike_text hname,
      form_alike readsAlike_text hicon, form_alike (readsAlike_list Widget.readsAlike) hwidgets,
      List.forall_mem_nil _⟩
  · exact (get_alike readsAlike_text hid).bind fun _ =>
      (get_alike readsAlike_text hname).bind fun _ =>
      (get_alike readsAlike_text hicon).bind fun _ =>
      (get_alike (readsAlike_list Widget.readsAlike) hwidgets).bind fun _ => SameResult.refl _

theorem Document.readsAlike : ReadsAlike Document.ofJson Document.Alike := by
  intro v u h
  refine record_alike h fun ms ns hfields => ?_
  simp only [AlikeMembers, List.forall_mem_cons] at hfields
  obtain ⟨hwindow, htabs, -⟩ := hfields
  refine ⟨?_, ?_⟩
  · simp only [forms, List.forall_mem_cons]
    exact ⟨form_alike Window.readsAlike hwindow,
      form_alike (readsAlike_list Tab.readsAlike) htabs, List.forall_mem_nil _⟩
  · exact (get_alike Window.readsAlike hwindow).bind fun _ =>
      (get_alike (readsAlike_list Tab.readsAlike) htabs).bind fun _ => SameResult.refl _

end ControlPanel
