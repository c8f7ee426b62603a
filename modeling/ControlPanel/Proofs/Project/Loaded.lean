import ControlPanel.Proofs.Json.Range
import ControlPanel.Proofs.Project.Savable

namespace ControlPanel

open Json

/-- The values of the record are in range. -/
def Record.InRange (r : Record) : Prop :=
  match r.source with
  | .members ms => ∀ m ∈ ms, m.2.InRange
  | .places vs => ∀ v ∈ vs, v.InRange

theorem Record.inRange_of_ofJson {name : String} {forms : List FieldForm} {v : Json} {r : Record}
    (hv : v.InRange) (h : Record.ofJson name forms v = .ok r) : r.InRange := by
  cases hv with
  | array hvs =>
      cases h
      exact hvs
  | object hms =>
      obtain ⟨_, -, hr⟩ := Outcome.bind_eq_ok_iff.mp h
      cases hr
      exact hms
  | null | bool | text | whole | real => cases h

/-- The value of a field is read from a value in range, or stands in for a missing one. -/
theorem Record.get_eq_ok {α : Type} {r : Record} {place : Nat} {f : Field α} {a : α}
    (hr : r.InRange) (h : r.get place f = .ok a) :
    (∃ v : Json, v.InRange ∧ f.read v = .ok a) ∨ f.standIn = some a := by
  obtain ⟨name, size, source⟩ := r
  have hmissing : (Record.mk name size source).missing place f = .ok a → f.standIn = some a := by
    intro h
    rw [missing] at h
    cases hstandIn : f.standIn with
    | some b =>
        rw [hstandIn] at h
        cases h
        rfl
    | none =>
        rw [hstandIn] at h
        cases source <;> cases h
  rw [get] at h
  cases source with
  | members ms =>
      cases hmember : member? f.name ms with
      | none =>
          simp only [hmember] at h
          exact .inr (hmissing h)
      | some v =>
          simp only [hmember] at h
          obtain ⟨m, hm, rfl⟩ := Option.map_eq_some_iff.mp hmember
          exact .inl ⟨m.2, hr m (List.mem_of_find?_eq_some hm), h⟩
  | places vs =>
      cases hplace : vs[place]? with
      | none =>
          simp only [hplace] at h
          exact .inr (hmissing h)
      | some v =>
          simp only [hplace] at h
          exact .inl ⟨v, hr v (List.mem_of_getElem? hplace), h⟩

theorem Record.get_number_finite {r : Record} {place : Nat} {key : String} {x : Binary64}
    (hr : r.InRange) (h : r.get place (Fields.number key) = .ok x) : x.isFinite = true := by
  rcases Record.get_eq_ok hr h with ⟨v, hv, hread⟩ | hstandIn
  · cases hv with
    | whole hn =>
        cases hread
        exact Binary64.isFinite_ofDecimal hn _
    | real hx =>
        cases hread
        exact hx
    | null | bool | text | array | object => cases hread
  · cases hstandIn

theorem forall_of_readList {α : Type} {read : Json → Read α} {good : α → Prop} {v : Json}
    {as : List α} (hread : ∀ {v a}, v.InRange → read v = .ok a → good a) (hv : v.InRange)
    (h : readList read v = .ok as) : ∀ a ∈ as, good a := by
  cases hv with
  | @array vs hvs =>
      rw [readList] at h
      induction vs generalizing as with
      | nil =>
          cases h
          simp
      | cons v vs ih =>
          simp only [readItems, Outcome.bind_eq_ok_iff, Outcome.pure_eq_ok_iff] at h
          obtain ⟨a, ha, bs, hbs, rfl⟩ := h
          obtain ⟨hhead, htail⟩ := List.forall_mem_cons.mp hvs
          exact List.forall_mem_cons.mpr ⟨hread hhead ha, ih htail hbs⟩
  | null | bool | text | whole | real | object => cases h

theorem Widget.brokenField?_of_controlOf {r : Record} {kind : WidgetKind} {c : Control}
    (hr : r.InRange) (h : controlOf r kind = .ok c) (id : WidgetId) (name : String) :
    brokenField? ⟨id, name, c⟩ = none := by
  cases kind <;> simp only [controlOf, Outcome.bind_eq_ok_iff, Outcome.pure_eq_ok_iff] at h
  case slider =>
    obtain ⟨min, hmin, max, hmax, value, hvalue, _, -, _, -, rfl⟩ := h
    exact Slider.brokenField?_eq_none_iff.mpr ⟨Record.get_number_finite hr hmin,
      Record.get_number_finite hr hmax, Record.get_number_finite hr hvalue⟩
  case button | label | paragraph =>
    obtain ⟨_, -, rfl⟩ := h
    rfl
  case toggle =>
    obtain ⟨_, -, _, -, rfl⟩ := h
    rfl
  case input | keybind =>
    obtain ⟨_, -, _, -, _, -, rfl⟩ := h
    rfl
  case dropdown =>
    obtain ⟨_, -, _, -, _, -, _, -, rfl⟩ := h
    rfl

theorem Widget.brokenField?_of_ofJson {v : Json} {w : Widget} (hv : v.InRange)
    (h : ofJson v = .ok w) : w.brokenField? = none := by
  have hfields : ∀ {kind v}, InRange v → ofFields kind v = .ok w → w.brokenField? = none := by
    intro kind v hv h
    simp only [ofFields, Outcome.bind_eq_ok_iff, Outcome.pure_eq_ok_iff] at h
    obtain ⟨r, hr, id, -, name, -, c, hc, _, -, rfl⟩ := h
    exact brokenField?_of_controlOf (Record.inRange_of_ofJson hv hr) hc ⟨id⟩ name
  cases hv with
  | @object ms hms =>
      rw [ofJson] at h
      split at h
      · cases h
      · obtain ⟨kind, -, h⟩ := Outcome.bind_eq_ok_iff.mp h
        exact hfields (.object hms) h
  | @array vs hvs =>
      cases vs with
      | nil => cases h
      | cons tag vs =>
          obtain ⟨kind, -, h⟩ := Outcome.bind_eq_ok_iff.mp h
          exact hfields (.array (List.forall_mem_cons.mp hvs).2) h
  | null | bool | text | whole | real => cases h

theorem Tab.brokenField?_of_ofJson {v : Json} {t : Tab} (hv : v.InRange) (h : ofJson v = .ok t) :
    ∀ w ∈ t.widgets, w.brokenField? = none := by
  simp only [ofJson, Outcome.bind_eq_ok_iff, Outcome.pure_eq_ok_iff] at h
  obtain ⟨r, hr, _, -, _, -, _, -, ws, hws, _, -, rfl⟩ := h
  rcases Record.get_eq_ok (Record.inRange_of_ofJson hv hr) hws with ⟨u, hu, hread⟩ | hstandIn
  · exact forall_of_readList Widget.brokenField?_of_ofJson hu hread
  · cases hstandIn

namespace Document

theorem brokenField?_of_ofJson {v : Json} {d : Document} (hv : v.InRange)
    (h : ofJson v = .ok d) : ∀ w ∈ d.widgets, w.brokenField? = none := by
  simp only [ofJson, Outcome.bind_eq_ok_iff, Outcome.pure_eq_ok_iff] at h
  obtain ⟨r, hr, _, -, ts, hts, rfl⟩ := h
  rcases Record.get_eq_ok (Record.inRange_of_ofJson hv hr) hts with ⟨u, hu, hread⟩ | hstandIn
  · have htabs := forall_of_readList Tab.brokenField?_of_ofJson hu hread
    intro w hw
    obtain ⟨t, ht, hw⟩ := List.mem_flatMap.mp hw
    exact htabs t ht w hw
  · cases hstandIn

theorem ofProject_eq_ok {v : Json} {d : Document} (h : ofProject v = .ok d) :
    ofJson v = .ok d ∧ d.validate = .ok () := by
  cases v with
  | object ms =>
      obtain ⟨_, -, h⟩ := Outcome.bind_eq_ok_iff.mp h
      obtain ⟨_, -, h⟩ := Outcome.bind_eq_ok_iff.mp h
      exact checked_eq_ok_iff.mp h
  | null | bool | whole | real | text | array => cases h

theorem savable_of_load {s : String} {d : Document} (h : load s = .ok d) : d.Savable := by
  rw [load] at h
  cases hparse : parse s with
  | error e =>
      rw [hparse] at h
      cases h
  | ok v =>
      rw [hparse] at h
      obtain ⟨hread, hvalid⟩ := ofProject_eq_ok h
      exact ⟨hvalid, brokenField?_of_ofJson (inRange_of_parse hparse) hread⟩

/-- Whatever was loaded can be saved and compiled. It loads again from the text that it is saved as,
and saving it once more gives the same text. -/
theorem loaded_saves {s : String} {d : Document} (h : load s = .ok d) (options : ScriptOptions) :
    d.validate = .ok () ∧ (∀ n ∈ d.numbers, n.value.isFinite = true) ∧
      (∃ script, d.compile options = .ok script) ∧
      ∃ t, d.save = .ok t ∧ load t = .ok d ∧ (load t >>= save) = .ok t := by
  have hd := savable_of_load h
  refine ⟨hd.valid, (savable_iff.mp hd).2, hd.exists_compile options, _, hd.save_eq,
    hd.load_pretty, ?_⟩
  rw [hd.load_pretty]
  exact hd.save_eq

/-- Tabs as another program may write them: members in another order or without keys, no icon, and
numbers that are too small to tell from zero, too large for 64 bits, and a zero with a sign. -/
def foreignTabs : String :=
  "\x7b\"tabs\":[\x7b\"elements\":" ++
    "[[\"Slider\",\"a\",\"\",1e-400,36893488147419103232,-0,\"\",\"\"]]," ++
    "\"name\":\"\",\"id\":\"a\"\x7d],"

/-- A window behind the tabs, without settings of the key. -/
def foreignWindow : String :=
  "\"window\": [\"\",\"\",\"\",[false,\"\",\"\"],false]\x7d"

theorem loaded_saves_foreign :
    ∃ d t, load (foreignTabs ++ foreignWindow) = .ok d ∧ d.save = .ok t ∧ load t = .ok d := by
  have hloads : (load (foreignTabs ++ foreignWindow)).toOption.isSome = true := by
    rw [load, parse, String.toList_append]
    decide +kernel
  obtain ⟨d, hd⟩ := Outcome.exists_ok hloads
  obtain ⟨-, -, -, t, hsave, hload, -⟩ := loaded_saves hd {}
  exact ⟨d, t, hd, hsave, hload⟩

end Document

end ControlPanel
