import ControlPanel.Proofs.Script.Bindings

namespace ControlPanel

open Script

/-- The text that the widget appends to an empty script when it registers on the target. -/
def Widget.Emits (w : Widget) (target text : String) : Prop :=
  w.register target "" = (text, none)

theorem Widget.emits_iff {w : Widget} {target text : String} :
    w.Emits target text ↔ w.registration target = .ok text := by
  rw [Emits, register]
  cases w.registration target <;> simp

theorem Widget.exists_emits {w : Widget} (hw : ∀ n ∈ w.numbers, n.value.isFinite = true)
    (target : String) : ∃ text, w.Emits target text := by
  have hcheck : checkNumbers [w] = .ok () := by
    rw [checkNumbers, brokenField?_eq_none_iff.mpr hw]
    rfl
  obtain ⟨text, htext⟩ := (registration_verdict target w).given_iff.mpr ⟨(), hcheck⟩
  exact ⟨text, emits_iff.mpr htext⟩

/-- Some document with the widget compiles. -/
def Widget.Compilable (w : Widget) : Prop :=
  ∃ (d : Document) (options : ScriptOptions) (script : String),
    d.compile options = .ok script ∧ w ∈ d.widgets

theorem Widget.Compilable.not_blank {w : Widget} (h : w.Compilable) :
    Text.isBlank w.id.text = false := by
  obtain ⟨d, options, script, hcompile, hw⟩ := h
  obtain ⟨-, hids⟩ := Document.validate_eq_ok_iff.mp (Document.savable_of_compile hcompile).valid
  exact hids.not_blank _ (List.mem_map_of_mem hw)

theorem Widget.Compilable.finite {w : Widget} (h : w.Compilable) :
    ∀ n ∈ w.numbers, n.value.isFinite = true := by
  obtain ⟨d, options, script, hcompile, hw⟩ := h
  exact brokenField?_eq_none_iff.mp ((Document.savable_of_compile hcompile).good w hw)

namespace Script

variable {target text : String} {tabled : Bool} {index : Nat}

theorem registrations_cons_eq_ok_iff {w : Widget} {ws : List Widget} :
    registrations target (w :: ws) = .ok text ↔
      ∃ first rest, w.Emits target first ∧ registrations target ws = .ok rest ∧
        text = "\n" ++ first ++ rest := by
  simp only [registrations, Outcome.bind_eq_ok_iff, Outcome.pure_eq_ok_iff, Widget.emits_iff]
  constructor
  · rintro ⟨first, hfirst, rest, hrest, rfl⟩
    exact ⟨first, rest, hfirst, hrest, rfl⟩
  · rintro ⟨first, rest, hfirst, hrest, rfl⟩
    exact ⟨first, hfirst, rest, hrest, rfl⟩

theorem registrations_append_eq_ok_iff {ws us : List Widget} :
    registrations target (ws ++ us) = .ok text ↔
      ∃ front back, registrations target ws = .ok front ∧ registrations target us = .ok back ∧
        text = front ++ back := by
  induction ws generalizing text with
  | nil => simp [registrations]
  | cons w ws ih =>
      simp only [List.cons_append, registrations_cons_eq_ok_iff, ih]
      constructor
      · rintro ⟨first, _, hfirst, ⟨front, back, hfront, hback, rfl⟩, rfl⟩
        exact ⟨_, back, ⟨first, front, hfirst, hfront, rfl⟩, hback, by
          simp only [String.append_assoc]⟩
      · rintro ⟨_, back, ⟨first, front, hfirst, hfront, rfl⟩, hback, rfl⟩
        exact ⟨first, _, hfirst, ⟨front, back, hfront, hback, rfl⟩, by
          simp only [String.append_assoc]⟩

theorem tabs_cons_eq_ok_iff {t : Tab} {ts : List Tab} :
    tabs tabled index (t :: ts) = .ok text ↔
      ∃ widgets rest, registrations (Script.target tabled index) t.widgets = .ok widgets ∧
        tabs tabled (index + 1) ts = .ok rest ∧
        text = "\n" ++ tabStatement (!tabled) (Script.target tabled index) t ++ widgets ++
          rest := by
  simp only [tabs, Outcome.bind_eq_ok_iff, Outcome.pure_eq_ok_iff]
  constructor
  · rintro ⟨widgets, hwidgets, rest, hrest, rfl⟩
    exact ⟨widgets, rest, hwidgets, hrest, rfl⟩
  · rintro ⟨widgets, rest, hwidgets, hrest, rfl⟩
    exact ⟨widgets, hwidgets, rest, hrest, rfl⟩

theorem tabs_append_eq_ok_iff {ts us : List Tab} :
    tabs tabled index (ts ++ us) = .ok text ↔
      ∃ front back, tabs tabled index ts = .ok front ∧
        tabs tabled (index + ts.length) us = .ok back ∧ text = front ++ back := by
  induction ts generalizing index text with
  | nil => simp [tabs]
  | cons t ts ih =>
      have hlength : index + 1 + ts.length = index + (t :: ts).length := by
        rw [List.length_cons]
        omega
      simp only [List.cons_append, tabs_cons_eq_ok_iff, ih, hlength]
      constructor
      · rintro ⟨widgets, _, hwidgets, ⟨front, back, hfront, hback, rfl⟩, rfl⟩
        exact ⟨_, back, ⟨widgets, front, hwidgets, hfront, rfl⟩, hback, by
          simp only [String.append_assoc]⟩
      · rintro ⟨_, back, ⟨widgets, front, hwidgets, hfront, rfl⟩, hback, rfl⟩
        exact ⟨widgets, _, hwidgets, ⟨front, back, hfront, hback, rfl⟩, by
          simp only [String.append_assoc]⟩

theorem tabs_split_eq_ok_iff {t : Tab} {before after : List Tab} :
    tabs tabled 0 (before ++ t :: after) = .ok text ↔
      ∃ front widgets back, tabs tabled 0 before = .ok front ∧
        registrations (Script.target tabled before.length) t.widgets = .ok widgets ∧
        tabs tabled (before.length + 1) after = .ok back ∧
        text = front ++ "\n" ++ tabStatement (!tabled) (Script.target tabled before.length) t ++
          widgets ++ back := by
  simp only [tabs_append_eq_ok_iff, tabs_cons_eq_ok_iff, Nat.zero_add]
  constructor
  · rintro ⟨front, _, hfront, ⟨widgets, back, hwidgets, hback, rfl⟩, rfl⟩
    exact ⟨front, widgets, back, hfront, hwidgets, hback, by simp only [String.append_assoc]⟩
  · rintro ⟨front, widgets, back, hfront, hwidgets, hback, rfl⟩
    exact ⟨front, _, hfront, ⟨widgets, back, hwidgets, hback, rfl⟩, by
      simp only [String.append_assoc]⟩

end Script

namespace Document

variable {d d' : Document} {options : ScriptOptions} {script : String} {id : TabId}
  {before after : List Tab} {t : Tab}

/-- What a script has before its tabs. -/
def preamble (d : Document) (options : ScriptOptions) : String :=
  header d.window options ++ if d.isTabled then tableStatement else ""

theorem compile_eq_ok_iff :
    d.compile options = .ok script ↔
      d.validate = .ok () ∧ ∃ text, Script.tabs d.isTabled 0 d.tabs = .ok text ∧
        script = d.preamble options ++ text := by
  constructor
  · intro h
    exact ⟨(savable_of_compile h).valid, exists_tabs_of_compile h⟩
  · rintro ⟨hvalid, text, htext, rfl⟩
    rw [compile, hvalid]
    exact Outcome.bind_eq_ok_iff.mpr ⟨text, htext, rfl⟩

/-- The target of the tab with the identifier. -/
def targetOf? (d : Document) (id : TabId) : Option String :=
  (d.tabs.findIdx? fun t => t.id == id).map (Script.target d.isTabled)

theorem FirstTab.targetOf?_eq (h : d.FirstTab id before t after) :
    d.targetOf? id = some (Script.target d.isTabled before.length) := by
  have hnone : before.findIdx? (fun u => u.id == id) = none := by
    rw [List.findIdx?_eq_none_iff]
    intro u hu
    simpa using h.ne_before u hu
  rw [targetOf?, h.tabs_eq, List.findIdx?_append, hnone]
  simp [List.findIdx?_cons, h.id_eq]

theorem isTabled_of_length (h : d'.tabs.length = d.tabs.length) : d'.isTabled = d.isTabled := by
  rw [isTabled, isTabled, h]

/-- The script around the registrations of one tab does not depend on the widgets of the tab. -/
theorem FirstTab.exists_surroundings (hfirst : d.FirstTab id before t after)
    (h : d.compile options = .ok script) :
    ∃ above below widgets,
      registrations (Script.target d.isTabled before.length) t.widgets = .ok widgets ∧
      script = above ++ widgets ++ below ∧ (after = [] → below = "") ∧
      ∀ ws text, (d.replaced before { t with widgets := ws } after).validate = .ok () →
        registrations (Script.target d.isTabled before.length) ws = .ok text →
        (d.replaced before { t with widgets := ws } after).compile options =
          .ok (above ++ text ++ below) := by
  obtain ⟨-, _, htext, rfl⟩ := compile_eq_ok_iff.mp h
  rw [hfirst.tabs_eq] at htext
  obtain ⟨front, widgets, below, hfront, hwidgets, hbelow, rfl⟩ := tabs_split_eq_ok_iff.mp htext
  refine ⟨d.preamble options ++ front ++ "\n" ++
    tabStatement (!d.isTabled) (Script.target d.isTabled before.length) t, below, widgets,
    hwidgets, by simp only [String.append_assoc], ?_, fun ws text hvalid hws => ?_⟩
  · rintro rfl
    cases hbelow
    rfl
  · have htabled : (d.replaced before { t with widgets := ws } after).isTabled = d.isTabled :=
      isTabled_of_length (by simp [hfirst.tabs_eq, replaced])
    have htabs : Script.tabs d.isTabled 0 (before ++ { t with widgets := ws } :: after) = .ok _ :=
      tabs_split_eq_ok_iff.mpr ⟨front, text, below, hfront, hws, hbelow, rfl⟩
    rw [← htabled] at htabs
    refine compile_eq_ok_iff.mpr ⟨hvalid, _, htabs, ?_⟩
    rw [preamble, preamble, htabled]
    simp only [String.append_assoc]
    rfl

theorem compile_of_replaceWidget (h : d.compile options = .ok script) {w old : Widget}
    (hreplace : d.replaceWidget id w = .ok (old, d'))
    (hw : ∀ n ∈ w.numbers, n.value.isFinite = true) :
    ∃ target above below first second, d.targetOf? id = some target ∧ old.Emits target first ∧
      w.Emits target second ∧ script = above ++ first ++ below ∧
      d'.compile options = .ok (above ++ second ++ below) := by
  have hvalid := ((savable_of_compile h).of_replaceWidget
    (Widget.brokenField?_eq_none_iff.mpr hw) hreplace).valid
  obtain ⟨before, t, after, ws, us, hfirst, hwidgets, -, -, -, rfl⟩ :=
    exists_of_replaceWidget hreplace
  obtain ⟨above, below, text, htext, rfl, -, hcompile⟩ := hfirst.exists_surroundings h
  rw [hwidgets, registrations_append_eq_ok_iff] at htext
  obtain ⟨front, _, hfront, htext, rfl⟩ := htext
  obtain ⟨first, back, hold, hback, rfl⟩ := registrations_cons_eq_ok_iff.mp htext
  obtain ⟨second, hsecond⟩ := Widget.exists_emits hw (Script.target d.isTabled before.length)
  have hnew := hcompile _ _ hvalid (registrations_append_eq_ok_iff.mpr
    ⟨front, _, hfront, registrations_cons_eq_ok_iff.mpr ⟨second, back, hsecond, hback, rfl⟩, rfl⟩)
  refine ⟨_, above ++ front ++ "\n", back ++ below, first, second, hfirst.targetOf?_eq, hold,
    hsecond, ?_, ?_⟩
  · simp only [String.append_assoc]
  · rw [hnew]
    simp only [String.append_assoc]

theorem compile_of_deleteWidget (h : d.compile options = .ok script) {i : WidgetId}
    {w : Widget} (hdelete : d.deleteWidget id i = .ok (w, d')) :
    ∃ target above below text, d.targetOf? id = some target ∧ w.Emits target text ∧
      script = above ++ "\n" ++ text ++ below ∧ d'.compile options = .ok (above ++ below) := by
  have hvalid := ((savable_of_compile h).of_deleteWidget hdelete).valid
  obtain ⟨before, t, after, ws, us, hfirst, hwidgets, -, -, rfl⟩ := exists_of_deleteWidget hdelete
  obtain ⟨above, below, text, htext, rfl, -, hcompile⟩ := hfirst.exists_surroundings h
  rw [hwidgets, registrations_append_eq_ok_iff] at htext
  obtain ⟨front, _, hfront, htext, rfl⟩ := htext
  obtain ⟨first, back, hw, hback, rfl⟩ := registrations_cons_eq_ok_iff.mp htext
  have hnew := hcompile _ _ hvalid
    (registrations_append_eq_ok_iff.mpr ⟨front, back, hfront, hback, rfl⟩)
  refine ⟨_, above ++ front, back ++ below, first, hfirst.targetOf?_eq, hw, ?_, ?_⟩
  · simp only [String.append_assoc]
  · rw [hnew]
    simp only [String.append_assoc]

theorem compile_of_addNamedTab (h : d.compile options = .ok script) (hid : d.IsFreshTab id)
    (hcount : d.tabs.length ≠ maxTabLocals) (name icon : String) :
    (d.addNamedTab id name icon).compile options =
      .ok (script ++ "\n" ++
        tabStatement (!d.isTabled) (Script.target d.isTabled d.tabs.length)
          { id, name, icon }) := by
  have hvalid := ((savable_of_compile h).addNamedTab hid name icon).valid
  obtain ⟨-, text, htext, rfl⟩ := compile_eq_ok_iff.mp h
  have htabled : (d.addNamedTab id name icon).isTabled = d.isTabled := by
    simp only [isTabled, addNamedTab, List.length_append, List.length_singleton, decide_eq_decide]
    omega
  have htabs : Script.tabs d.isTabled 0 (d.tabs ++ [({ id, name, icon } : Tab)]) = .ok _ :=
    tabs_split_eq_ok_iff.mpr ⟨text, "", "", htext, rfl, rfl, rfl⟩
  rw [← htabled] at htabs
  refine compile_eq_ok_iff.mpr ⟨hvalid, _, htabs, ?_⟩
  rw [preamble, preamble, htabled]
  simp only [String.append_assoc, String.append_empty]
  rfl

/-- Where the table of tabs is needed for the first time, the script changes before its end. -/
theorem not_prefix_of_addNamedTab {script' : String} (h : d.compile options = .ok script)
    (hcount : d.tabs.length = maxTabLocals) {name icon : String}
    (h' : (d.addNamedTab id name icon).compile options = .ok script') :
    ¬script.toList <+: script'.toList := by
  obtain ⟨-, text, htext, rfl⟩ := compile_eq_ok_iff.mp h
  obtain ⟨-, text', -, rfl⟩ := compile_eq_ok_iff.mp h'
  have htabled : d.isTabled = false := by
    simp [isTabled, hcount]
  have htabled' : (d.addNamedTab id name icon).isTabled = true := by
    simp [isTabled, addNamedTab, hcount]
  cases htabs : d.tabs with
  | nil =>
      rw [htabs] at hcount
      cases hcount
  | cons t ts =>
      rw [htabs, htabled] at htext
      obtain ⟨widgets, rest, -, -, rfl⟩ := tabs_cons_eq_ok_iff.mp htext
      rw [preamble, preamble, htabled, htabled']
      simp only [String.toList_append, List.append_assoc, addNamedTab, List.prefix_append_right_inj]
      -- The texts part after `local Tab`: the digit of the first local, or the name of the table.
      intro hprefix
      have hdigit : Nat.toDigits 10 1 = ['1'] := rfl
      simp [tabStatement, Script.target, tabLocal, tableStatement, hdigit] at hprefix

theorem FirstTab.after_eq_nil {u : Tab} (hfirst : d.FirstTab t.id before u after)
    (hlast : d.tabs.getLast? = some t) (hnodup : d.tabIds.Nodup) : after = [] := by
  rcases List.eq_nil_or_concat after with rfl | ⟨after', v, rfl⟩
  · rfl
  · rw [hfirst.tabs_eq, List.concat_eq_append, ← List.cons_append, ← List.append_assoc,
      List.getLast?_concat, Option.some.injEq] at hlast
    rw [hfirst.tabIds_eq, hlast] at hnodup
    have hmem : t.id ∈ (after'.concat t).map Tab.id := List.mem_map_of_mem (by simp)
    exact absurd hmem (List.nodup_cons.mp (List.nodup_append.mp hnodup).2.1).1

theorem compile_of_addWidget (h : d.compile options = .ok script)
    (hlast : d.tabs.getLast? = some t) {w : Widget} {i : WidgetId}
    (hadd : d.addWidget t.id w = .ok (i, d')) (hw : w.Compilable) :
    ∃ target text, d.targetOf? t.id = some target ∧ w.Emits target text ∧
      d'.compile options = .ok (script ++ "\n" ++ text) := by
  have hvalid := ((savable_of_compile h).of_addWidget hw.not_blank
    (Widget.brokenField?_eq_none_iff.mpr hw.finite) hadd).valid
  obtain ⟨htabIds, -⟩ := validate_eq_ok_iff.mp (compile_eq_ok_iff.mp h).1
  obtain ⟨-, before, u, after, hfirst, rfl⟩ := exists_of_addWidget hadd
  obtain ⟨above, below, widgets, hwidgets, rfl, hend, hcompile⟩ := hfirst.exists_surroundings h
  obtain ⟨text, htext⟩ := Widget.exists_emits hw.finite (Script.target d.isTabled before.length)
  have hnew := hcompile _ _ hvalid (registrations_append_eq_ok_iff.mpr ⟨widgets, _, hwidgets,
    registrations_cons_eq_ok_iff.mpr ⟨text, "", htext, rfl, rfl⟩, rfl⟩)
  refine ⟨_, text, hfirst.targetOf?_eq, htext, ?_⟩
  rw [hnew, hend (hfirst.after_eq_nil hlast htabIds.nodup)]
  simp only [String.append_assoc, String.append_empty]

/-- An edit changes the script where the edited widget registers, and what is added to the end of
the document is added to the end of the script. Only the tab that brings the table of tabs changes
the script before its end. -/
theorem compile_after_edit (h : d.compile options = .ok script) :
    (∀ id w old d', d.replaceWidget id w = .ok (old, d') →
      (∀ n ∈ w.numbers, n.value.isFinite = true) →
      ∃ target above below first second, d.targetOf? id = some target ∧
        old.Emits target first ∧ w.Emits target second ∧ script = above ++ first ++ below ∧
        d'.compile options = .ok (above ++ second ++ below)) ∧
    (∀ id i w d', d.deleteWidget id i = .ok (w, d') →
      ∃ target above below text, d.targetOf? id = some target ∧ w.Emits target text ∧
        script = above ++ "\n" ++ text ++ below ∧ d'.compile options = .ok (above ++ below)) ∧
    (∀ id name icon, d.IsFreshTab id →
      (d.tabs.length ≠ maxTabLocals → (d.addNamedTab id name icon).compile options =
        .ok (script ++ "\n" ++ tabStatement (!d.isTabled)
          (Script.target d.isTabled d.tabs.length) { id, name, icon })) ∧
      (d.tabs.length = maxTabLocals → ∃ script',
        (d.addNamedTab id name icon).compile options = .ok script' ∧
          ¬script.toList <+: script'.toList)) ∧
    ∀ t w i d', d.tabs.getLast? = some t → d.addWidget t.id w = .ok (i, d') → w.Compilable →
      ∃ target text, d.targetOf? t.id = some target ∧ w.Emits target text ∧
        d'.compile options = .ok (script ++ "\n" ++ text) := by
  refine ⟨fun id w old d' hreplace hw => compile_of_replaceWidget h hreplace hw,
    fun id i w d' hdelete => compile_of_deleteWidget h hdelete, fun id name icon hid =>
    ⟨fun hcount => compile_of_addNamedTab h hid hcount name icon, fun hcount => ?_⟩,
    fun t w i d' hlast hadd hw => compile_of_addWidget h hlast hadd hw⟩
  have hsavable : (d.addNamedTab id name icon).Savable :=
    (savable_of_compile h).addNamedTab hid name icon
  obtain ⟨script', hscript'⟩ := hsavable.exists_compile options
  exact ⟨script', hscript', not_prefix_of_addNamedTab h hcount hscript'⟩

/-- A slider that no page holds. -/
def volume : Widget :=
  .named ⟨"volume"⟩ .slider "Volume"

theorem compile_after_edit_pages :
    ∃ script, (pages 2).compile = .ok script ∧
      (∃ old d' above below first second,
        (pages 2).replaceWidget ⟨"Tab1"⟩ ⟨⟨"Tab1"⟩, "Stop", .button "end"⟩ = .ok (old, d') ∧
          script = above ++ first ++ below ∧ d'.compile = .ok (above ++ second ++ below)) ∧
      (∃ w d' above below text, (pages 2).deleteWidget ⟨"Tab1"⟩ ⟨"Tab1"⟩ = .ok (w, d') ∧
        script = above ++ "\n" ++ text ++ below ∧ d'.compile = .ok (above ++ below)) ∧
      ((pages 2).addNamedTab ⟨"Tab3"⟩ "Page" " 7 ").compile =
        .ok (script ++ "\n" ++ "local Tab3 = Window:CreateTab(\"Page\", 7)\n") ∧
      ∃ i d' text, (pages 2).addWidget (page 1).id volume = .ok (i, d') ∧
        d'.compile = .ok (script ++ "\n" ++ text) := by
  obtain ⟨script, hscript⟩ := (savable_pages 2).exists_compile {}
  obtain ⟨hreplace, hdelete, htab, hadd⟩ := compile_after_edit hscript
  obtain ⟨⟨old, d₁⟩, h₁⟩ := Outcome.exists_ok (by decide : ((pages 2).replaceWidget ⟨"Tab1"⟩
    ⟨⟨"Tab1"⟩, "Stop", .button "end"⟩).toOption.isSome = true)
  obtain ⟨⟨w, d₂⟩, h₂⟩ := Outcome.exists_ok (by decide : ((pages 2).deleteWidget ⟨"Tab1"⟩
    ⟨"Tab1"⟩).toOption.isSome = true)
  obtain ⟨⟨i, d₃⟩, h₃⟩ := Outcome.exists_ok (by decide : ((pages 2).addWidget (page 1).id
    volume).toOption.isSome = true)
  have hcompilable : volume.Compilable := by
    obtain ⟨script', h⟩ := Outcome.exists_ok (by decide :
      (Document.compile { tabs := [⟨⟨"a"⟩, "", "", [volume]⟩] }).toOption.isSome = true)
    exact ⟨_, _, script', h, by decide⟩
  obtain ⟨-, above₁, below₁, first, second, -, -, -, hold, hnew⟩ := hreplace _ _ _ _ h₁ (by decide)
  obtain ⟨-, above₂, below₂, text₂, -, -, hfull, hrest⟩ := hdelete _ _ _ _ h₂
  obtain ⟨-, text₃, -, -, hlonger⟩ := hadd (page 1) _ _ _ (by decide) h₃ hcompilable
  exact ⟨script, hscript, ⟨old, d₁, above₁, below₁, first, second, h₁, hold, hnew⟩,
    ⟨w, d₂, above₂, below₂, text₂, h₂, hfull, hrest⟩,
    (htab ⟨"Tab3"⟩ "Page" " 7 " ⟨by decide, by decide⟩).1 (by decide), i, d₃, text₃, h₃, hlonger⟩

end Document

end ControlPanel
