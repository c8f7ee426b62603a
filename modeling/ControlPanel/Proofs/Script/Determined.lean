import ControlPanel.Proofs.Script.View
import ControlPanel.Proofs.Widget.Kind

/-!
A script is read from its start: the kind of a widget by the method that it calls, each field by
where its literal ends, a list of widgets by a target that is not its own, and the layout of the
tabs by the first tab.
-/

namespace ControlPanel

open Script Registration

namespace Script

section Calls

variable {tab : String} {r s : List Char}

/-- The method that registers the widgets of a kind. -/
def method (k : WidgetKind) : String :=
  "Create" ++ k.name

theorem toList_call (tab method fields : String) :
    (call tab method fields).toList ++ r = tab.toList ++ ':' :: (method.toList ++
      '(' :: ("\x7b\n".toList ++ (fields.toList ++ ("\x7d)\n".toList ++ r)))) := by
  have hopen : "(\x7b\n".toList = '(' :: "\x7b\n".toList := rfl
  have hcolon : ":".toList = [':'] := rfl
  simp only [call, String.toList_append, List.append_assoc, hopen, hcolon, List.cons_append,
    List.nil_append]

theorem registration_calls {w : Widget} {text : String} (h : w.registration tab = .ok text)
    (r : List Char) : ∃ rest, text.toList ++ r =
      tab.toList ++ ':' :: ((method w.kind).toList ++ '(' :: rest) := by
  obtain ⟨id, name, control⟩ := w
  rw [Widget.registration] at h
  cases control with
  | label color =>
      cases h
      have hopen : ":CreateLabel(".toList = ':' :: ((method .label).toList ++ ['(']) := by
        decide
      refine ⟨(Literal.text name).toList ++ ((labelColor color).toList ++ (")\n".toList ++ r)), ?_⟩
      simp only [String.toList_append, List.append_assoc, hopen, List.cons_append, List.nil_append]
      rfl
  | slider s =>
      obtain ⟨fields, -, htext⟩ := Outcome.bind_eq_ok_iff.mp h
      cases htext
      exact ⟨_, toList_call tab "CreateSlider" fields⟩
  | button | toggle | input | paragraph | keybind | dropdown =>
      cases h
      exact ⟨_, toList_call _ _ _⟩

theorem kind_inj {w v : Widget} {text text' : String} (hw : w.registration tab = .ok text)
    (hv : v.registration tab = .ok text') (h : text.toList ++ r = text'.toList ++ s) :
    w.kind = v.kind := by
  obtain ⟨rest, hrest⟩ := registration_calls hw r
  obtain ⟨rest', hrest'⟩ := registration_calls hv s
  have hcreate : ∀ c ∈ "Create".toList, c.isAlpha = true := by
    rw [← List.all_eq_true]
    decide
  have hletters : ∀ k, ∀ c ∈ (method k).toList, c.isAlpha = true := by
    intro k c hc
    rw [method, String.toList_append] at hc
    rcases List.mem_append.mp hc with hc | hc
    · exact hcreate c hc
    · exact k.name_letters c hc
  rw [hrest, hrest'] at h
  -- Methods are words of letters, so both end at the parenthesis.
  obtain ⟨hmethod, -, -⟩ := append_stop_inj (hletters _) (hletters _) rfl rfl
    (List.cons.inj (List.append_cancel_left h)).2
  rw [method, method, String.toList_append, String.toList_append] at hmethod
  exact WidgetKind.name_injective (String.toList_inj.mp (List.append_cancel_left hmethod))

theorem call_inj {method fields fields' : String}
    (h : (call tab method fields).toList ++ r = (call tab method fields').toList ++ s) :
    fields.toList ++ ("\x7d)\n".toList ++ r) = fields'.toList ++ ("\x7d)\n".toList ++ s) := by
  rw [toList_call, toList_call] at h
  have h := (List.cons.inj (List.append_cancel_left h)).2
  exact List.append_cancel_left (List.cons.inj (List.append_cancel_left h)).2

end Calls

section Arguments

variable {r s : List Char}

theorem unambiguous_flag : Unambiguous flag := by
  intro id id' r s h
  obtain ⟨htext, hrest⟩ := unambiguous_textField "Flag" h
  cases id
  cases id'
  exact ⟨congrArg WidgetId.mk htext, hrest⟩

theorem labelColor_inj {a b : Option String}
    (h : (labelColor a).toList ++ ')' :: r = (labelColor b).toList ++ ')' :: s) :
    shownColor a = shownColor b ∧ r = s := by
  have hshown : ∀ color (u : List Char), (shownColor color = none ∧
      (labelColor color).toList ++ u = u) ∨ ∃ c, shownColor color = some c ∧
      (labelColor color).toList ++ u = ", nil, Color3.fromHex(".toList ++
        ((Literal.text c).toList ++ ("), false".toList ++ u)) := by
    intro color u
    cases color with
    | none => exact .inl ⟨rfl, rfl⟩
    | some c =>
        rw [shownColor, labelColor]
        split_ifs
        · exact .inl ⟨rfl, rfl⟩
        · refine .inr ⟨c, rfl, ?_⟩
          simp only [String.toList_append, List.append_assoc]
  have hcomma : ", nil, Color3.fromHex(".toList = ',' :: " nil, Color3.fromHex(".toList := rfl
  rcases hshown a (')' :: r) with ⟨ha, hr⟩ | ⟨c, ha, hr⟩ <;>
    rcases hshown b (')' :: s) with ⟨hb, hs⟩ | ⟨d, hb, hs⟩ <;> rw [hr, hs] at h <;> rw [ha, hb]
  · exact ⟨rfl, (List.cons.inj h).2⟩
  · rw [hcomma] at h
    cases h
  · rw [hcomma] at h
    cases h
  · obtain ⟨rfl, hrest⟩ := unambiguous_text (List.append_cancel_left h)
    rw [List.append_cancel_left_eq] at hrest
    exact ⟨rfl, (List.cons.inj hrest).2⟩

theorem chosen_injective {a b : String} (h : chosen a = chosen b) : a = b := by
  rw [chosen, chosen] at h
  split_ifs at h with ha hb hb
  · exact ha.trans hb.symm
  · exact (List.cons.inj h).1

/-- The flag and the callback at the end of a table of fields. -/
theorem tableEnd_inj {id id' : WidgetId} {parameter body body' : String}
    (hbody : ¬ ClosesEarly body) (hbody' : ¬ ClosesEarly body')
    (h : (flag id).toList ++ ((callback parameter body).toList ++ ("\x7d)\n".toList ++ r)) =
      (flag id').toList ++ ((callback parameter body').toList ++ ("\x7d)\n".toList ++ s))) :
    id = id' ∧ shownBody body = shownBody body' ∧ r = s := by
  obtain ⟨hid, h⟩ := unambiguous_flag h
  obtain ⟨hshown, h⟩ := callback_inj hbody hbody' h
  exact ⟨hid, hshown, List.append_cancel_left h⟩

theorem sliderFields_inj {id id' : WidgetId} {name name' : String} {x y : Slider}
    {fields fields' : String} (hx : sliderFields id name x = .ok fields)
    (hy : sliderFields id' name' y = .ok fields') (hxbody : ¬ ClosesEarly x.callback)
    (hybody : ¬ ClosesEarly y.callback)
    (h : fields.toList ++ ("\x7d)\n".toList ++ r) = fields'.toList ++ ("\x7d)\n".toList ++ s)) :
    name = name' ∧ (Control.slider x).view id = (Control.slider y).view id' ∧ r = s := by
  rw [sliderFields_eq_ok hx, sliderFields_eq_ok hy] at h
  simp only [String.toList_append, List.append_assoc] at h
  obtain ⟨hname, h⟩ := unambiguous_textField "Name" h
  obtain ⟨hmin, hmax, h⟩ := rangeField_inj h
  have h := List.append_cancel_left h
  obtain ⟨hsuffix, h⟩ := unambiguous_textField "Suffix" h
  obtain ⟨hvalue, h⟩ := numberField_inj h
  obtain ⟨hid, hbody, h⟩ := tableEnd_inj hxbody hybody h
  refine ⟨hname, ?_, h⟩
  rw [Control.view, Control.view, hid, hmin, hmax, hvalue, hsuffix, hbody]

/-- The registration of a widget tells what the widget shows and where it ends. -/
theorem registration_inj {tab text text' : String} {w v : Widget}
    (hw : w.registration tab = .ok text) (hv : v.registration tab = .ok text')
    (hwbody : ∀ body, w.callback? = some body → ¬ ClosesEarly body)
    (hvbody : ∀ body, v.callback? = some body → ¬ ClosesEarly body)
    (h : text.toList ++ r = text'.toList ++ s) : w.view = v.view ∧ r = s := by
  have hkind := kind_inj hw hv h
  obtain ⟨id, name, control⟩ := w
  obtain ⟨id', name', control'⟩ := v
  rw [Widget.registration] at hw hv
  rw [Widget.view, Widget.view, WidgetView.mk.injEq, and_assoc]
  cases control <;> cases control' <;> cases hkind
  case button.button body body' =>
    cases hw
    cases hv
    have h := call_inj h
    simp only [String.toList_append, List.append_assoc] at h
    obtain ⟨hname, h⟩ := unambiguous_textField "Name" h
    obtain ⟨hbody, h⟩ := callback_inj (hwbody _ rfl) (hvbody _ rfl) h
    exact ⟨hname, congrArg ControlView.button hbody, List.append_cancel_left h⟩
  case toggle.toggle state body state' body' =>
    cases hw
    cases hv
    have h := call_inj h
    simp only [String.toList_append, List.append_assoc] at h
    obtain ⟨hname, h⟩ := unambiguous_textField "Name" h
    obtain ⟨hstate, h⟩ := unambiguous_truthField "CurrentValue" h
    obtain ⟨hid, hbody, h⟩ := tableEnd_inj (hwbody _ rfl) (hvbody _ rfl) h
    refine ⟨hname, ?_, h⟩
    rw [Control.view, Control.view, hid, hstate, hbody]
  case slider.slider x y =>
    obtain ⟨fields, hfields, htext⟩ := Outcome.bind_eq_ok_iff.mp hw
    obtain ⟨fields', hfields', htext'⟩ := Outcome.bind_eq_ok_iff.mp hv
    cases htext
    cases htext'
    exact sliderFields_inj hfields hfields' (hwbody _ rfl) (hvbody _ rfl) (call_inj h)
  case input.input placeholder clears body placeholder' clears' body' =>
    cases hw
    cases hv
    have h := call_inj h
    simp only [String.toList_append, List.append_assoc] at h
    obtain ⟨hname, h⟩ := unambiguous_textField "Name" h
    have h := List.append_cancel_left h
    obtain ⟨hplaceholder, h⟩ := unambiguous_textField "PlaceholderText" h
    obtain ⟨hclears, h⟩ := unambiguous_truthField "RemoveTextAfterFocusLost" h
    obtain ⟨hid, hbody, h⟩ := tableEnd_inj (hwbody _ rfl) (hvbody _ rfl) h
    refine ⟨hname, ?_, h⟩
    rw [Control.view, Control.view, hid, hplaceholder, hclears, hbody]
  case label.label color color' =>
    cases hw
    cases hv
    have hclose : ")\n".toList = [')', '\n'] := rfl
    simp only [String.toList_append, List.append_assoc, hclose, List.cons_append,
      List.append_cancel_left_eq] at h
    obtain ⟨hname, h⟩ := unambiguous_text h
    obtain ⟨hcolor, h⟩ := labelColor_inj h
    exact ⟨hname, congrArg ControlView.label hcolor, (List.cons.inj h).2⟩
  case paragraph.paragraph content content' =>
    cases hw
    cases hv
    have h := call_inj h
    simp only [String.toList_append, List.append_assoc] at h
    obtain ⟨hname, h⟩ := unambiguous_textField "Title" h
    obtain ⟨hcontent, h⟩ := unambiguous_textField "Content" h
    exact ⟨hname, congrArg ControlView.paragraph hcontent, List.append_cancel_left h⟩
  case keybind.keybind key mustHold body key' mustHold' body' =>
    cases hw
    cases hv
    have h := call_inj h
    simp only [String.toList_append, List.append_assoc] at h
    obtain ⟨hname, h⟩ := unambiguous_textField "Name" h
    obtain ⟨hkey, h⟩ := unambiguous_textField "CurrentKeybind" h
    obtain ⟨hhold, h⟩ := unambiguous_truthField "HoldToInteract" h
    obtain ⟨hid, hbody, h⟩ := tableEnd_inj (hwbody _ rfl) (hvbody _ rfl) h
    refine ⟨hname, ?_, h⟩
    rw [Control.view, Control.view, hid, hkey, hhold, hbody]
  case dropdown.dropdown options selected several body options' selected' several' body' =>
    cases hw
    cases hv
    have h := call_inj h
    simp only [String.toList_append, List.append_assoc] at h
    obtain ⟨hname, h⟩ := unambiguous_textField "Name" h
    obtain ⟨hoptions, h⟩ := unambiguous_textsField "Options" h
    obtain ⟨hselected, h⟩ := unambiguous_textsField "CurrentOption" h
    obtain ⟨hseveral, h⟩ := unambiguous_truthField "MultipleOptions" h
    obtain ⟨hid, hbody, h⟩ := tableEnd_inj (hwbody _ rfl) (hvbody _ rfl) h
    refine ⟨hname, ?_, h⟩
    rw [Control.view, Control.view, hid, hoptions, chosen_injective hselected, hseveral, hbody]

end Arguments

section Tabs

variable {r s : List Char}

theorem registrations_calls {tab text : String} {w : Widget} {ws : List Widget}
    (h : registrations tab (w :: ws) = .ok text) (r : List Char) :
    ∃ u, text.toList ++ r = '\n' :: (tab.toList ++ ':' :: u) := by
  have hline : "\n".toList = ['\n'] := rfl
  simp only [registrations, Outcome.bind_eq_ok_iff, Outcome.pure_eq_ok_iff] at h
  obtain ⟨first, hfirst, rest, -, rfl⟩ := h
  obtain ⟨u, hu⟩ := registration_calls hfirst (rest.toList ++ r)
  refine ⟨(method w.kind).toList ++ '(' :: u, ?_⟩
  rw [String.toList_append, String.toList_append, hline, List.append_assoc, List.append_assoc, hu]
  rfl

/-- The registrations of a tab end where no registration on its target follows. -/
theorem registrations_inj {tab text text' : String} {ws vs : List Widget}
    (hws : registrations tab ws = .ok text) (hvs : registrations tab vs = .ok text')
    (hwbodies : ∀ w ∈ ws, ∀ body, w.callback? = some body → ¬ ClosesEarly body)
    (hvbodies : ∀ v ∈ vs, ∀ body, v.callback? = some body → ¬ ClosesEarly body)
    (hr : ∀ u, r ≠ '\n' :: (tab.toList ++ ':' :: u))
    (hs : ∀ u, s ≠ '\n' :: (tab.toList ++ ':' :: u))
    (h : text.toList ++ r = text'.toList ++ s) :
    ws.map Widget.view = vs.map Widget.view ∧ r = s := by
  induction ws generalizing vs text text' with
  | nil =>
      cases hws
      cases vs with
      | nil =>
          cases hvs
          exact ⟨rfl, h⟩
      | cons v vs =>
          -- What follows the shorter list would call the target.
          obtain ⟨u, hu⟩ := registrations_calls hvs s
          exact absurd (h.trans hu) (hr u)
  | cons w ws ih =>
      cases vs with
      | nil =>
          cases hvs
          obtain ⟨u, hu⟩ := registrations_calls hws r
          exact absurd (h.symm.trans hu) (hs u)
      | cons v vs =>
          simp only [registrations, Outcome.bind_eq_ok_iff, Outcome.pure_eq_ok_iff] at hws hvs
          obtain ⟨first, hfirst, rest, hrest, rfl⟩ := hws
          obtain ⟨first', hfirst', rest', hrest', rfl⟩ := hvs
          simp only [String.toList_append, List.append_assoc, List.append_cancel_left_eq] at h
          obtain ⟨hview, h⟩ := registration_inj hfirst hfirst' (hwbodies w (by simp))
            (hvbodies v (by simp)) h
          obtain ⟨hviews, h⟩ := ih hrest hrest'
            (fun x hx => hwbodies x (List.mem_cons_of_mem _ hx))
            (fun x hx => hvbodies x (List.mem_cons_of_mem _ hx)) h
          exact ⟨by rw [List.map_cons, List.map_cons, hview, hviews], h⟩

/-- The three forms of an icon: none, bare digits and a literal. -/
theorem iconArgument_cases (icon : String) (r : List Char) :
    (Text.trim icon = "" ∧ (iconArgument icon).toList ++ r = r) ∨
    (Text.trim icon ≠ "" ∧ (∀ c ∈ (Text.trim icon).toList, c.isDigit = true) ∧
      (iconArgument icon).toList ++ r = ',' :: ' ' :: ((Text.trim icon).toList ++ r)) ∨
    ((iconArgument icon).toList ++ r =
      ',' :: ' ' :: ((Literal.text (Text.trim icon)).toList ++ r)) := by
  have hcomma : ", ".toList = [',', ' '] := rfl
  rw [iconArgument]
  split_ifs with hempty hdigits
  · exact .inl ⟨hempty, rfl⟩
  · refine .inr (.inl ⟨hempty, List.all_eq_true.mp hdigits, ?_⟩)
    rw [String.toList_append, hcomma]
    rfl
  · refine .inr (.inr ?_)
    rw [String.toList_append, hcomma]
    rfl

theorem digits_ne_text {s : String} (hne : s ≠ "") (hdigits : ∀ c ∈ s.toList, c.isDigit = true)
    (t : String) (l m : List Char) : s.toList ++ l ≠ (Literal.text t).toList ++ m := by
  intro h
  cases hcons : s.toList with
  | nil => exact hne (String.toList_eq_nil_iff.mp hcons)
  | cons c cs =>
      have hc := hdigits c (by simp [hcons])
      rw [hcons, Literal.text, String.toList_ofList] at h
      rw [(List.cons.inj h).1] at hc
      cases hc

theorem iconArgument_inj {a b : String}
    (h : (iconArgument a).toList ++ ')' :: r = (iconArgument b).toList ++ ')' :: s) :
    Text.trim a = Text.trim b ∧ r = s := by
  rcases iconArgument_cases a (')' :: r) with ⟨ha, hr⟩ | ⟨ha, hadigits, hr⟩ | hr <;>
    rcases iconArgument_cases b (')' :: s) with ⟨hb, hs⟩ | ⟨hb, hbdigits, hs⟩ | hs <;>
    rw [hr, hs] at h
  · exact ⟨ha.trans hb.symm, (List.cons.inj h).2⟩
  · cases h
  · cases h
  · cases h
  · have hafter := (List.cons.inj (List.cons.inj h).2).2
    obtain ⟨hicon, -, hrest⟩ := append_stop_inj hadigits hbdigits rfl rfl hafter
    exact ⟨String.toList_inj.mp hicon, hrest⟩
  · have hafter := (List.cons.inj (List.cons.inj h).2).2
    exact absurd hafter (digits_ne_text ha hadigits _ _ _)
  · cases h
  · have hafter := (List.cons.inj (List.cons.inj h).2).2
    exact absurd hafter.symm (digits_ne_text hb hbdigits _ _ _)
  · have hafter := (List.cons.inj (List.cons.inj h).2).2
    obtain ⟨hicon, hrest⟩ := unambiguous_text hafter
    exact ⟨hicon, (List.cons.inj hrest).2⟩

theorem tabStatement_inj {declare : Bool} {tab : String} {t u : Tab}
    (h : (tabStatement declare tab t).toList ++ r = (tabStatement declare tab u).toList ++ s) :
    t.name = u.name ∧ Text.trim t.icon = Text.trim u.icon ∧ r = s := by
  have hclose : ")\n".toList = [')', '\n'] := rfl
  simp only [tabStatement, String.toList_append, List.append_assoc, List.append_cancel_left_eq,
    hclose, List.cons_append, List.nil_append] at h
  obtain ⟨hname, h⟩ := unambiguous_text h
  obtain ⟨hicon, h⟩ := iconArgument_inj h
  exact ⟨hname, hicon, (List.cons.inj h).2⟩

/-- What follows the registrations of a tab is no registration on its target. -/
theorem tabs_ne_registration {tabled : Bool} {index : Nat} {ts : List Tab} {text : String}
    (h : tabs tabled (index + 1) ts = .ok text) (u : List Char) :
    text.toList ≠ '\n' :: ((target tabled index).toList ++ ':' :: u) := by
  intro heq
  cases ts with
  | nil =>
      cases h
      cases heq
  | cons t ts =>
      simp only [tabs, Outcome.bind_eq_ok_iff, Outcome.pure_eq_ok_iff] at h
      obtain ⟨widgets, -, rest, -, rfl⟩ := h
      have hline : "\n".toList = ['\n'] := rfl
      cases tabled with
      -- The next tab is declared as a local.
      | false =>
          have hlocal : "local ".toList = 'l' :: "ocal ".toList := rfl
          have htab : "Tab".toList = 'T' :: "ab".toList := rfl
          simp only [tabStatement, target, tabLocal, String.toList_append, hline, hlocal, htab,
            List.cons_append, List.append_assoc, Bool.not_false, if_true, List.nil_append,
            Bool.false_eq_true, if_false] at heq
          cases heq
      -- The next tab is assigned, whatever its index: a call has a colon after the bracket.
      | true =>
          have hclose : "]".toList = [']'] := rfl
          have hequals : " = Window:CreateTab(".toList = ' ' :: "= Window:CreateTab(".toList := rfl
          have hdigits : ∀ n : Nat, ∀ c ∈ (toString n).toList, c.isDigit = true := by
            intro n c hc
            rw [toList_toString] at hc
            exact allDigits_toDigits n c hc
          simp only [tabStatement, target, tabSlot, String.toList_append, hline, hclose, hequals,
            List.cons_append, List.append_assoc, Bool.not_true, if_true, List.nil_append,
            Bool.false_eq_true, if_false, List.cons.injEq, true_and, String.toList_empty,
            List.append_cancel_left_eq] at heq
          obtain ⟨-, -, hafter⟩ := append_stop_inj (hdigits _) (hdigits _) rfl rfl heq
          cases hafter

theorem tabs_inj {tabled : Bool} {index : Nat} {ts us : List Tab} {text text' : String}
    (hts : tabs tabled index ts = .ok text) (hus : tabs tabled index us = .ok text')
    (htbodies : ∀ t ∈ ts, ∀ w ∈ t.widgets, ∀ body, w.callback? = some body → ¬ ClosesEarly body)
    (hubodies : ∀ u ∈ us, ∀ w ∈ u.widgets, ∀ body, w.callback? = some body → ¬ ClosesEarly body)
    (h : text.toList = text'.toList) : ts.map Tab.view = us.map Tab.view := by
  induction ts generalizing index us text text' with
  | nil =>
      cases hts
      cases us with
      | nil => rfl
      | cons u us =>
          simp only [tabs, Outcome.bind_eq_ok_iff, Outcome.pure_eq_ok_iff] at hus
          obtain ⟨widgets, -, rest, -, rfl⟩ := hus
          simp only [String.toList_append] at h
          cases h
  | cons t ts ih =>
      simp only [tabs, Outcome.bind_eq_ok_iff, Outcome.pure_eq_ok_iff] at hts
      obtain ⟨widgets, hwidgets, rest, hrest, rfl⟩ := hts
      cases us with
      | nil =>
          cases hus
          simp only [String.toList_append] at h
          cases h
      | cons u us =>
          simp only [tabs, Outcome.bind_eq_ok_iff, Outcome.pure_eq_ok_iff] at hus
          obtain ⟨widgets', hwidgets', rest', hrest', rfl⟩ := hus
          simp only [String.toList_append, List.append_assoc, List.append_cancel_left_eq] at h
          obtain ⟨hname, hicon, h⟩ := tabStatement_inj h
          obtain ⟨hviews, h⟩ := registrations_inj hwidgets hwidgets' (htbodies t (by simp))
            (hubodies u (by simp)) (tabs_ne_registration hrest) (tabs_ne_registration hrest') h
          have htail := ih hrest hrest' (fun x hx => htbodies x (List.mem_cons_of_mem _ hx))
            (fun x hx => hubodies x (List.mem_cons_of_mem _ hx)) h
          rw [List.map_cons, List.map_cons, htail, Tab.view, Tab.view, hname, hicon, hviews]

end Tabs

section Header

variable {r s : List Char}

theorem unambiguous_entry {α : Type} {text : α → String} (h : Unambiguous text) (depth : Nat)
    (key : String) : Unambiguous fun a => entry depth key (text a) := by
  have hentry := h.append (String.ofList (List.replicate depth '\t') ++ key ++ " = ") ",\n"
  exact hentry

theorem unambiguous_textEntry (depth : Nat) (key : String) : Unambiguous (textEntry depth key) :=
  unambiguous_entry unambiguous_text depth key

theorem unambiguous_truthEntry (depth : Nat) (key : String) :
    Unambiguous fun b => entry depth key (Literal.truth b) :=
  unambiguous_entry unambiguous_truth depth key

theorem unambiguous_savingTable : Unambiguous savingTable := by
  rintro ⟨enabled, folder, file⟩ ⟨enabled', folder', file'⟩ r s h
  unfold savingTable at h
  simp only [String.toList_append, List.append_assoc, List.append_cancel_left_eq] at h
  obtain ⟨henabled, h⟩ := unambiguous_truthEntry 2 "Enabled" h
  obtain ⟨hfolder, h⟩ := unambiguous_textEntry 2 "FolderName" h
  obtain ⟨hfile, h⟩ := unambiguous_textEntry 2 "FileName" h
  exact ⟨by rw [henabled, hfolder, hfile], List.append_cancel_left h⟩

theorem unambiguous_keyTable : Unambiguous keyTable := by
  rintro ⟨title, subtitle, note, file, save, grabbing, key⟩
    ⟨title', subtitle', note', file', save', grabbing', key'⟩ r s h
  unfold keyTable at h
  simp only [String.toList_append, List.append_assoc, List.append_cancel_left_eq] at h
  obtain ⟨htitle, h⟩ := unambiguous_textEntry 2 "Title" h
  obtain ⟨hsubtitle, h⟩ := unambiguous_textEntry 2 "Subtitle" h
  obtain ⟨hnote, h⟩ := unambiguous_textEntry 2 "Note" h
  obtain ⟨hfile, h⟩ := unambiguous_textEntry 2 "FileName" h
  obtain ⟨hsave, h⟩ := unambiguous_truthEntry 2 "SaveKey" h
  obtain ⟨hgrabbing, h⟩ := unambiguous_textEntry 2 "GrabbingKey" h
  obtain ⟨hkey, h⟩ := unambiguous_entry unambiguous_texts 2 "Key" h
  refine ⟨?_, List.append_cancel_left h⟩
  rw [htitle, hsubtitle, hnote, hfile, hsave, hgrabbing, (List.cons.inj hkey).1]

theorem header_inj {w v : Window} {options options' : ScriptOptions}
    (h : (header w options).toList ++ r = (header v options').toList ++ s) :
    options = options' ∧ w.view = v.view ∧ r = s := by
  unfold header at h
  simp only [String.toList_append, List.append_assoc, List.append_cancel_left_eq] at h
  obtain ⟨hurl, h⟩ := unambiguous_text h
  rw [List.append_cancel_left_eq, List.append_cancel_left_eq] at h
  obtain ⟨hname, h⟩ := unambiguous_textEntry 1 "Name" h
  obtain ⟨htitle, h⟩ := unambiguous_textEntry 1 "LoadingTitle" h
  obtain ⟨hsubtitle, h⟩ := unambiguous_textEntry 1 "LoadingSubtitle" h
  obtain ⟨hsaving, h⟩ := unambiguous_savingTable h
  obtain ⟨hsystem, h⟩ := unambiguous_truthEntry 1 "KeySystem" h
  have hkey : (if w.keySystem then some w.keySettings else none) =
      (if v.keySystem then some v.keySettings else none) ∧
      "\x7d)\n".toList ++ r = "\x7d)\n".toList ++ s := by
    rw [← hsystem] at h ⊢
    split_ifs at h ⊢
    · obtain ⟨hsettings, h⟩ := unambiguous_keyTable h
      exact ⟨congrArg some hsettings, h⟩
    · exact ⟨rfl, h⟩
  refine ⟨?_, ?_, List.append_cancel_left hkey.2⟩
  · cases options
    cases options'
    exact congrArg ScriptOptions.mk hurl
  · rw [Window.view, Window.view, hname, htitle, hsubtitle, hsaving, hkey.1, hsystem]

end Header

/-- The layouts with and without the table of tabs have no script in common. -/
theorem isTabled_inj {d e : Document} {text text' : String}
    (hd : tabs d.isTabled 0 d.tabs = .ok text) (he : tabs e.isTabled 0 e.tabs = .ok text')
    (h : (if d.isTabled then tableStatement else "").toList ++ text.toList =
      (if e.isTabled then tableStatement else "").toList ++ text'.toList) :
    d.isTabled = e.isTabled ∧ text.toList = text'.toList := by
  -- The table and the first local differ in one character, `Tabs` and `Tab1`.
  have hapart : ∀ (ts : List Tab) (s rest : String), tabs false 0 ts = .ok s →
      tableStatement.toList ++ rest.toList ≠ s.toList := by
    intro ts s rest hs heq
    have htable : tableStatement.toList =
        "\nlocal Tab".toList ++ 's' :: " = \x7b\x7d\n".toList := by decide
    have hlocal : ∀ cs, "\n".toList ++ ("local ".toList ++ ((tabLocal 0).toList ++ cs)) =
        "\nlocal Tab".toList ++ '1' :: cs := by
      intro cs
      have hchars : "\n".toList ++ ("local ".toList ++ (tabLocal 0).toList) =
          "\nlocal Tab".toList ++ ['1'] := by decide
      simpa only [List.append_assoc, List.singleton_append] using congrArg (· ++ cs) hchars
    cases ts with
    | nil =>
        cases hs
        rw [htable] at heq
        cases heq
    | cons t ts =>
        simp only [tabs, Outcome.bind_eq_ok_iff, Outcome.pure_eq_ok_iff] at hs
        obtain ⟨widgets, -, rest, -, rfl⟩ := hs
        simp only [tabStatement, target, String.toList_append, Bool.not_false, if_true,
          Bool.false_eq_true, if_false, List.append_assoc, htable, hlocal,
          List.append_cancel_left_eq] at heq
        cases heq
  cases hdt : d.isTabled <;> cases het : e.isTabled <;> rw [hdt] at hd <;> rw [het] at he <;>
    rw [hdt, het] at h
  · exact ⟨rfl, h⟩
  · exact absurd h.symm (hapart _ _ _ hd)
  · exact absurd h (hapart _ _ _ he)
  · exact ⟨rfl, List.append_cancel_left h⟩

end Script

namespace Document

/-- Documents that show the same have the same script; and documents with the same script show the
same and were compiled with the same options, if no line of a callback is the line that closes
callbacks. -/
theorem compile_tells_view {d e : Document} {options options' : ScriptOptions}
    {script script' : String} (hd : d.compile options = .ok script)
    (he : e.compile options' = .ok script') :
    (options = options' → d.view = e.view → script = script') ∧
    ((∀ w ∈ d.widgets ++ e.widgets, ∀ body, w.callback? = some body → ¬ ClosesEarly body) →
      script = script' → options = options' ∧ d.view = e.view) := by
  obtain ⟨text, htext, rfl⟩ := exists_tabs_of_compile hd
  obtain ⟨text', htext', rfl⟩ := exists_tabs_of_compile he
  constructor
  · rintro rfl hview
    obtain ⟨hwindow, htabs⟩ := DocumentView.mk.inj hview
    have hlength : d.tabs.length = e.tabs.length := by
      simpa using congrArg List.length htabs
    have htabled : d.isTabled = e.isTabled := by
      rw [isTabled, isTabled, hlength]
    rw [htabled] at htext ⊢
    rw [header_congr hwindow, tabs_congr htabs htext htext']
  · intro hbodies h
    have hchars := congrArg String.toList h
    rw [String.toList_append, String.toList_append, String.toList_append, String.toList_append,
      List.append_assoc, List.append_assoc] at hchars
    obtain ⟨hoptions, hwindow, hchars⟩ := header_inj hchars
    obtain ⟨htabled, htexts⟩ := isTabled_inj htext htext' hchars
    rw [← htabled] at htext'
    have htabs := tabs_inj htext htext'
      (fun t ht w hw => hbodies w (List.mem_append_left _ (List.mem_flatMap.mpr ⟨t, ht, hw⟩)))
      (fun t ht w hw => hbodies w (List.mem_append_right _ (List.mem_flatMap.mpr ⟨t, ht, hw⟩)))
      htexts
    refine ⟨hoptions, ?_⟩
    rw [view, view, hwindow, htabs]

/-- A tab with a button and a slider that starts at its lower end. -/
def sliderDocument (tab button : String) (start : Binary64) (body : String) : Document where
  tabs :=
    [{ id := ⟨tab⟩
       name := "Main"
       icon := " 123 "
       widgets :=
         [⟨⟨button⟩, "Go", .button body⟩,
          ⟨⟨"volume"⟩, "Volume", .slider ⟨start, ⟨0x3FF0000000000000⟩, start, "%", ""⟩⟩] }]

/-- Identifiers without a use, the sign of zero and the last line break make no difference, but
another callback does. -/
theorem compile_tells_view_sliderDocument :
    ∃ script script' other,
      (sliderDocument "a" "b" ⟨0⟩ "go()").compile = .ok script ∧
      (sliderDocument "c" "d" ⟨0x8000000000000000⟩ "go()\n").compile = .ok script' ∧
      (sliderDocument "a" "b" ⟨0⟩ "run()").compile = .ok other ∧
      script = script' ∧ script ≠ other := by
  have hzero : (⟨0⟩ : Binary64).value = (⟨0x8000000000000000⟩ : Binary64).value :=
    Binary64.scriptChars_eq_iff.mp (by decide)
  have hbody : shownBody "go()" = shownBody "go()\n" := by decide
  have hother : shownBody "go()" ≠ shownBody "run()" := by decide
  obtain ⟨script, hd⟩ := Outcome.exists_ok
    (by decide : (sliderDocument "a" "b" ⟨0⟩ "go()").compile.toOption.isSome = true)
  obtain ⟨script', he⟩ := Outcome.exists_ok (by decide :
    (sliderDocument "c" "d" ⟨0x8000000000000000⟩ "go()\n").compile.toOption.isSome = true)
  obtain ⟨other, ho⟩ := Outcome.exists_ok
    (by decide : (sliderDocument "a" "b" ⟨0⟩ "run()").compile.toOption.isSome = true)
  refine ⟨script, script', other, hd, he, ho, (compile_tells_view hd he).1 rfl ?_, ?_⟩
  · simp only [view, Tab.view, Widget.view, Control.view, sliderDocument, List.map_cons,
      List.map_nil, hzero, hbody]
  · intro heq
    have hbodies : ∀ w ∈ (sliderDocument "a" "b" ⟨0⟩ "go()").widgets ++
        (sliderDocument "a" "b" ⟨0⟩ "run()").widgets, ∀ body, w.callback? = some body →
          ¬ ClosesEarly body := by
      intro w hw body hcallback
      apply not_closesEarly
      simp only [widgets, sliderDocument, List.flatMap_cons, List.flatMap_nil, List.append_nil,
        List.cons_append, List.nil_append, List.mem_cons, List.not_mem_nil, or_false] at hw
      rcases hw with rfl | rfl | rfl | rfl <;> cases hcallback <;> decide
    have hview := ((compile_tells_view hd ho).2 hbodies heq).2
    simp only [view, Tab.view, Widget.view, Control.view, sliderDocument, List.map_cons,
      List.map_nil, DocumentView.mk.injEq, List.cons.injEq, TabView.mk.injEq, WidgetView.mk.injEq,
      ControlView.button.injEq, true_and, and_true] at hview
    exact hother hview

end Document

end ControlPanel
