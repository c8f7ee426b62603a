import ControlPanel.Proofs.Document.Run

namespace ControlPanel

open Outcome

section Lists

variable {α κ : Type} {key : α → κ} {before after l l' : List α} {a : α}

theorem map_of_nodup_map [DecidableEq κ] (h : ((before ++ a :: after).map key).Nodup)
    (change : α → α) :
    ((before ++ a :: after).map fun b => if key b = key a then change b else b) =
      before ++ change a :: after := by
  obtain ⟨hbefore, hafter⟩ := ne_of_nodup_map h
  have hkept : ∀ l : List α, (∀ b ∈ l, key b ≠ key a) →
      (l.map fun b => if key b = key a then change b else b) = l := by
    intro l hl
    exact (List.map_congr_left fun b hb => if_neg (hl b hb)).trans (List.map_id' l)
  rw [List.map_append, List.map_cons, if_pos rfl, hkept before hbefore, hkept after hafter]

theorem filter_of_nodup_map [DecidableEq κ] (h : ((before ++ a :: after).map key).Nodup) :
    ((before ++ a :: after).filter fun b => key b ≠ key a) = before ++ after := by
  obtain ⟨hbefore, hafter⟩ := ne_of_nodup_map h
  rw [List.filter_append, List.filter_cons_of_neg (by simp),
    List.filter_eq_self.mpr (by simpa using hbefore),
    List.filter_eq_self.mpr (by simpa using hafter)]

/-- Elements that a filter keeps are found in the list as in the filtered one. -/
theorem find?_eq_of_filter_eq {p q : α → Bool} (h : l'.filter q = l.filter q)
    (hq : ∀ a, p a = true → q a = true) : l'.find? p = l.find? p := by
  have hfilter : ∀ l : List α, (l.filter q).find? p = l.find? p := by
    intro l
    rw [List.find?_filter]
    congr 1
    funext a
    cases hp : p a with
    | false => simp
    | true => simp [hq a hp]
  rw [← hfilter l', h, hfilter l]

end Lists

/-- The widgets of a tab, each with the identifier of the tab. -/
def Tab.placed (t : Tab) : List (TabId × Widget) :=
  t.widgets.map fun w => (t.id, w)

namespace Document

/-- All widgets, each with the identifier of the tab that holds it. -/
def placed (d : Document) : List (TabId × Widget) :=
  d.tabs.flatMap Tab.placed

/-- The widget with the identifier, with the identifier of the tab that holds it. -/
def placed? (d : Document) (id : WidgetId) : Option (TabId × Widget) :=
  (d.widget? id).map fun r => (r.1.id, r.2)

/-- The document with each tab of an identifier changed. -/
def withTab (d : Document) (id : TabId) (change : Tab → Tab) : Document :=
  { d with tabs := d.tabs.map fun t => if t.id = id then change t else t }

/-- Look-ups of other tabs and widgets than the given ones find what they found, and these stand in
the order in which they stood. -/
structure Keeps (tabs : List TabId) (widgets : List WidgetId) (d d' : Document) : Prop where
  tab?_eq : ∀ id ∉ tabs, d'.tab? id = d.tab? id
  placed?_eq : ∀ id ∉ widgets, d'.placed? id = d.placed? id
  tabs_eq : (d'.tabs.filter fun t => t.id ∉ tabs) = d.tabs.filter fun t => t.id ∉ tabs
  placed_eq : (d'.placed.filter fun p => p.2.id ∉ widgets) =
    d.placed.filter fun p => p.2.id ∉ widgets

namespace Edit

/-- The tab that an edit names. -/
def tabIds : Edit → List TabId
  | addTab id => [id]
  | addNamedTab id _ _ => [id]
  | renameTab id _ => [id]
  | setTabIcon id _ => [id]
  | deleteTab id => [id]
  | addWidget tab _ => [tab]
  | replaceWidget tab _ => [tab]
  | deleteWidget tab _ => [tab]
  | setWindow _ => []

/-- The widgets that an edit of the document names. A tab that goes takes all of its widgets
along. -/
def widgetIds (d : Document) : Edit → List WidgetId
  | deleteTab id => ((d.tab? id).elim [] Tab.widgets).map Widget.id
  | addWidget _ w => [w.id]
  | replaceWidget _ w => [w.id]
  | deleteWidget _ id => [id]
  | _ => []

/-- What an edit is to make of a document. -/
def made (d : Document) : Edit → Document
  | addTab id =>
    { d with tabs := d.tabs ++ [{ id, name := tabNameAt (d.tabs.length + 1), icon := "" }] }
  | addNamedTab id name icon => { d with tabs := d.tabs ++ [{ id, name, icon }] }
  | renameTab id name => d.withTab id fun t => { t with name }
  | setTabIcon id icon => d.withTab id fun t => { t with icon }
  | deleteTab id => { d with tabs := d.tabs.filter fun t => t.id ≠ id }
  | addWidget tab w => d.withTab tab fun t => { t with widgets := t.widgets ++ [w] }
  | replaceWidget tab w => d.withTab tab fun t =>
    { t with widgets := t.widgets.map fun v => if v.id = w.id then w else v }
  | deleteWidget tab id => d.withTab tab fun t =>
    { t with widgets := t.widgets.filter fun v => v.id ≠ id }
  | setWindow window => { d with window }

/-- What look-ups find of what an edit names, before it and after it. -/
def Shows (d d' : Document) : Edit → Prop
  | addTab id =>
    id ∉ d.tabIds → d'.tab? id = some { id, name := tabNameAt (d.tabs.length + 1), icon := "" }
  | addNamedTab id name icon => id ∉ d.tabIds → d'.tab? id = some { id, name, icon }
  | renameTab id name => ∃ t, d.tab? id = some t ∧ d'.tab? id = some { t with name }
  | setTabIcon id icon => ∃ t, d.tab? id = some t ∧ d'.tab? id = some { t with icon }
  | deleteTab id => ∃ t, d.tab? id = some t ∧ d'.tab? id = none ∧
    ∀ w ∈ t.widgets, d.placed? w.id = some (id, w) ∧ d'.placed? w.id = none
  | addWidget tab w => d.placed? w.id = none ∧ d'.placed? w.id = some (tab, w)
  | replaceWidget tab w => ∃ old, old.kind = w.kind ∧ d.placed? w.id = some (tab, old) ∧
    d'.placed? w.id = some (tab, w)
  | deleteWidget tab id => ∃ w, d.placed? id = some (tab, w) ∧ d'.placed? id = none
  | setWindow window => d'.window = window

/-- By how many widgets an edit makes a document grow. -/
def growth (d : Document) : Edit → Int
  | deleteTab id => -((d.tab? id).elim [] Tab.widgets).length
  | addWidget _ _ => 1
  | deleteWidget _ _ => -1
  | _ => 0

/-- An edit has changed what it names, and nothing else. -/
structure Changes (e : Edit) (d d' : Document) : Prop where
  made_eq : d' = e.made d
  keeps : Keeps e.tabIds (e.widgetIds d) d d'
  shows : e.Shows d d'
  widgetCount_eq : (d'.widgetCount : Int) = d.widgetCount + e.growth d

end Edit

variable {d d' : Document} {id : TabId} {before after : List Tab} {t u : Tab}

theorem widgetCount_eq (d : Document) : d.widgetCount = d.widgets.length := by
  have hcount : ∀ (ts : List Tab) (n : Nat),
      ts.foldl (fun n t => n + t.widgets.length) n = n + (ts.flatMap Tab.widgets).length := by
    intro ts
    induction ts with
    | nil => simp
    | cons t ts ih =>
        intro n
        rw [List.foldl_cons, ih, List.flatMap_cons, List.length_append, Nat.add_assoc]
  rw [widgetCount, hcount, Nat.zero_add, widgets]

theorem placed?_eq_find? (d : Document) (id : WidgetId) :
    d.placed? id = d.placed.find? fun p => p.2.id == id := by
  rw [placed?, widget?, placed, List.find?_flatMap, List.map_findSome?]
  congr 1
  funext t
  rw [Tab.placed, List.find?_map, Function.comp_apply, Option.map_map]
  rfl

theorem placed?_eq_none_iff {id : WidgetId} : d.placed? id = none ↔ id ∉ d.widgetIds := by
  rw [placed?, Option.map_eq_none_iff, widget?_eq_none_iff]

theorem map_placed (d : Document) : d.placed.map (fun p => p.2.id) = d.widgetIds := by
  simp [placed, Tab.placed, widgetIds, widgets, List.map_flatMap, Function.comp_def]

/-- In a valid document a widget is found in the tab that holds it. -/
theorem placed?_of_mem (hnodup : d.widgetIds.Nodup) {p : TabId × Widget} (hp : p ∈ d.placed) :
    d.placed? p.2.id = some p := by
  obtain ⟨first, last, hplaced⟩ := List.append_of_mem hp
  rw [← map_placed, hplaced] at hnodup
  rw [placed?_eq_find?, List.find?_eq_some_iff_append]
  exact ⟨beq_self_eq_true _, first, last, hplaced,
    fun q hq => by simpa using (ne_of_nodup_map hnodup).1 q hq⟩

theorem keeps_of_filter {tabs : List TabId} {widgets : List WidgetId}
    (htabs : (d'.tabs.filter fun t => t.id ∉ tabs) = d.tabs.filter fun t => t.id ∉ tabs)
    (hplaced : (d'.placed.filter fun p => p.2.id ∉ widgets) =
      d.placed.filter fun p => p.2.id ∉ widgets) : Keeps tabs widgets d d' where
  tab?_eq id hid := by
    refine find?_eq_of_filter_eq htabs fun t ht => ?_
    rw [eq_of_beq ht]
    exact decide_eq_true hid
  placed?_eq id hid := by
    rw [placed?_eq_find?, placed?_eq_find?]
    refine find?_eq_of_filter_eq hplaced fun p hp => ?_
    rw [eq_of_beq hp]
    exact decide_eq_true hid
  tabs_eq := htabs
  placed_eq := hplaced

section FirstTab

theorem FirstTab.withTab_eq (h : d.FirstTab id before t after) (hnodup : d.tabIds.Nodup)
    (change : Tab → Tab) : d.withTab id change = d.replaced before (change t) after := by
  rw [tabIds, h.tabs_eq] at hnodup
  have hmap := map_of_nodup_map hnodup change
  rw [h.id_eq] at hmap
  rw [withTab, h.tabs_eq, hmap, replaced]

theorem FirstTab.placed_eq (h : d.FirstTab id before t after) :
    d.placed = before.flatMap Tab.placed ++ (t.placed ++ after.flatMap Tab.placed) := by
  rw [placed, h.tabs_eq, List.flatMap_append, List.flatMap_cons]

theorem placed_replaced (d : Document) (before : List Tab) (t : Tab) (after : List Tab) :
    (d.replaced before t after).placed =
      before.flatMap Tab.placed ++ (t.placed ++ after.flatMap Tab.placed) := by
  rw [placed, replaced, List.flatMap_append, List.flatMap_cons]

theorem FirstTab.mem_placed (h : d.FirstTab id before t after) {w : Widget}
    (hw : w ∈ t.widgets) : (id, w) ∈ d.placed := by
  rw [h.placed_eq, ← h.id_eq]
  exact List.mem_append_right _ (List.mem_append_left _ (List.mem_map_of_mem hw))

theorem FirstTab.widgetCount_replaced (h : d.FirstTab id before t after) (u : Tab) :
    (d.replaced before u after).widgetCount + t.widgets.length =
      d.widgetCount + u.widgets.length := by
  rw [widgetCount_eq, widgetCount_eq, widgets_replaced, h.widgets_eq]
  simp only [List.length_append]
  omega

theorem FirstTab.keeps_replaced (h : d.FirstTab id before t after) {widgets : List WidgetId}
    (hid : u.id = id) (hwidgets : (u.widgets.filter fun w => w.id ∉ widgets) =
      t.widgets.filter fun w => w.id ∉ widgets) :
    Keeps [id] widgets d (d.replaced before u after) := by
  have hplaced : (u.placed.filter fun p => p.2.id ∉ widgets) =
      t.placed.filter fun p => p.2.id ∉ widgets := by
    rw [Tab.placed, Tab.placed, List.filter_map, List.filter_map, hid, h.id_eq]
    exact congrArg _ hwidgets
  refine keeps_of_filter ?_ ?_
  · simp [replaced, h.tabs_eq, hid, h.id_eq]
  · simp only [placed_replaced, h.placed_eq, List.filter_append, hplaced]

end FirstTab

section Changes

open Edit

variable {w old : Widget}

theorem changes_addNamedTab (id : TabId) (name icon : String) (d : Document) :
    (Edit.addNamedTab id name icon).Changes d (d.addNamedTab id name icon) where
  made_eq := rfl
  keeps := by
    refine keeps_of_filter ?_ ?_
    · simp [Document.addNamedTab, Edit.tabIds]
    · simp [Document.addNamedTab, placed, Tab.placed]
  shows hid := (firstTab_addNamedTab hid name icon).tab?_eq
  widgetCount_eq := by
    simp [widgetCount_eq, widgets, Document.addNamedTab, growth]

theorem changes_setWindow (window : Window) (d : Document) :
    (Edit.setWindow window).Changes d (d.setWindow window).2 where
  made_eq := rfl
  keeps := ⟨fun _ _ => rfl, fun _ _ => rfl, rfl, rfl⟩
  shows := rfl
  widgetCount_eq := (add_zero _).symm

theorem changes_addTab (id : TabId) (d : Document) :
    (Edit.addTab id).Changes d (d.addTab id) where
  __ := changes_addNamedTab id (tabNameAt (d.tabs.length + 1)) "" d

/-- An edit that changes one tab, and none of its widgets but those it names. -/
theorem FirstTab.changes_replaced {e : Edit} (h : d.FirstTab id before t after)
    (hnodup : d.tabIds.Nodup) {change : Tab → Tab} (hmade : e.made d = d.withTab id change)
    (hu : change t = u) (hid : u.id = id) (htab : e.tabIds = [id])
    (hwidgets : (u.widgets.filter fun v => v.id ∉ e.widgetIds d) =
      t.widgets.filter fun v => v.id ∉ e.widgetIds d)
    (hshows : e.Shows d (d.replaced before u after))
    (hgrowth : (u.widgets.length : Int) = t.widgets.length + e.growth d) :
    e.Changes d (d.replaced before u after) where
  made_eq := by rw [hmade, h.withTab_eq hnodup, hu]
  keeps := by
    rw [htab]
    exact h.keeps_replaced hid hwidgets
  shows := hshows
  widgetCount_eq := by
    have hcount := h.widgetCount_replaced u
    omega

theorem changes_renameTab (hnodup : d.tabIds.Nodup) {name old : String}
    (h : d.renameTab id name = .ok (old, d')) : (Edit.renameTab id name).Changes d d' := by
  obtain ⟨before, t, after, _, hfirst, hu, rfl⟩ := exists_of_editTab h
  cases hu
  have hid : ({ t with name } : Tab).id = id := hfirst.id_eq
  refine hfirst.changes_replaced hnodup rfl rfl hid rfl rfl ?_ (by simp [growth])
  exact ⟨t, hfirst.tab?_eq, (hfirst.firstTab_replaced hid).tab?_eq⟩

theorem changes_setTabIcon (hnodup : d.tabIds.Nodup) {icon old : String}
    (h : d.setTabIcon id icon = .ok (old, d')) : (Edit.setTabIcon id icon).Changes d d' := by
  obtain ⟨before, t, after, _, hfirst, hu, rfl⟩ := exists_of_editTab h
  cases hu
  have hid : ({ t with icon } : Tab).id = id := hfirst.id_eq
  refine hfirst.changes_replaced hnodup rfl rfl hid rfl rfl ?_ (by simp [growth])
  exact ⟨t, hfirst.tab?_eq, (hfirst.firstTab_replaced hid).tab?_eq⟩

theorem changes_addWidget (hd : d.validate = .ok ()) {w : Widget} {i : WidgetId}
    (h : d.addWidget id w = .ok (i, d')) : (Edit.addWidget id w).Changes d d' := by
  have hperm := (perm_of_addWidget h).map Widget.id
  obtain ⟨hw, before, t, after, hfirst, rfl⟩ := exists_of_addWidget h
  obtain ⟨htabs, hwidgets⟩ := validate_eq_ok_iff.mp hd
  have hnodup := hperm.nodup_iff.mp (List.nodup_cons.mpr ⟨hw, hwidgets.nodup⟩)
  have hmem := (hfirst.firstTab_replaced (u := { t with widgets := t.widgets ++ [w] })
    hfirst.id_eq).mem_placed (w := w) (by simp)
  refine hfirst.changes_replaced htabs.nodup rfl rfl hfirst.id_eq rfl (by simp [Edit.widgetIds])
    ⟨placed?_eq_none_iff.mpr hw, placed?_of_mem hnodup hmem⟩ (by simp [growth])

theorem changes_replaceWidget (hd : d.validate = .ok ()) {w old : Widget}
    (h : d.replaceWidget id w = .ok (old, d')) : (Edit.replaceWidget id w).Changes d d' := by
  have hd' : (d'.ValidWith fun _ => True) :=
    ValidWith.of_replaceWidget ⟨hd, fun _ _ => trivial⟩ trivial h
  obtain ⟨before, t, after, ws, us, hfirst, hwidgets, -, hid, hkind, rfl⟩ :=
    exists_of_replaceWidget h
  obtain ⟨htabs, hnodup⟩ := validate_eq_ok_iff.mp hd
  obtain ⟨-, hnodup'⟩ := validate_eq_ok_iff.mp hd'.valid
  have hold := hfirst.mem_placed (w := old) (by simp [hwidgets])
  have hnew := (hfirst.firstTab_replaced (u := { t with widgets := ws ++ w :: us })
    hfirst.id_eq).mem_placed (w := w) (by simp)
  have htab := hfirst.nodup_widgets hd
  rw [hwidgets] at htab
  have hmap : (t.widgets.map fun v => if v.id = w.id then w else v) = ws ++ w :: us := by
    rw [hwidgets, ← hid]
    exact map_of_nodup_map htab fun _ => w
  refine hfirst.changes_replaced htabs.nodup rfl (by rw [hmap]) hfirst.id_eq rfl ?_
    ⟨old, hkind, ?_, placed?_of_mem hnodup'.nodup hnew⟩ (by simp [hwidgets, growth])
  · simp [hwidgets, Edit.widgetIds, hid]
  · rw [← hid]
    exact placed?_of_mem hnodup.nodup hold

theorem changes_deleteWidget (hd : d.validate = .ok ()) {i : WidgetId} {w : Widget}
    (h : d.deleteWidget id i = .ok (w, d')) : (Edit.deleteWidget id i).Changes d d' := by
  obtain ⟨before, t, after, ws, us, hfirst, hwidgets, -, rfl, rfl⟩ := exists_of_deleteWidget h
  obtain ⟨htabs, hnodup⟩ := validate_eq_ok_iff.mp hd
  have hold := hfirst.mem_placed (w := w) (by simp [hwidgets])
  have hgone := (List.nodup_cons.mp ((perm_of_deleteWidget h).nodup_iff.mp hnodup.nodup)).1
  have htab := hfirst.nodup_widgets hd
  rw [hwidgets] at htab
  have hfilter : (t.widgets.filter fun v => v.id ≠ w.id) = ws ++ us := by
    rw [hwidgets]
    exact filter_of_nodup_map htab
  refine hfirst.changes_replaced htabs.nodup rfl (by rw [hfilter]) hfirst.id_eq rfl ?_
    ⟨w, placed?_of_mem hnodup.nodup hold, placed?_eq_none_iff.mpr hgone⟩ ?_
  · simp [hwidgets, Edit.widgetIds]
  · simp only [hwidgets, growth, List.length_append, List.length_cons]
    omega

theorem changes_deleteTab (hd : d.validate = .ok ()) (h : d.deleteTab id = .ok (t, d')) :
    (Edit.deleteTab id).Changes d d' := by
  have hperm := perm_of_deleteTab h
  obtain ⟨before, after, hfirst, rfl⟩ := exists_of_deleteTab h
  obtain ⟨htabs, hwidgets⟩ := validate_eq_ok_iff.mp hd
  have htab := hfirst.tab?_eq
  have hnodup := htabs.nodup
  rw [tabIds, hfirst.tabs_eq] at hnodup
  have hfilter := filter_of_nodup_map hnodup
  obtain ⟨hbefore, hafter⟩ := ne_of_nodup_map hnodup
  rw [hfirst.id_eq] at hfilter hbefore hafter
  have hgone := hwidgets.nodup
  rw [widgetIds, (hperm.map Widget.id).nodup_iff, List.map_append, List.nodup_append] at hgone
  have hplaced : (t.placed.filter fun p => p.2.id ∉ t.widgets.map Widget.id) = [] := by
    simp only [List.filter_eq_nil_iff, Tab.placed, List.forall_mem_map]
    intro w hw
    simpa using ⟨w, hw, rfl⟩
  refine ⟨?_, keeps_of_filter ?_ ?_, ⟨t, htab, ?_, fun w hw => ⟨?_, ?_⟩⟩, ?_⟩
  · rw [made, hfirst.tabs_eq, hfilter]
  · simp [hfirst.tabs_eq, hfirst.id_eq, Edit.tabIds]
  · rw [Edit.widgetIds, htab, Option.elim, hfirst.placed_eq, List.filter_append, List.filter_append,
      hplaced, List.nil_append, ← List.filter_append, placed, List.flatMap_append]
  · rw [tab?_eq_none_iff, tabIds, List.map_append, List.mem_append, List.mem_map, List.mem_map]
    rintro (⟨u, hu, heq⟩ | ⟨u, hu, heq⟩)
    · exact hbefore u hu heq
    · exact hafter u hu heq
  · exact placed?_of_mem hwidgets.nodup (hfirst.mem_placed hw)
  · rw [placed?_eq_none_iff]
    exact fun hmem => hgone.2.2 _ (List.mem_map_of_mem hw) _ hmem rfl
  · have hlength := hperm.length_eq
    rw [List.length_append] at hlength
    rw [widgetCount_eq, widgetCount_eq, growth, htab, Option.elim]
    omega

end Changes

theorem answer_addWidget (tab : TabId) (w : Widget) (d : Document) :
    (answer (InPlace.addWidget tab w d) = .error (.duplicateWidgetId w.id) ↔ w.id ∈ d.widgetIds) ∧
      (answer (InPlace.addWidget tab w d) = .error (.unknownTab tab) ↔
        w.id ∉ d.widgetIds ∧ d.tab? tab = none) ∧
      (answer (InPlace.addWidget tab w d) = .ok w.id ↔
        w.id ∉ d.widgetIds ∧ d.tab? tab ≠ none) := by
  rw [InPlace.addWidget_eq, answer_wholly, ne_eq, tab?_eq_none_iff]
  by_cases hw : w.id ∈ d.widgetIds
  · rw [addWidget_of_mem hw]
    simp [Except.map, hw]
  · by_cases htab : tab ∈ d.tabIds
    · obtain ⟨before, t, after, hfirst⟩ := exists_firstTab htab
      rw [hfirst.addWidget_eq hw]
      simp [Except.map, hw, htab]
    · rw [addWidget_of_not_mem hw, editTab_of_not_mem htab]
      simp [Except.map, hw, htab]

/-- An edit that is not refused changes what it names and nothing else. A widget is not added if its
identifier is in use anywhere, whatever tab is named, and otherwise if there is no such tab. -/
theorem edits_change_what_they_name (hd : d.validate = .ok ()) :
    (∀ (e : Edit) r d', e.act d = .ok r d' → e.Changes d d') ∧
    ∀ tab w,
      (answer (InPlace.addWidget tab w d) = .error (.duplicateWidgetId w.id) ↔
        ∃ t ∈ d.tabs, ∃ v ∈ t.widgets, v.id = w.id) ∧
      (answer (InPlace.addWidget tab w d) = .error (.unknownTab tab) ↔
        (¬∃ t ∈ d.tabs, ∃ v ∈ t.widgets, v.id = w.id) ∧ d.tab? tab = none) ∧
      (answer (InPlace.addWidget tab w d) = .ok w.id ↔
        (¬∃ t ∈ d.tabs, ∃ v ∈ t.widgets, v.id = w.id) ∧ d.tab? tab ≠ none) := by
  constructor
  · intro e r d' h
    have htabs := (validate_eq_ok_iff.mp hd).1.nodup
    cases e with
    | addTab id =>
        obtain ⟨_, hr, -⟩ := exists_of_map_wholly (InPlace.addTab_eq id d) h
        cases hr
        exact changes_addTab id d
    | addNamedTab id name icon =>
        obtain ⟨_, hr, -⟩ := exists_of_map_wholly (InPlace.addNamedTab_eq id name icon d) h
        cases hr
        exact changes_addNamedTab id name icon d
    | renameTab id name =>
        obtain ⟨_, hr, -⟩ := exists_of_map_wholly (InPlace.renameTab_eq id name d) h
        obtain ⟨⟨_, _⟩, hrename, hr⟩ := map_eq_ok_iff.mp hr
        cases hr
        exact changes_renameTab htabs hrename
    | setTabIcon id icon =>
        obtain ⟨_, hr, -⟩ := exists_of_map_wholly (InPlace.setTabIcon_eq id icon d) h
        obtain ⟨⟨_, _⟩, hicon, hr⟩ := map_eq_ok_iff.mp hr
        cases hr
        exact changes_setTabIcon htabs hicon
    | deleteTab id =>
        obtain ⟨_, hdelete, -⟩ := exists_of_map_wholly (InPlace.deleteTab_eq id d) h
        exact changes_deleteTab hd hdelete
    | addWidget tab w =>
        obtain ⟨_, hadd, -⟩ := exists_of_map_wholly (InPlace.addWidget_eq tab w d) h
        exact changes_addWidget hd hadd
    | replaceWidget tab w =>
        obtain ⟨_, hreplace, -⟩ := exists_of_map_wholly (InPlace.replaceWidget_eq tab w d) h
        exact changes_replaceWidget hd hreplace
    | deleteWidget tab id =>
        obtain ⟨_, hdelete, -⟩ := exists_of_map_wholly (InPlace.deleteWidget_eq tab id d) h
        exact changes_deleteWidget hd hdelete
    | setWindow window =>
        obtain ⟨_, hr, -⟩ := exists_of_map_wholly (InPlace.setWindow_eq window d) h
        cases hr
        exact changes_setWindow window d
  · intro tab w
    rw [← mem_widgetIds_iff]
    exact answer_addWidget tab w d

/-- Two pages. The second one has the identifier of a widget on the first. -/
def twoPages : Document where
  tabs :=
    [{ id := ⟨"a"⟩, name := "A", widgets := [⟨⟨"x"⟩, "X", .label none⟩, ⟨⟨"b"⟩, "B", .button ""⟩] },
      { id := ⟨"b"⟩, name := "B", widgets := [⟨⟨"y"⟩, "Y", .paragraph ""⟩] }]

theorem edits_change_what_they_name_twoPages :
    twoPages.validate = .ok () ∧
      (∃ r d', (Edit.deleteTab ⟨"b"⟩).act twoPages = .ok r d' ∧ d'.placed? ⟨"y"⟩ = none ∧
        d'.placed? ⟨"b"⟩ = some (⟨"a"⟩, ⟨⟨"b"⟩, "B", .button ""⟩)) ∧
      answer (InPlace.addWidget ⟨"c"⟩ ⟨⟨"y"⟩, "Y", .label none⟩ twoPages) =
        .error (.duplicateWidgetId ⟨"y"⟩) := by
  have hvalid : twoPages.validate = .ok () := by decide
  obtain ⟨hchanges, hadd⟩ := edits_change_what_they_name hvalid
  obtain ⟨t, htab, -, hgone⟩ := (hchanges (.deleteTab ⟨"b"⟩) _ _ rfl).shows
  have hkept := (hchanges (.deleteTab ⟨"b"⟩) _ _ rfl).keeps.placed?_eq ⟨"b"⟩ (by decide)
  cases htab
  exact ⟨hvalid, ⟨_, _, rfl, (hgone _ List.mem_cons_self).2, hkept⟩,
    (hadd ⟨"c"⟩ ⟨⟨"y"⟩, "Y", .label none⟩).1.mpr (by decide)⟩

end Document

end ControlPanel
