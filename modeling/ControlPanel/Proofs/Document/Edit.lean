import ControlPanel.Document.Edit
import ControlPanel.Proofs.Document.Identifiers

namespace ControlPanel

section Lists

variable {α β ε : Type} {p : α → Bool} {missing : ε} {l before after : List α} {a : α}

theorem editFirst_of_none {f : α → Except ε (β × α)} (h : ∀ a ∈ l, ¬p a = true) :
    editFirst p missing f l = .error missing := by
  induction l with
  | nil => rfl
  | cons b l ih =>
      rw [List.forall_mem_cons] at h
      rw [editFirst, if_neg h.1, ih h.2]
      rfl

theorem editFirst_of_first {f : α → Except ε (β × α)} (hbefore : ∀ b ∈ before, ¬p b = true)
    (ha : p a = true) :
    editFirst p missing f (before ++ a :: after) =
      (f a).map fun r => (r.1, before ++ r.2 :: after) := by
  induction before with
  | nil =>
      rw [List.nil_append, editFirst, if_pos ha]
      cases f a <;> rfl
  | cons b before ih =>
      rw [List.forall_mem_cons] at hbefore
      rw [List.cons_append, editFirst, if_neg hbefore.1, ih hbefore.2]
      cases f a <;> rfl

theorem removeFirst_of_none (h : ∀ a ∈ l, ¬p a = true) :
    removeFirst p missing l = .error missing := by
  induction l with
  | nil => rfl
  | cons b l ih =>
      rw [List.forall_mem_cons] at h
      rw [removeFirst, if_neg h.1, ih h.2]
      rfl

theorem removeFirst_of_first (hbefore : ∀ b ∈ before, ¬p b = true) (ha : p a = true) :
    removeFirst p missing (before ++ a :: after) = .ok (a, before ++ after) := by
  induction before with
  | nil => rw [List.nil_append, removeFirst, if_pos ha, List.nil_append]
  | cons b before ih =>
      rw [List.forall_mem_cons] at hbefore
      rw [List.cons_append, removeFirst, if_neg hbefore.1, ih hbefore.2]
      rfl

/-- A list has no element that satisfies a condition, or it has a first one. -/
theorem none_or_first (p : α → Bool) (l : List α) :
    (∀ a ∈ l, ¬p a = true) ∨
      ∃ before a after, l = before ++ a :: after ∧ (∀ b ∈ before, ¬p b = true) ∧ p a = true := by
  cases h : l.find? p with
  | none => exact .inl (List.find?_eq_none.mp h)
  | some a =>
      obtain ⟨ha, before, after, hl, hbefore⟩ := List.find?_eq_some_iff_append.mp h
      exact .inr ⟨before, a, after, hl, fun b hb => by simpa using hbefore b hb, ha⟩

theorem exists_of_editFirst {f : α → Except ε (β × α)} {r : β × List α}
    (h : editFirst p missing f l = .ok r) :
    ∃ before a after b, l = before ++ a :: after ∧ (∀ c ∈ before, ¬p c = true) ∧ p a = true ∧
      f a = .ok (r.1, b) ∧ r.2 = before ++ b :: after := by
  rcases none_or_first p l with hnone | ⟨before, a, after, rfl, hbefore, ha⟩
  · rw [editFirst_of_none hnone] at h
    cases h
  · rw [editFirst_of_first hbefore ha] at h
    obtain ⟨⟨b, c⟩, hf, rfl⟩ := Outcome.map_eq_ok_iff.mp h
    exact ⟨before, a, after, c, rfl, hbefore, ha, hf, rfl⟩

theorem exists_of_removeFirst {r : α × List α} (h : removeFirst p missing l = .ok r) :
    ∃ before after, l = before ++ r.1 :: after ∧ (∀ b ∈ before, ¬p b = true) ∧ p r.1 = true ∧
      r.2 = before ++ after := by
  rcases none_or_first p l with hnone | ⟨before, a, after, rfl, hbefore, ha⟩
  · rw [removeFirst_of_none hnone] at h
    cases h
  · rw [removeFirst_of_first hbefore ha] at h
    cases h
    exact ⟨before, after, rfl, hbefore, ha, rfl⟩

/-- Where no two elements have one key, those before and after an element have other keys. -/
theorem ne_of_nodup_map {key : α → β} (h : ((before ++ a :: after).map key).Nodup) :
    (∀ b ∈ before, key b ≠ key a) ∧ ∀ b ∈ after, key b ≠ key a := by
  rw [List.map_append, List.map_cons, List.nodup_middle, List.nodup_cons, List.mem_append,
    not_or] at h
  exact ⟨fun b hb heq => h.1.1 (heq ▸ List.mem_map_of_mem hb),
    fun b hb heq => h.1.2 (heq ▸ List.mem_map_of_mem hb)⟩

/-- An element with a key of its own is the first with this key. -/
theorem split_of_getElem? {key : α → β} {i : Nat} (hnodup : (l.map key).Nodup)
    (ha : l[i]? = some a) :
    l = l.take i ++ a :: l.drop (i + 1) ∧ ∀ b ∈ l.take i, key b ≠ key a := by
  obtain ⟨hi, rfl⟩ := List.getElem?_eq_some_iff.mp ha
  have hl : l = l.take i ++ l[i] :: l.drop (i + 1) := by
    rw [List.getElem_cons_drop, List.take_append_drop]
  rw [hl] at hnodup
  exact ⟨hl, (ne_of_nodup_map hnodup).1⟩

end Lists

namespace Document

/-- The tab is the first with the identifier and stands between those before and after it. -/
structure FirstTab (d : Document) (id : TabId) (before : List Tab) (t : Tab) (after : List Tab) :
    Prop where
  tabs_eq : d.tabs = before ++ t :: after
  id_eq : t.id = id
  ne_before : ∀ u ∈ before, u.id ≠ id

section FirstTab

variable {d : Document} {id : TabId} {before after : List Tab} {t : Tab}

theorem tab?_eq_some_iff : d.tab? id = some t ↔ ∃ before after, d.FirstTab id before t after := by
  rw [tab?, List.find?_eq_some_iff_append]
  constructor
  · rintro ⟨hid, before, after, htabs, hbefore⟩
    exact ⟨before, after, htabs, eq_of_beq hid, fun u hu => by simpa using hbefore u hu⟩
  · rintro ⟨before, after, htabs, hid, hbefore⟩
    exact ⟨beq_of_eq hid, before, after, htabs, fun u hu => by simpa using hbefore u hu⟩

theorem tab?_eq_none_iff : d.tab? id = none ↔ id ∉ d.tabIds := by
  simp [tab?, tabIds]

theorem exists_firstTab (h : id ∈ d.tabIds) : ∃ before t after, d.FirstTab id before t after := by
  cases htab : d.tab? id with
  | none => exact absurd h (tab?_eq_none_iff.mp htab)
  | some t =>
      obtain ⟨before, after, hfirst⟩ := tab?_eq_some_iff.mp htab
      exact ⟨before, t, after, hfirst⟩

theorem firstTab_of_getElem? {index : Nat} (hnodup : d.tabIds.Nodup)
    (ht : d.tabs[index]? = some t) :
    d.FirstTab t.id (d.tabs.take index) t (d.tabs.drop (index + 1)) := by
  obtain ⟨htabs, hbefore⟩ := split_of_getElem? hnodup ht
  exact ⟨htabs, rfl, hbefore⟩

theorem FirstTab.tab?_eq (h : d.FirstTab id before t after) : d.tab? id = some t :=
  tab?_eq_some_iff.mpr ⟨before, after, h⟩

theorem FirstTab.mem_tabIds (h : d.FirstTab id before t after) : id ∈ d.tabIds := by
  rw [tabIds, h.tabs_eq, ← h.id_eq]
  exact List.mem_map_of_mem (by simp)

theorem FirstTab.tabIds_eq (h : d.FirstTab id before t after) :
    d.tabIds = before.map Tab.id ++ id :: after.map Tab.id := by
  rw [tabIds, h.tabs_eq, List.map_append, List.map_cons, h.id_eq]

theorem FirstTab.widgets_eq (h : d.FirstTab id before t after) :
    d.widgets = before.flatMap Tab.widgets ++ (t.widgets ++ after.flatMap Tab.widgets) := by
  rw [widgets, h.tabs_eq, List.flatMap_append, List.flatMap_cons]

theorem FirstTab.mem_widgetIds (h : d.FirstTab id before t after) {w : Widget}
    (hw : w ∈ t.widgets) : w.id ∈ d.widgetIds := by
  refine mem_widgetIds_iff.mpr ⟨t, ?_, w, hw, rfl⟩
  rw [h.tabs_eq]
  exact List.mem_append_right before List.mem_cons_self

theorem FirstTab.nodup_widgets (h : d.FirstTab id before t after) (hd : d.validate = .ok ()) :
    (t.widgets.map Widget.id).Nodup := by
  obtain ⟨-, hwidgets⟩ := validate_eq_ok_iff.mp hd
  have hnodup := hwidgets.nodup
  rw [widgetIds, h.widgets_eq] at hnodup
  exact hnodup.sublist (List.Sublist.map Widget.id
    ((List.sublist_append_left _ _).trans (List.sublist_append_right _ _)))

/-- The document with another tab in the place of the one found. -/
def replaced (d : Document) (before : List Tab) (t : Tab) (after : List Tab) : Document :=
  { d with tabs := before ++ t :: after }

theorem FirstTab.replaced_back (h : d.FirstTab id before t after) (u : Tab) :
    (d.replaced before u after).replaced before t after = d := by
  rw [replaced, replaced, ← h.tabs_eq]

theorem tabIds_replaced (d : Document) (before : List Tab) (t : Tab) (after : List Tab) :
    (d.replaced before t after).tabIds = before.map Tab.id ++ t.id :: after.map Tab.id := by
  rw [tabIds, replaced, List.map_append, List.map_cons]

theorem widgets_replaced (d : Document) (before : List Tab) (t : Tab) (after : List Tab) :
    (d.replaced before t after).widgets =
      before.flatMap Tab.widgets ++ (t.widgets ++ after.flatMap Tab.widgets) := by
  rw [widgets, replaced, List.flatMap_append, List.flatMap_cons]

theorem FirstTab.firstTab_replaced (h : d.FirstTab id before t after) {u : Tab} (hid : u.id = id) :
    (d.replaced before u after).FirstTab id before u after :=
  ⟨rfl, hid, h.ne_before⟩

theorem not_beq_of_not_mem (h : id ∉ d.tabIds) : ∀ t ∈ d.tabs, ¬(t.id == id) = true := by
  intro t ht heq
  exact h (List.mem_map.mpr ⟨t, ht, eq_of_beq heq⟩)

theorem FirstTab.not_beq (h : d.FirstTab id before t after) :
    ∀ u ∈ before, ¬(u.id == id) = true := by
  intro u hu heq
  exact h.ne_before u hu (eq_of_beq heq)

theorem editTab_of_not_mem {α : Type} {f : Tab → Except DocumentError (α × Tab)}
    (h : id ∉ d.tabIds) : d.editTab id f = .error (.unknownTab id) := by
  rw [editTab, editFirst_of_none (not_beq_of_not_mem h)]
  rfl

theorem FirstTab.editTab_eq {α : Type} (h : d.FirstTab id before t after)
    (f : Tab → Except DocumentError (α × Tab)) :
    d.editTab id f = (f t).map fun r => (r.1, d.replaced before r.2 after) := by
  rw [editTab, h.tabs_eq, editFirst_of_first h.not_beq (beq_of_eq h.id_eq)]
  cases f t <;> rfl

theorem exists_of_editTab {α : Type} {f : Tab → Except DocumentError (α × Tab)} {a : α}
    {d' : Document} (h : d.editTab id f = .ok (a, d')) :
    ∃ before t after u, d.FirstTab id before t after ∧ f t = .ok (a, u) ∧
      d' = d.replaced before u after := by
  by_cases hid : id ∈ d.tabIds
  · obtain ⟨before, t, after, hfirst⟩ := exists_firstTab hid
    rw [hfirst.editTab_eq] at h
    cases hf : f t with
    | error e =>
        rw [hf] at h
        cases h
    | ok r =>
        rw [hf] at h
        cases h
        exact ⟨before, t, after, r.2, hfirst, hf, rfl⟩
  · rw [editTab_of_not_mem hid] at h
    cases h

/-- The tab that was just appended is the only one with its identifier. -/
theorem firstTab_addNamedTab (hid : id ∉ d.tabIds) (name icon : String) :
    (d.addNamedTab id name icon).FirstTab id d.tabs { id, name, icon } [] where
  tabs_eq := rfl
  id_eq := rfl
  ne_before t ht heq := hid (List.mem_map.mpr ⟨t, ht, heq⟩)

theorem FirstTab.renameTab_eq (h : d.FirstTab id before t after) (name : String) :
    d.renameTab id name = .ok (t.name, d.replaced before { t with name } after) :=
  h.editTab_eq _

theorem FirstTab.setTabIcon_eq (h : d.FirstTab id before t after) (icon : String) :
    d.setTabIcon id icon = .ok (t.icon, d.replaced before { t with icon } after) :=
  h.editTab_eq _

theorem FirstTab.deleteTab_eq (h : d.FirstTab id before t after) :
    d.deleteTab id = .ok (t, { d with tabs := before ++ after }) := by
  rw [deleteTab, h.tabs_eq, removeFirst_of_first h.not_beq (beq_of_eq h.id_eq)]
  rfl

theorem deleteTab_of_not_mem (h : id ∉ d.tabIds) : d.deleteTab id = .error (.unknownTab id) := by
  rw [deleteTab, removeFirst_of_none (not_beq_of_not_mem h)]
  rfl

theorem exists_of_deleteTab {d' : Document} (h : d.deleteTab id = .ok (t, d')) :
    ∃ before after, d.FirstTab id before t after ∧ d' = { d with tabs := before ++ after } := by
  by_cases hid : id ∈ d.tabIds
  · obtain ⟨before, u, after, hfirst⟩ := exists_firstTab hid
    rw [hfirst.deleteTab_eq] at h
    cases h
    exact ⟨before, after, hfirst, rfl⟩
  · rw [deleteTab_of_not_mem hid] at h
    cases h

theorem perm_of_deleteTab {d' : Document} (h : d.deleteTab id = .ok (t, d')) :
    d.widgets.Perm (t.widgets ++ d'.widgets) := by
  obtain ⟨before, after, hfirst, rfl⟩ := exists_of_deleteTab h
  rw [hfirst.widgets_eq, widgets, List.flatMap_append]
  exact List.perm_append_comm_assoc _ _ _

theorem widget?_eq_none_iff {w : WidgetId} : d.widget? w = none ↔ w ∉ d.widgetIds := by
  simp only [widget?, List.findSome?_eq_none_iff, Option.map_eq_none_iff, Tab.widget?,
    List.find?_eq_none, widgetIds, widgets, List.mem_map, List.mem_flatMap, beq_iff_eq]
  constructor
  · rintro h ⟨w, ⟨t, ht, hw⟩, rfl⟩
    exact h t ht w hw rfl
  · rintro h t ht v hv rfl
    exact h ⟨v, ⟨t, ht, hv⟩, rfl⟩

theorem addWidget_of_mem {w : Widget} (h : w.id ∈ d.widgetIds) :
    d.addWidget id w = .error (.duplicateWidgetId w.id) := by
  have hsome : (d.widget? w.id).isSome = true := by
    rw [Option.isSome_iff_ne_none, ne_eq, widget?_eq_none_iff]
    exact not_not_intro h
  rw [addWidget, if_pos hsome]

theorem addWidget_of_not_mem {w : Widget} (h : w.id ∉ d.widgetIds) :
    d.addWidget id w =
      d.editTab id fun t => .ok (w.id, { t with widgets := t.widgets ++ [w] }) := by
  rw [addWidget, widget?_eq_none_iff.mpr h]
  rfl

theorem exists_of_addWidget {w : Widget} {i : WidgetId} {d' : Document}
    (h : d.addWidget id w = .ok (i, d')) :
    w.id ∉ d.widgetIds ∧ ∃ before t after, d.FirstTab id before t after ∧
      d' = d.replaced before { t with widgets := t.widgets ++ [w] } after := by
  by_cases hw : w.id ∈ d.widgetIds
  · rw [addWidget_of_mem hw] at h
    cases h
  · rw [addWidget_of_not_mem hw] at h
    obtain ⟨before, t, after, u, hfirst, hu, rfl⟩ := exists_of_editTab h
    cases hu
    exact ⟨hw, before, t, after, hfirst, rfl⟩

theorem perm_of_addWidget {w : Widget} {i : WidgetId} {d' : Document}
    (h : d.addWidget id w = .ok (i, d')) : (w :: d.widgets).Perm d'.widgets := by
  obtain ⟨-, before, t, after, hfirst, rfl⟩ := exists_of_addWidget h
  rw [widgets_replaced, hfirst.widgets_eq, List.append_assoc, List.singleton_append,
    ← List.append_assoc, ← List.append_assoc]
  exact List.perm_middle.symm

theorem FirstTab.addWidget_eq (h : d.FirstTab id before t after) {w : Widget}
    (hw : w.id ∉ d.widgetIds) :
    d.addWidget id w =
      .ok (w.id, d.replaced before { t with widgets := t.widgets ++ [w] } after) := by
  rw [addWidget_of_not_mem hw]
  exact h.editTab_eq _

theorem exists_of_replaceWidget {w old : Widget} {d' : Document}
    (h : d.replaceWidget id w = .ok (old, d')) :
    ∃ before t after ws us, d.FirstTab id before t after ∧ t.widgets = ws ++ old :: us ∧
      (∀ v ∈ ws, v.id ≠ w.id) ∧ old.id = w.id ∧ old.kind = w.kind ∧
      d' = d.replaced before { t with widgets := ws ++ w :: us } after := by
  obtain ⟨before, t, after, u, hfirst, hu, rfl⟩ := exists_of_editTab h
  obtain ⟨⟨_, vs⟩, hedit, hu⟩ := Outcome.bind_eq_ok_iff.mp hu
  cases hu
  obtain ⟨ws, v, us, v', hwidgets, hws, hv, hkind, rfl⟩ := exists_of_editFirst hedit
  split at hkind
  · rename_i heq
    cases hkind
    exact ⟨before, t, after, ws, us, hfirst, hwidgets, fun v hv heq => hws v hv (beq_of_eq heq),
      eq_of_beq hv, heq, rfl⟩
  · cases hkind

theorem FirstTab.replaceWidget_eq (h : d.FirstTab id before t after) {w old : Widget}
    {ws us : List Widget} (hwidgets : t.widgets = ws ++ old :: us) (hws : ∀ v ∈ ws, v.id ≠ w.id)
    (hid : old.id = w.id) (hkind : old.kind = w.kind) :
    d.replaceWidget id w =
      .ok (old, d.replaced before { t with widgets := ws ++ w :: us } after) := by
  rw [replaceWidget, h.editTab_eq, hwidgets,
    editFirst_of_first (fun v hv heq => hws v hv (eq_of_beq heq)) (beq_of_eq hid), if_pos hkind]
  rfl

theorem FirstTab.deleteWidget_eq (h : d.FirstTab id before t after) {w : Widget}
    {ws us : List Widget} (hwidgets : t.widgets = ws ++ w :: us) (hws : ∀ v ∈ ws, v.id ≠ w.id) :
    d.deleteWidget id w.id = .ok (w, d.replaced before { t with widgets := ws ++ us } after) := by
  have hremove : removeFirst (fun v => v.id == w.id) (DocumentError.unknownWidget id w.id)
      t.widgets = .ok (w, ws ++ us) := by
    rw [hwidgets]
    exact removeFirst_of_first (fun v hv heq => hws v hv (eq_of_beq heq)) (beq_of_eq rfl)
  rw [deleteWidget, h.editTab_eq, hremove]
  rfl

theorem exists_of_deleteWidget {w : WidgetId} {removed : Widget} {d' : Document}
    (h : d.deleteWidget id w = .ok (removed, d')) :
    ∃ before t after ws us, d.FirstTab id before t after ∧ t.widgets = ws ++ removed :: us ∧
      (∀ v ∈ ws, v.id ≠ w) ∧ removed.id = w ∧
      d' = d.replaced before { t with widgets := ws ++ us } after := by
  obtain ⟨before, t, after, u, hfirst, hu, rfl⟩ := exists_of_editTab h
  obtain ⟨⟨v, vs⟩, hremove, hu⟩ := Outcome.bind_eq_ok_iff.mp hu
  cases hu
  obtain ⟨ws, us, hwidgets, hws, hv, rfl⟩ := exists_of_removeFirst hremove
  exact ⟨before, t, after, ws, us, hfirst, hwidgets, fun v hv heq => hws v hv (beq_of_eq heq),
    eq_of_beq hv, rfl⟩

theorem perm_of_deleteWidget {w : WidgetId} {removed : Widget} {d' : Document}
    (h : d.deleteWidget id w = .ok (removed, d')) :
    d.widgetIds.Perm (removed.id :: d'.widgetIds) := by
  obtain ⟨before, t, after, ws, us, hfirst, hwidgets, -, -, rfl⟩ := exists_of_deleteWidget h
  rw [widgetIds, hfirst.widgets_eq, hwidgets, widgetIds, widgets_replaced, ← List.map_cons]
  refine List.Perm.map Widget.id ?_
  rw [List.append_assoc, List.cons_append, List.append_assoc, ← List.append_assoc,
    ← List.append_assoc]
  exact List.perm_middle

end FirstTab

end Document

end ControlPanel
