import ControlPanel.Proofs.Document.InPlace

/-!
An edit is taken back also in a document that is not valid, since the second edit finds the same tab
and the same place among its widgets as the first one.
-/

namespace ControlPanel

open Outcome

namespace Document

variable {d d' : Document} {id : TabId} {w old : Widget}

theorem deleteWidget_of_addWidget {i : WidgetId} (h : d.addWidget id w = .ok (i, d')) :
    d'.deleteWidget id i = .ok (w, d) := by
  obtain ⟨hw, before, t, after, hfirst, rfl⟩ := exists_of_addWidget h
  rw [hfirst.addWidget_eq hw] at h
  cases h
  have hother : ∀ v ∈ t.widgets, v.id ≠ w.id :=
    fun v hv heq => hw (heq ▸ hfirst.mem_widgetIds hv)
  have hfirst' := hfirst.firstTab_replaced (u := { t with widgets := t.widgets ++ [w] })
    hfirst.id_eq
  rw [hfirst'.deleteWidget_eq rfl hother, List.append_nil, hfirst.replaced_back]

theorem replaceWidget_of_replaceWidget (h : d.replaceWidget id w = .ok (old, d')) :
    d'.replaceWidget id old = .ok (w, d) := by
  obtain ⟨before, t, after, ws, us, hfirst, hwidgets, hws, hid, hkind, rfl⟩ :=
    exists_of_replaceWidget h
  have hfirst' := hfirst.firstTab_replaced (u := { t with widgets := ws ++ w :: us }) hfirst.id_eq
  rw [hfirst'.replaceWidget_eq rfl (hid ▸ hws) hid.symm hkind.symm, ← hwidgets,
    hfirst.replaced_back]

/-- A widget that stood last in its tab, and whose identifier is not in use otherwise, is put back
by being added. -/
theorem addWidget_of_deleteWidget {i : WidgetId} {u : Tab}
    (h : d.deleteWidget id i = .ok (w, d')) (hu : d.tab? id = some u)
    (hlast : u.widgets.getLast? = some w) (hcount : d.widgetIds.count i = 1) :
    d'.addWidget id w = .ok (i, d) := by
  have hperm := perm_of_deleteWidget h
  obtain ⟨before, t, after, ws, us, hfirst, hwidgets, -, rfl, rfl⟩ := exists_of_deleteWidget h
  rw [hfirst.tab?_eq] at hu
  obtain rfl := Option.some.inj hu
  have hgone : w.id ∉ (d.replaced before { t with widgets := ws ++ us } after).widgetIds := by
    rw [hperm.count_eq, List.count_cons_self, Nat.add_eq_right] at hcount
    exact List.count_eq_zero.mp hcount
  have hfirst' := hfirst.firstTab_replaced (u := { t with widgets := ws ++ us }) hfirst.id_eq
  -- Behind the one that was removed there is none, for the last one has its identifier.
  have hus : us = [] := by
    rcases List.eq_nil_or_concat us with rfl | ⟨us, v, rfl⟩
    · rfl
    · rw [hwidgets, List.concat_eq_append, ← List.cons_append, ← List.append_assoc,
        List.getLast?_concat, Option.some.injEq] at hlast
      have hid : v.id = w.id := congrArg Widget.id hlast
      have hmem := hfirst'.mem_widgetIds (w := v) (by simp)
      rw [hid] at hmem
      exact absurd hmem hgone
  rw [hfirst'.addWidget_eq hgone, hus, List.append_nil, ← hus, ← hwidgets, hfirst.replaced_back]

theorem deleteTab_of_addNamedTab (hid : id ∉ d.tabIds) (name icon : String) :
    (d.addNamedTab id name icon).deleteTab id = .ok ({ id, name, icon }, d) := by
  rw [(firstTab_addNamedTab hid name icon).deleteTab_eq, List.append_nil]
  rfl

theorem renameTab_of_renameTab {name old : String} (h : d.renameTab id name = .ok (old, d')) :
    ∃ t, d.tab? id = some t ∧ d'.renameTab id t.name = .ok (name, d) := by
  obtain ⟨before, t, after, _, hfirst, hu, rfl⟩ := exists_of_editTab h
  cases hu
  have hfirst' := hfirst.firstTab_replaced (u := { t with name }) hfirst.id_eq
  refine ⟨t, hfirst.tab?_eq, ?_⟩
  rw [hfirst'.renameTab_eq, hfirst.replaced_back]

theorem setTabIcon_of_setTabIcon {icon old : String} (h : d.setTabIcon id icon = .ok (old, d')) :
    ∃ t, d.tab? id = some t ∧ d'.setTabIcon id t.icon = .ok (icon, d) := by
  obtain ⟨before, t, after, _, hfirst, hu, rfl⟩ := exists_of_editTab h
  cases hu
  have hfirst' := hfirst.firstTab_replaced (u := { t with icon }) hfirst.id_eq
  refine ⟨t, hfirst.tab?_eq, ?_⟩
  rw [hfirst'.setTabIcon_eq, hfirst.replaced_back]

namespace InPlace

/-- Every edit but the removal of a tab, and of a widget among others, is taken back by an edit with
what it answered or with what was there before. -/
theorem edits_taken_back (d : Document) :
    (∀ tab w id d', addWidget tab w d = .ok id d' → deleteWidget tab id d' = .ok w d) ∧
    (∀ tab w old d', replaceWidget tab w d = .ok old d' → replaceWidget tab old d' = .ok w d) ∧
    (∀ tab id w d' t, deleteWidget tab id d = .ok w d' → d.tab? tab = some t →
      t.widgets.getLast? = some w → d.widgetIds.count id = 1 → addWidget tab w d' = .ok id d) ∧
    (∀ id, id ∉ d.tabIds →
      (∃ d', addTab id d = .ok id d' ∧
        deleteTab id d' = .ok { id, name := tabNameAt (d.tabs.length + 1), icon := "" } d) ∧
      ∀ name icon, ∃ d', addNamedTab id name icon d = .ok id d' ∧
        deleteTab id d' = .ok { id, name, icon } d) ∧
    (∀ id name d', renameTab id name d = .ok () d' →
      ∃ t, d.tab? id = some t ∧ renameTab id t.name d' = .ok () d) ∧
    (∀ id icon d', setTabIcon id icon d = .ok () d' →
      ∃ t, d.tab? id = some t ∧ setTabIcon id t.icon d' = .ok () d) ∧
    ∀ window, ∃ d', setWindow window d = .ok d.window d' ∧
      setWindow d.window d' = .ok window d := by
  refine ⟨fun tab w i d' h => ?_, fun tab w old d' h => ?_,
    fun tab i w d' t h ht hlast hcount => ?_,
    fun id hid => ⟨⟨_, rfl, ?_⟩, fun name icon => ⟨_, rfl, ?_⟩⟩, fun id name d' h => ?_,
    fun id icon d' h => ?_, fun window => ⟨_, rfl, rfl⟩⟩
  · rw [addWidget_eq, wholly_eq_ok_iff] at h
    rw [deleteWidget_eq, wholly_eq_ok_iff]
    exact deleteWidget_of_addWidget h
  · rw [replaceWidget_eq, wholly_eq_ok_iff] at h
    rw [replaceWidget_eq, wholly_eq_ok_iff]
    exact replaceWidget_of_replaceWidget h
  · rw [deleteWidget_eq, wholly_eq_ok_iff] at h
    rw [addWidget_eq, wholly_eq_ok_iff]
    exact addWidget_of_deleteWidget h ht hlast hcount
  · rw [deleteTab_eq, wholly_eq_ok_iff]
    exact deleteTab_of_addNamedTab hid _ _
  · rw [deleteTab_eq, wholly_eq_ok_iff]
    exact deleteTab_of_addNamedTab hid name icon
  · rw [renameTab_eq, wholly_eq_ok_iff, map_eq_ok_iff] at h
    obtain ⟨_, hrename, hr⟩ := h
    cases hr
    obtain ⟨t, ht, hback⟩ := renameTab_of_renameTab hrename
    refine ⟨t, ht, ?_⟩
    rw [renameTab_eq, wholly_eq_ok_iff, hback]
    rfl
  · rw [setTabIcon_eq, wholly_eq_ok_iff, map_eq_ok_iff] at h
    obtain ⟨_, hicon, hr⟩ := h
    cases hr
    obtain ⟨t, ht, hback⟩ := setTabIcon_of_setTabIcon hicon
    refine ⟨t, ht, ?_⟩
    rw [setTabIcon_eq, wholly_eq_ok_iff, hback]
    rfl

/-- Two pages of one identifier, with a widget each that share another. -/
def twins : Document where
  tabs :=
    [{ id := ⟨"a"⟩, name := "A", widgets := [⟨⟨"x"⟩, "X", .label none⟩, ⟨⟨"y"⟩, "Y", .button ""⟩] },
      { id := ⟨"a"⟩, name := "B", widgets := [⟨⟨"x"⟩, "Z", .label none⟩] }]

theorem edits_taken_back_twins :
    twins.validate ≠ .ok () ∧
      (∃ old d', replaceWidget ⟨"a"⟩ ⟨⟨"x"⟩, "W", .label (some "")⟩ twins = .ok old d' ∧
        replaceWidget ⟨"a"⟩ old d' = .ok ⟨⟨"x"⟩, "W", .label (some "")⟩ twins) ∧
      (∃ w d', deleteWidget ⟨"a"⟩ ⟨"y"⟩ twins = .ok w d' ∧
        addWidget ⟨"a"⟩ w d' = .ok ⟨"y"⟩ twins) ∧
      ∃ d', renameTab ⟨"a"⟩ "C" twins = .ok () d' ∧ renameTab ⟨"a"⟩ "A" d' = .ok () twins := by
  obtain ⟨-, hreplace, hdelete, -, hrename, -, -⟩ := edits_taken_back twins
  obtain ⟨t, ht, hback⟩ := hrename ⟨"a"⟩ "C" _ rfl
  cases ht
  exact ⟨by decide, ⟨_, _, rfl, hreplace _ _ _ _ rfl⟩,
    ⟨_, _, rfl, hdelete _ _ _ _ _ rfl rfl rfl (by decide)⟩, _, rfl, hback⟩

end InPlace

end Document

end ControlPanel
