import ControlPanel.Proofs.Document.Edit

namespace ControlPanel.Document

/-- The document is valid and all of its widgets are good. -/
structure ValidWith (good : Widget → Prop) (d : Document) : Prop where
  valid : d.validate = .ok ()
  good : ∀ w ∈ d.widgets, good w

/-- The identifier can be given to a new tab. -/
def IsFreshTab (d : Document) (id : TabId) : Prop :=
  Text.isBlank id.text = false ∧ id ∉ d.tabIds

/-- The identifier can be given to a new widget. -/
def IsFreshWidget (d : Document) (id : WidgetId) : Prop :=
  Text.isBlank id.text = false ∧ id ∉ d.widgetIds

variable {good : Widget → Prop} {d d' : Document} {id : TabId}

theorem validWith_empty : ValidWith good {} where
  valid := rfl
  good := by simp [widgets]

theorem ValidWith.of_sublist (h : d.ValidWith good) (htabs : d'.tabIds.Sublist d.tabIds)
    (hwidgets : d'.widgets.Sublist d.widgets) : d'.ValidWith good where
  valid := by
    obtain ⟨htabIds, hwidgetIds⟩ := validate_eq_ok_iff.mp h.valid
    exact validate_eq_ok_iff.mpr ⟨htabIds.sublist htabs,
      hwidgetIds.sublist (hwidgets.map Widget.id)⟩
  good w hw := h.good w (hwidgets.mem hw)

theorem ValidWith.addNamedTab (h : d.ValidWith good) (hid : d.IsFreshTab id) (name icon : String) :
    (d.addNamedTab id name icon).ValidWith good := by
  have htabs : (id :: d.tabIds).Perm (d.addNamedTab id name icon).tabIds := by
    rw [tabIds, Document.addNamedTab, tabIds, List.map_append]
    exact (List.perm_append_singleton id _).symm
  have hwidgets : (d.addNamedTab id name icon).widgets = d.widgets := by
    simp [widgets, Document.addNamedTab]
  obtain ⟨htabIds, hwidgetIds⟩ := validate_eq_ok_iff.mp h.valid
  refine ⟨validate_eq_ok_iff.mpr ⟨(htabIds.cons hid.1 hid.2).perm htabs, ?_⟩, ?_⟩
  · rw [widgetIds, hwidgets]
    exact hwidgetIds
  · rw [hwidgets]
    exact h.good

theorem ValidWith.addTab (h : d.ValidWith good) (hid : d.IsFreshTab id) :
    (d.addTab id).ValidWith good :=
  h.addNamedTab hid _ _

section

variable {before after : List Tab} {t u : Tab}

/-- A tab may take the place of another with its identifier, if all its widgets were there. -/
theorem ValidWith.replaced (h : d.ValidWith good) (hfirst : d.FirstTab id before t after)
    (hid : u.id = t.id) (hwidgets : u.widgets.Sublist t.widgets) :
    (d.replaced before u after).ValidWith good := by
  refine h.of_sublist ?_ ?_
  · rw [tabIds_replaced, hfirst.tabIds_eq, hid, hfirst.id_eq]
  · rw [widgets_replaced, hfirst.widgets_eq]
    exact (hwidgets.append_right _).append_left _

theorem ValidWith.of_renameTab (h : d.ValidWith good) {name old : String}
    (hrename : d.renameTab id name = .ok (old, d')) : d'.ValidWith good := by
  obtain ⟨before, t, after, u, hfirst, hu, rfl⟩ := exists_of_editTab hrename
  cases hu
  exact h.replaced hfirst rfl (List.Sublist.refl _)

theorem ValidWith.of_setTabIcon (h : d.ValidWith good) {icon old : String}
    (hicon : d.setTabIcon id icon = .ok (old, d')) : d'.ValidWith good := by
  obtain ⟨before, t, after, u, hfirst, hu, rfl⟩ := exists_of_editTab hicon
  cases hu
  exact h.replaced hfirst rfl (List.Sublist.refl _)

theorem ValidWith.of_deleteWidget (h : d.ValidWith good) {w : WidgetId} {removed : Widget}
    (hdelete : d.deleteWidget id w = .ok (removed, d')) : d'.ValidWith good := by
  obtain ⟨before, t, after, ws, us, hfirst, hwidgets, -, -, rfl⟩ := exists_of_deleteWidget hdelete
  refine h.replaced hfirst rfl ?_
  rw [hwidgets]
  exact (List.sublist_cons_self removed us).append_left ws

theorem ValidWith.of_deleteTab (h : d.ValidWith good) (hdelete : d.deleteTab id = .ok (t, d')) :
    d'.ValidWith good := by
  obtain ⟨before, after, hfirst, rfl⟩ := exists_of_deleteTab hdelete
  have hsub : (before ++ after).Sublist d.tabs := by
    rw [hfirst.tabs_eq]
    exact (List.sublist_cons_self t after).append_left before
  exact h.of_sublist (hsub.map Tab.id) (hsub.flatMap Tab.widgets)

theorem ValidWith.of_addWidget (h : d.ValidWith good) {w : Widget} {i : WidgetId}
    (hblank : Text.isBlank w.id.text = false) (hw : good w)
    (hadd : d.addWidget id w = .ok (i, d')) : d'.ValidWith good := by
  obtain ⟨hid, before, t, after, hfirst, rfl⟩ := exists_of_addWidget hadd
  have htabs : (d.replaced before { t with widgets := t.widgets ++ [w] } after).tabIds =
      d.tabIds := by
    rw [tabIds_replaced, hfirst.tabIds_eq, hfirst.id_eq]
  -- The new widget stands among the others, whose order does not matter.
  have hwidgets := perm_of_addWidget hadd
  obtain ⟨htabIds, hwidgetIds⟩ := validate_eq_ok_iff.mp h.valid
  refine ⟨validate_eq_ok_iff.mpr ⟨?_, ?_⟩, fun v hv => ?_⟩
  · rw [htabs]
    exact htabIds
  · exact (hwidgetIds.cons hblank hid).perm (hwidgets.map Widget.id)
  · rcases List.mem_cons.mp (hwidgets.mem_iff.mpr hv) with rfl | hv
    · exact hw
    · exact h.good v hv

theorem ValidWith.of_replaceWidget (h : d.ValidWith good) {w old : Widget} (hw : good w)
    (hreplace : d.replaceWidget id w = .ok (old, d')) : d'.ValidWith good := by
  obtain ⟨before, t, after, ws, us, hfirst, hwidgets, -, hid, -, rfl⟩ :=
    exists_of_replaceWidget hreplace
  have htabs : (d.replaced before { t with widgets := ws ++ w :: us } after).tabIds =
      d.tabIds := by
    rw [tabIds_replaced, hfirst.tabIds_eq, hfirst.id_eq]
  -- The widget has the identifier of the one that it replaces.
  have hids : (d.replaced before { t with widgets := ws ++ w :: us } after).widgetIds =
      d.widgetIds := by
    rw [widgetIds, widgets_replaced, widgetIds, hfirst.widgets_eq, hwidgets]
    simp [hid]
  refine ⟨?_, fun v hv => ?_⟩
  · rw [validate_eq_ok_iff, htabs, hids, ← validate_eq_ok_iff]
    exact h.valid
  · have hold := h.good v
    rw [widgets_replaced] at hv
    rw [hfirst.widgets_eq, hwidgets] at hold
    simp only [List.mem_append, List.mem_cons] at hv hold
    rcases hv with hv | (hv | rfl | hv) | hv
    · exact hold (.inl hv)
    · exact hold (.inr (.inl (.inl hv)))
    · exact hw
    · exact hold (.inr (.inl (.inr (.inr hv))))
    · exact hold (.inr (.inr hv))

end

end ControlPanel.Document
