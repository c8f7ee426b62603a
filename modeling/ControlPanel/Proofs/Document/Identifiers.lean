import ControlPanel.Document.Valid
import ControlPanel.Proofs.Outcome

namespace ControlPanel

/-- The identifiers can be added to those seen before: they are not blank, and differ from those and
from each other. -/
structure Admissible {ι : Type} (text : ι → String) (seen ids : List ι) : Prop where
  not_blank : ∀ id ∈ ids, Text.isBlank (text id) = false
  nodup : ids.Nodup
  not_seen : ∀ id ∈ ids, id ∉ seen

section Admissible

variable {ι : Type} {text : ι → String} {seen ids ids' : List ι} {id : ι}

@[simp] theorem admissible_nil : Admissible text seen [] where
  not_blank := by simp
  nodup := List.nodup_nil
  not_seen := by simp

theorem admissible_cons :
    Admissible text seen (id :: ids) ↔
      Text.isBlank (text id) = false ∧ id ∉ seen ∧ Admissible text (id :: seen) ids := by
  constructor
  · rintro ⟨hblank, hnodup, hseen⟩
    rw [List.forall_mem_cons] at hblank hseen
    rw [List.nodup_cons] at hnodup
    refine ⟨hblank.1, hseen.1, hblank.2, hnodup.2, fun i hi => ?_⟩
    rw [List.mem_cons, not_or]
    exact ⟨fun h => hnodup.1 (h ▸ hi), hseen.2 i hi⟩
  · rintro ⟨hblank, hseen, h⟩
    refine ⟨List.forall_mem_cons.mpr ⟨hblank, h.not_blank⟩, List.nodup_cons.mpr ⟨fun hid => ?_,
      h.nodup⟩, List.forall_mem_cons.mpr ⟨hseen, fun i hi hmem => ?_⟩⟩
    · exact h.not_seen id hid List.mem_cons_self
    · exact h.not_seen i hi (List.mem_cons_of_mem id hmem)

theorem admissible_append :
    Admissible text seen (ids ++ ids') ↔
      Admissible text seen ids ∧ Admissible text (ids.reverse ++ seen) ids' := by
  induction ids generalizing seen with
  | nil => simp
  | cons id ids ih =>
      rw [List.cons_append, admissible_cons, ih, admissible_cons, List.reverse_cons,
        List.append_assoc]
      tauto

theorem Admissible.sublist (h : Admissible text seen ids) (hsub : ids'.Sublist ids) :
    Admissible text seen ids' where
  not_blank i hi := h.not_blank i (hsub.mem hi)
  nodup := h.nodup.sublist hsub
  not_seen i hi := h.not_seen i (hsub.mem hi)

theorem Admissible.perm (h : Admissible text seen ids) (hperm : ids.Perm ids') :
    Admissible text seen ids' where
  not_blank i hi := h.not_blank i (hperm.mem_iff.mpr hi)
  nodup := hperm.nodup_iff.mp h.nodup
  not_seen i hi := h.not_seen i (hperm.mem_iff.mpr hi)

theorem Admissible.cons (h : Admissible text [] ids) (hblank : Text.isBlank (text id) = false)
    (hid : id ∉ ids) : Admissible text [] (id :: ids) where
  not_blank := List.forall_mem_cons.mpr ⟨hblank, h.not_blank⟩
  nodup := List.nodup_cons.mpr ⟨hid, h.nodup⟩
  not_seen := by simp

end Admissible

namespace Document

def tabIds (d : Document) : List TabId :=
  d.tabs.map Tab.id

/-- The identifiers of all widgets, tab by tab. -/
def widgetIds (d : Document) : List WidgetId :=
  d.widgets.map Widget.id

theorem mem_widgetIds_iff {d : Document} {id : WidgetId} :
    id ∈ d.widgetIds ↔ ∃ t ∈ d.tabs, ∃ w ∈ t.widgets, w.id = id := by
  simp only [widgetIds, widgets, List.mem_map, List.mem_flatMap]
  constructor
  · rintro ⟨w, ⟨t, ht, hw⟩, hid⟩
    exact ⟨t, ht, w, hw, hid⟩
  · rintro ⟨t, ht, w, hw, hid⟩
    exact ⟨w, ⟨t, ht, hw⟩, hid⟩

theorem checkWidgets_eq_ok_iff {seen seen' : List WidgetId} {ws : List Widget} :
    checkWidgets seen ws = .ok seen' ↔
      Admissible WidgetId.text seen (ws.map Widget.id) ∧
        seen' = (ws.map Widget.id).reverse ++ seen := by
  induction ws generalizing seen with
  | nil =>
      rw [checkWidgets, Except.ok.injEq]
      simp [eq_comm]
  | cons w ws ih =>
      rw [checkWidgets, List.map_cons, admissible_cons, List.reverse_cons, List.append_assoc]
      cases hblank : Text.isBlank w.id.text with
      | true => simp
      | false =>
          by_cases hseen : w.id ∈ seen
          · simp [hseen]
          · simp [hseen, ih]

theorem checkTabs_eq_ok_iff {seenTabs : List TabId} {seenWidgets : List WidgetId}
    {ts : List Tab} :
    checkTabs seenTabs seenWidgets ts = .ok () ↔
      Admissible TabId.text seenTabs (ts.map Tab.id) ∧
        Admissible WidgetId.text seenWidgets ((ts.flatMap Tab.widgets).map Widget.id) := by
  induction ts generalizing seenTabs seenWidgets with
  | nil => simp [checkTabs]
  | cons t ts ih =>
      rw [checkTabs, List.map_cons, admissible_cons, List.flatMap_cons, List.map_append,
        admissible_append]
      cases hblank : Text.isBlank t.id.text with
      | true => simp
      | false =>
          by_cases hseen : t.id ∈ seenTabs
          · simp [hseen]
          · simp only [Bool.false_eq_true, if_false, if_neg hseen, Outcome.bind_eq_ok_iff,
              checkWidgets_eq_ok_iff, ih]
            constructor
            · rintro ⟨seen, ⟨hwidgets, rfl⟩, htabs, hrest⟩
              exact ⟨⟨trivial, hseen, htabs⟩, hwidgets, hrest⟩
            · rintro ⟨⟨-, -, htabs⟩, hwidgets, hrest⟩
              exact ⟨_, ⟨hwidgets, rfl⟩, htabs, hrest⟩

/-- A document is valid exactly if its identifiers are in order. -/
theorem validate_eq_ok_iff {d : Document} :
    d.validate = .ok () ↔
      Admissible TabId.text [] d.tabIds ∧ Admissible WidgetId.text [] d.widgetIds :=
  checkTabs_eq_ok_iff

end Document

end ControlPanel
