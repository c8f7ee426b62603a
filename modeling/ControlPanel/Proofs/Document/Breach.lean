import ControlPanel.Proofs.Document.Identifiers
import ControlPanel.Proofs.Text.Trim

namespace ControlPanel

/-- An identifier of either sort. -/
inductive Identifier where
  | tab (id : TabId)
  | widget (id : WidgetId)
deriving DecidableEq, Repr

namespace Identifier

def text : Identifier → String
  | tab id => id.text
  | widget id => id.text

/-- The identifier is blank, or stands among earlier ones. -/
def IsBreach (earlier : List Identifier) (i : Identifier) : Prop :=
  Text.trim i.text = "" ∨ i ∈ earlier

/-- The identifier is the first in a list that is a breach. -/
def IsFirstBreach (ids : List Identifier) (i : Identifier) : Prop :=
  ∃ earlier later, ids = earlier ++ i :: later ∧ i.IsBreach earlier ∧
    ∀ before j between, earlier = before ++ j :: between → ¬j.IsBreach before

def duplicate : Identifier → DocumentError
  | tab id => .duplicateTabId id
  | widget id => .duplicateWidgetId id

/-- How a breach is reported. -/
def fault (i : Identifier) : DocumentError :=
  if Text.trim i.text = "" then .emptyId else i.duplicate

instance (earlier : List Identifier) (i : Identifier) : Decidable (i.IsBreach earlier) :=
  inferInstanceAs (Decidable (_ ∨ _))

/-- The first breach in a list that comes after other identifiers. -/
def firstBreach? (seen : List Identifier) : List Identifier → Option Identifier
  | [] => none
  | i :: ids => if i.IsBreach seen then some i else firstBreach? (seen ++ [i]) ids

theorem firstBreach?_eq_some_iff {seen ids : List Identifier} {i : Identifier} :
    firstBreach? seen ids = some i ↔
      ∃ earlier later, ids = earlier ++ i :: later ∧ i.IsBreach (seen ++ earlier) ∧
        ∀ before j between, earlier = before ++ j :: between → ¬j.IsBreach (seen ++ before) := by
  induction ids generalizing seen with
  | nil => simp [firstBreach?]
  | cons k ids ih =>
      by_cases hk : k.IsBreach seen
      · rw [firstBreach?, if_pos hk, Option.some.injEq]
        constructor
        · rintro rfl
          exact ⟨[], ids, rfl, by rwa [List.append_nil], by simp⟩
        · rintro ⟨earlier, later, hids, -, hbefore⟩
          cases earlier with
          | nil => exact (List.cons.inj hids).1
          | cons j earlier =>
              obtain ⟨rfl, -⟩ := List.cons.inj hids
              exact absurd hk (by simpa using hbefore [] k earlier rfl)
      · rw [firstBreach?, if_neg hk, ih]
        constructor
        · rintro ⟨earlier, later, rfl, hi, hbefore⟩
          refine ⟨k :: earlier, later, rfl, by simpa using hi, fun before j between hsplit => ?_⟩
          rcases List.cons_eq_append_iff.mp hsplit with ⟨rfl, hj⟩ | ⟨before, rfl, hrest⟩
          · obtain ⟨rfl, -⟩ := List.cons.inj hj
            rwa [List.append_nil]
          · simpa using hbefore before j between hrest
        · rintro ⟨earlier, later, hids, hi, hbefore⟩
          cases earlier with
          | nil =>
              obtain ⟨rfl, -⟩ := List.cons.inj hids
              exact absurd (by simpa using hi) hk
          | cons j earlier =>
              obtain ⟨rfl, rfl⟩ := List.cons.inj hids
              refine ⟨earlier, later, rfl, by simpa using hi, fun before j between hsplit => ?_⟩
              simpa using hbefore (k :: before) j between (by rw [hsplit, List.cons_append])

theorem isFirstBreach_iff {ids : List Identifier} {i : Identifier} :
    IsFirstBreach ids i ↔ firstBreach? [] ids = some i := by
  simp only [firstBreach?_eq_some_iff, IsFirstBreach, List.nil_append]

/-- The verdict on identifiers with at most one breach to report. -/
def verdict : Option Identifier → Except DocumentError Unit
  | none => .ok ()
  | some i => .error i.fault

theorem verdict_eq_error_iff {found : Option Identifier} {e : DocumentError} :
    verdict found = .error e ↔ ∃ i, found = some i ∧ e = i.fault := by
  cases found with
  | none => simp [verdict]
  | some i => simp [verdict, eq_comm]

section

variable {seen : List Identifier} {i : Identifier}

theorem verdict_of_blank (hblank : Text.isBlank i.text = true) (ids : List Identifier) :
    verdict (firstBreach? seen (i :: ids)) = .error .emptyId := by
  have htrim := Text.isBlank_iff_trim.mp hblank
  rw [firstBreach?, if_pos (.inl htrim), verdict, fault, if_pos htrim]

theorem verdict_of_mem (hblank : ¬Text.isBlank i.text = true) (hmem : i ∈ seen)
    (ids : List Identifier) :
    verdict (firstBreach? seen (i :: ids)) = .error i.duplicate := by
  rw [Text.isBlank_iff_trim] at hblank
  rw [firstBreach?, if_pos (.inr hmem), verdict, fault, if_neg hblank]

theorem firstBreach?_of_not_mem (hblank : ¬Text.isBlank i.text = true) (hmem : i ∉ seen)
    (ids : List Identifier) :
    firstBreach? seen (i :: ids) = firstBreach? (seen ++ [i]) ids := by
  rw [Text.isBlank_iff_trim] at hblank
  have hi : ¬i.IsBreach seen := not_or.mpr ⟨hblank, hmem⟩
  rw [firstBreach?, if_neg hi]

end

/-- The identifiers seen of each sort are those in one list. -/
structure Sorts (seen : List Identifier) (tabs : List TabId) (widgets : List WidgetId) : Prop where
  tab_mem_iff : ∀ id, tab id ∈ seen ↔ id ∈ tabs
  widget_mem_iff : ∀ id, widget id ∈ seen ↔ id ∈ widgets

variable {seen : List Identifier} {tabs : List TabId} {widgets : List WidgetId}

theorem sorts_nil : Sorts [] [] [] where
  tab_mem_iff := by simp
  widget_mem_iff := by simp

theorem Sorts.addTab (h : Sorts seen tabs widgets) (id : TabId) :
    Sorts (seen ++ [tab id]) (id :: tabs) widgets where
  tab_mem_iff i := by
    rw [List.mem_append, List.mem_singleton, tab.injEq, h.tab_mem_iff, List.mem_cons, or_comm]
  widget_mem_iff i := by
    rw [← h.widget_mem_iff]
    simp

theorem Sorts.addWidget (h : Sorts seen tabs widgets) (id : WidgetId) :
    Sorts (seen ++ [widget id]) tabs (id :: widgets) where
  tab_mem_iff i := by
    rw [← h.tab_mem_iff]
    simp
  widget_mem_iff i := by
    rw [List.mem_append, List.mem_singleton, widget.injEq, h.widget_mem_iff, List.mem_cons, or_comm]

end Identifier

/-- The identifier of a tab and those of its widgets. -/
def Tab.identifiers (t : Tab) : List Identifier :=
  .tab t.id :: t.widgets.map fun w => .widget w.id

namespace Document

open Identifier

/-- All identifiers: that of a tab, those of its widgets, then those of the next tab. -/
def identifiers (d : Document) : List Identifier :=
  d.tabs.flatMap Tab.identifiers

variable {seen : List Identifier} {seenTabs : List TabId} {seenWidgets : List WidgetId}

/-- Widgets are checked one by one before what comes after them. -/
theorem checkWidgets_bind_eq {ws : List Widget} {rest : List Identifier}
    {check : List WidgetId → Except DocumentError Unit} (h : Sorts seen seenTabs seenWidgets)
    (hcheck : ∀ {seen : List Identifier} {seenWidgets : List WidgetId},
      Sorts seen seenTabs seenWidgets → check seenWidgets = verdict (firstBreach? seen rest)) :
    (checkWidgets seenWidgets ws >>= check) =
      verdict (firstBreach? seen ((ws.map fun w => .widget w.id) ++ rest)) := by
  induction ws generalizing seen seenWidgets with
  | nil => exact hcheck h
  | cons w ws ih =>
      rw [checkWidgets, List.map_cons, List.cons_append]
      by_cases hblank : Text.isBlank w.id.text = true
      · rw [if_pos hblank, verdict_of_blank (i := .widget w.id) hblank]
        rfl
      · rw [if_neg hblank]
        by_cases hseen : w.id ∈ seenWidgets
        · have hmem := (h.widget_mem_iff w.id).mpr hseen
          rw [if_pos hseen, verdict_of_mem (i := .widget w.id) hblank hmem]
          rfl
        · have hmem := mt (h.widget_mem_iff w.id).mp hseen
          rw [if_neg hseen, firstBreach?_of_not_mem (i := .widget w.id) hblank hmem]
          exact ih (h.addWidget w.id)

theorem checkTabs_eq {ts : List Tab} (h : Sorts seen seenTabs seenWidgets) :
    checkTabs seenTabs seenWidgets ts =
      verdict (firstBreach? seen (ts.flatMap Tab.identifiers)) := by
  induction ts generalizing seen seenTabs seenWidgets with
  | nil => rfl
  | cons t ts ih =>
      rw [checkTabs, List.flatMap_cons, Tab.identifiers, List.cons_append]
      by_cases hblank : Text.isBlank t.id.text = true
      · rw [if_pos hblank, verdict_of_blank (i := .tab t.id) hblank]
      · rw [if_neg hblank]
        by_cases hseen : t.id ∈ seenTabs
        · have hmem := (h.tab_mem_iff t.id).mpr hseen
          rw [if_pos hseen, verdict_of_mem (i := .tab t.id) hblank hmem]
          rfl
        · have hmem := mt (h.tab_mem_iff t.id).mp hseen
          rw [if_neg hseen, firstBreach?_of_not_mem (i := .tab t.id) hblank hmem]
          exact checkWidgets_bind_eq (h.addTab t.id) ih

theorem validate_eq_verdict (d : Document) :
    d.validate = verdict (firstBreach? [] d.identifiers) :=
  checkTabs_eq sorts_nil

/-- A document is accepted exactly if no identifier is blank and, in each sort, none comes twice;
otherwise the first breach in document order is reported. -/
theorem validate_reports_first_breach (d : Document) :
    (d.validate = .ok () ↔
      (∀ id ∈ d.tabIds, Text.trim id.text ≠ "") ∧ (∀ id ∈ d.widgetIds, Text.trim id.text ≠ "") ∧
        d.tabIds.Nodup ∧ d.widgetIds.Nodup) ∧
      ∀ e, d.validate = .error e ↔ ∃ i, IsFirstBreach d.identifiers i ∧ e = i.fault := by
  have hblank : ∀ s : String, Text.isBlank s = false ↔ Text.trim s ≠ "" := by
    intro s
    rw [← Bool.not_eq_true, Text.isBlank_iff_trim]
  constructor
  · rw [validate_eq_ok_iff]
    constructor
    · rintro ⟨htabs, hwidgets⟩
      exact ⟨fun id hid => (hblank _).mp (htabs.not_blank id hid),
        fun id hid => (hblank _).mp (hwidgets.not_blank id hid), htabs.nodup, hwidgets.nodup⟩
    · rintro ⟨htabs, hwidgets, htabsNodup, hwidgetsNodup⟩
      exact ⟨⟨fun id hid => (hblank _).mpr (htabs id hid), htabsNodup, by simp⟩,
        ⟨fun id hid => (hblank _).mpr (hwidgets id hid), hwidgetsNodup, by simp⟩⟩
  · intro e
    rw [validate_eq_verdict, verdict_eq_error_iff]
    simp only [isFirstBreach_iff]

/-- A widget may have the identifier of its tab, but not that of a widget on an earlier tab. The tab
that comes twice stands behind it and is not reported. -/
example :
    validate { tabs := [{ id := ⟨"a"⟩, name := "", widgets := [⟨⟨"a"⟩, "", .label none⟩] },
      { id := ⟨"b"⟩, name := "", widgets := [⟨⟨"a"⟩, "", .label none⟩] },
      { id := ⟨"b"⟩, name := "" }] } = .error (.duplicateWidgetId ⟨"a"⟩) := by
  decide

end Document

end ControlPanel
