import ControlPanel.Document.InPlace
import ControlPanel.Proofs.Document.Edit

namespace ControlPanel

open Outcome

namespace Document

section Lists

variable {α : Type} {p : α → Bool} {l before after : List α} {a b : α}

theorem find?_zipIdx_of_none (h : ∀ a ∈ l, ¬p a = true) :
    (l.zipIdx.find? fun b => p b.1) = none := by
  rw [List.find?_eq_none]
  intro b hb
  exact h b.1 (List.fst_mem_of_mem_zipIdx hb)

theorem find?_zipIdx_of_first (hbefore : ∀ b ∈ before, ¬p b = true) (ha : p a = true) :
    ((before ++ a :: after).zipIdx.find? fun b => p b.1) = some (a, before.length) := by
  rw [List.zipIdx_append, List.find?_append, find?_zipIdx_of_none hbefore, Option.none_or,
    List.zipIdx_cons, Nat.zero_add]
  exact List.find?_cons_of_pos ha

theorem set_of_eq (hl : l = before ++ a :: after) :
    l.set before.length b = before ++ b :: after := by
  rw [hl, List.set_append_right _ _ (Nat.le_refl _), Nat.sub_self, List.set_cons_zero]

theorem eraseIdx_of_eq (hl : l = before ++ a :: after) :
    l.eraseIdx before.length = before ++ after := by
  rw [hl, List.eraseIdx_append_of_length_le (Nat.le_refl _), Nat.sub_self,
    List.eraseIdx_cons_zero]

end Lists

namespace InPlace

variable {d : Document} {id : TabId} {before after : List Tab} {t : Tab}

theorem findTab_of_not_mem (h : id ∉ d.tabIds) : findTab id d = .error (.unknownTab id) d := by
  rw [findTab, bind_of_ok (get_eq d), find?_zipIdx_of_none (not_beq_of_not_mem h)]
  rfl

theorem findTab_of_first (h : d.FirstTab id before t after) :
    findTab id d = .ok (t, before.length) d := by
  rw [findTab, bind_of_ok (get_eq d), h.tabs_eq,
    find?_zipIdx_of_first h.not_beq (beq_of_eq h.id_eq)]
  rfl

theorem putTab_of_first (h : d.FirstTab id before t after) (u : Tab) :
    putTab before.length u d = .ok () (d.replaced before u after) := by
  change EStateM.Result.ok () { d with tabs := d.tabs.set before.length u } = _
  rw [set_of_eq h.tabs_eq]
  rfl

/-- An edit of the first tab with an identifier, if it changes nothing before it puts the edited tab
in its place. -/
theorem findTab_bind_eq {α : Type} {k : Tab × Nat → InPlace α}
    {f : Tab → Except DocumentError (α × Tab)}
    (hk : ∀ {before after : List Tab} {t : Tab}, d.FirstTab id before t after →
      k (t, before.length) d =
        wholly d ((f t).map fun r => (r.1, d.replaced before r.2 after))) :
    (findTab id >>= k) d = wholly d (d.editTab id f) := by
  by_cases hid : id ∈ d.tabIds
  · obtain ⟨before, t, after, hfirst⟩ := exists_firstTab hid
    rw [bind_of_ok (findTab_of_first hfirst), hk hfirst, hfirst.editTab_eq]
  · rw [bind_of_error (findTab_of_not_mem hid), editTab_of_not_mem hid]
    rfl

/-- A change of a tab that is never refused; as a whole it also gives what was there before. -/
theorem findTab_putTab_eq {β : Type} (change : Tab → Tab) (old : Tab → β) (d : Document) :
    (findTab id >>= fun r => putTab r.2 (change r.1)) d =
      wholly d ((d.editTab id fun t => .ok (old t, change t)).map fun r => ((), r.2)) := by
  by_cases hid : id ∈ d.tabIds
  · obtain ⟨before, t, after, hfirst⟩ := exists_firstTab hid
    rw [bind_of_ok (findTab_of_first hfirst), hfirst.editTab_eq]
    exact putTab_of_first hfirst _
  · rw [bind_of_error (findTab_of_not_mem hid), editTab_of_not_mem hid]
    rfl

theorem renameTab_eq (id : TabId) (name : String) (d : Document) :
    renameTab id name d = wholly d ((d.renameTab id name).map fun r => ((), r.2)) :=
  findTab_putTab_eq (fun t => { t with name }) Tab.name d

theorem setTabIcon_eq (id : TabId) (icon : String) (d : Document) :
    setTabIcon id icon d = wholly d ((d.setTabIcon id icon).map fun r => ((), r.2)) :=
  findTab_putTab_eq (fun t => { t with icon }) Tab.icon d

theorem deleteTab_eq (id : TabId) (d : Document) :
    deleteTab id d = wholly d (d.deleteTab id) := by
  by_cases hid : id ∈ d.tabIds
  · obtain ⟨before, t, after, hfirst⟩ := exists_firstTab hid
    rw [deleteTab, bind_of_ok (findTab_of_first hfirst), hfirst.deleteTab_eq,
      ← eraseIdx_of_eq hfirst.tabs_eq]
    rfl
  · rw [deleteTab, bind_of_error (findTab_of_not_mem hid), deleteTab_of_not_mem hid]
    rfl

theorem addWidget_eq (tab : TabId) (w : Widget) (d : Document) :
    addWidget tab w d = wholly d (d.addWidget tab w) := by
  rw [addWidget, bind_of_ok (get_eq d), Document.addWidget]
  split_ifs
  · rfl
  · exact findTab_bind_eq fun hfirst => bind_of_ok (putTab_of_first hfirst _)

theorem findWidget_of_none {w : WidgetId} (hnone : ∀ v ∈ t.widgets, ¬(v.id == w) = true)
    (tab : TabId) (d : Document) : findWidget tab t w d = .error (.unknownWidget tab w) d := by
  rw [findWidget, find?_zipIdx_of_none hnone]
  rfl

theorem findWidget_of_first {w : WidgetId} {vs us : List Widget} {v : Widget}
    (hwidgets : t.widgets = vs ++ v :: us) (hvs : ∀ u ∈ vs, ¬(u.id == w) = true)
    (hv : (v.id == w) = true) (tab : TabId) (d : Document) :
    findWidget tab t w d = .ok (v, vs.length) d := by
  rw [findWidget, hwidgets, find?_zipIdx_of_first hvs hv]
  rfl

theorem replaceWidget_eq (tab : TabId) (w : Widget) (d : Document) :
    replaceWidget tab w d = wholly d (d.replaceWidget tab w) := by
  refine findTab_bind_eq fun {before after t} hfirst => ?_
  dsimp only
  rcases none_or_first (fun v => v.id == w.id) t.widgets with hnone | ⟨vs, v, us, hws, hvs, hv⟩
  · rw [editFirst_of_none hnone, bind_of_error (findWidget_of_none hnone tab d)]
    rfl
  · rw [hws, editFirst_of_first hvs hv, ← hws, bind_of_ok (findWidget_of_first hws hvs hv tab d),
      set_of_eq hws]
    by_cases hkind : v.kind = w.kind
    · rw [if_pos hkind]
      simp only [hkind, ne_eq, not_true_eq_false, if_false]
      exact bind_of_ok (putTab_of_first hfirst _)
    · rw [if_neg hkind]
      simp only [hkind, ne_eq, not_false_eq_true, if_true]
      rfl

theorem deleteWidget_eq (tab : TabId) (w : WidgetId) (d : Document) :
    deleteWidget tab w d = wholly d (d.deleteWidget tab w) := by
  refine findTab_bind_eq fun {before after t} hfirst => ?_
  dsimp only
  rcases none_or_first (fun v => v.id == w) t.widgets with hnone | ⟨vs, v, us, hws, hvs, hv⟩
  · rw [removeFirst_of_none hnone, bind_of_error (findWidget_of_none hnone tab d)]
    rfl
  · rw [bind_of_ok (findWidget_of_first hws hvs hv tab d), hws, removeFirst_of_first hvs hv, ← hws,
      eraseIdx_of_eq hws]
    exact bind_of_ok (putTab_of_first hfirst _)

theorem addNamedTab_eq (id : TabId) (name icon : String) (d : Document) :
    addNamedTab id name icon d = wholly d (.ok (id, d.addNamedTab id name icon)) :=
  rfl

theorem addTab_eq (id : TabId) (d : Document) : addTab id d = wholly d (.ok (id, d.addTab id)) :=
  rfl

theorem setWindow_eq (window : Window) (d : Document) :
    setWindow window d = wholly d (.ok (d.setWindow window)) :=
  rfl

end InPlace

end Document

end ControlPanel
