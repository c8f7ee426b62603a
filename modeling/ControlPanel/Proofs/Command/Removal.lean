import ControlPanel.Proofs.Command.Run
import ControlPanel.Proofs.Project.Loaded

namespace ControlPanel

namespace Document

variable {d : Document} {t : Tab} {w : Widget} {index place : Nat}

/-- The document without the widget at a place of the tab at an index. -/
def withoutWidget (d : Document) (index place : Nat) : Document :=
  { d with tabs := d.tabs.modify index fun t => { t with widgets := t.widgets.eraseIdx place } }

theorem deleteWidget_of_getElem? (hd : d.validate = .ok ()) (ht : d.tabs[index]? = some t)
    (hw : t.widgets[place]? = some w) :
    d.deleteWidget t.id w.id = .ok (w, d.withoutWidget index place) := by
  obtain ⟨htabs, -⟩ := validate_eq_ok_iff.mp hd
  have hfirst := firstTab_of_getElem? htabs.nodup ht
  obtain ⟨hwidgets, hbefore⟩ := split_of_getElem? (hfirst.nodup_widgets hd) hw
  obtain ⟨hindex, rfl⟩ := List.getElem?_eq_some_iff.mp ht
  rw [hfirst.deleteWidget_eq hwidgets hbefore, replaced, withoutWidget,
    List.modify_eq_take_cons_drop hindex, List.eraseIdx_eq_take_drop_succ]

/-- Only the identifier of the widget that goes is gone. -/
theorem id_eq_of_deleteWidget (hd : d.validate = .ok ()) (ht : d.tabs[index]? = some t)
    (hw : t.widgets[place]? = some w) {id : WidgetId} {removed : Widget}
    (hdelete : d.deleteWidget t.id id = .ok (removed, d.withoutWidget index place)) :
    id = w.id := by
  obtain ⟨-, hwidgets⟩ := validate_eq_ok_iff.mp hd
  have hperm := perm_of_deleteWidget (deleteWidget_of_getElem? hd ht hw)
  have hgone : w.id ∉ (d.withoutWidget index place).widgetIds :=
    (List.nodup_cons.mp (hperm.nodup_iff.mp hwidgets.nodup)).1
  obtain ⟨before, u, after, ws, us, -, -, -, hid, -⟩ := exists_of_deleteWidget hdelete
  have hmem : w.id ∈ d.widgetIds := hperm.mem_iff.mpr List.mem_cons_self
  rcases List.mem_cons.mp ((perm_of_deleteWidget hdelete).mem_iff.mp hmem) with h | h
  · rw [← hid, h]
  · exact absurd h hgone

end Document

namespace Command

open FileAccess

variable {σ : Type} [FileAccess (StateM σ)] {path : String} {s s' : σ} {d : Document} {t : Tab}
  {w : Widget} {index place : Nat}

/-- Among the identifiers of a valid document, a command reaches those without white space at their
ends. -/
theorem edit_removeWidget_iff (hd : d.validate = .ok ()) (hindex : index + 1 < 2 ^ 64)
    (ht : d.tabs[index]? = some t) (hw : t.widgets[place]? = some w) :
    (Action.removeWidget (toString (index + 1)) w.id.text).edit d =
      .ok (d.withoutWidget index place) ↔ Text.IsTrimmed w.id.text := by
  obtain ⟨-, hwidgets⟩ := Document.validate_eq_ok_iff.mp hd
  have hdelete := Document.deleteWidget_of_getElem? hd ht hw
  have hmem : w.id ∈ d.widgetIds :=
    (Document.perm_of_deleteWidget hdelete).mem_iff.mpr List.mem_cons_self
  rw [Action.edit, Document.select_toString ht hindex, Outcome.ok_bind, ← Text.trim_eq_self_iff,
    WidgetId.ofText]
  constructor
  · intro h
    split at h
    · cases h
    · rename_i hid
      split at hid
      · cases hid
      · cases hid
        split at h
        · cases h
        · rename_i htrimmed
          cases h
          exact congrArg WidgetId.text (Document.id_eq_of_deleteWidget hd ht hw htrimmed)
  · intro htrim
    rw [htrim, hwidgets.not_blank _ hmem]
    simp only [Bool.false_eq_true, if_false, hdelete]

/-- A command removes any widget of a project by the position of its tab and its identifier, and
leaves all others as they are, exactly if the identifier has no white space at its ends. -/
theorem removeWidget_by_identifier (hpath : Dependable σ path)
    (hload : ProjectFile.load (m := StateM σ) path s = (.ok d, s)) (hindex : index + 1 < 2 ^ 64)
    (ht : d.tabs[index]? = some t) (hw : t.widgets[place]? = some w) :
    (∃ message s', removeWidget (m := StateM σ) path (toString (index + 1)) w.id.text s =
        (.ok message, s') ∧
      ProjectFile.load (m := StateM σ) path s' = (.ok (d.withoutWidget index place), s')) ↔
        Text.IsTrimmed w.id.text := by
  obtain ⟨text, -, htext⟩ := load_eq_ok_iff.mp hload
  have hd := Document.savable_of_load htext
  have hrefines := removeWidget_refines hpath hd hload (toString (index + 1)) w.id.text
  rw [← edit_removeWidget_iff hd.valid hindex ht hw]
  constructor
  · rintro ⟨message, s', hremove, hload'⟩
    cases hedit : (Action.removeWidget (toString (index + 1)) w.id.text).edit d with
    | error e =>
        rw [hrefines.failed e hedit] at hremove
        cases hremove
    | ok d' =>
        obtain ⟨_, s'', hremove', hholds⟩ := hrefines.edited d' hedit
        rw [hremove] at hremove'
        cases hremove'
        rw [hholds.load] at hload'
        cases hload'
        rfl
  · intro hedit
    obtain ⟨message, s', hremove, hholds⟩ := hrefines.edited _ hedit
    exact ⟨message, s', hremove, hholds.load⟩

/-- A project that holds the saved text of a document. -/
def hubOf (d : Document) : Storage where
  entries := [(["projects"], .directory),
    (["projects", "hub.json"], .file (.text d.toJson.pretty))]

theorem load_hubOf (hd : d.Savable) :
    ProjectFile.load (m := StateM Storage) hubPath (hubOf d) = (.ok d, hubOf d) := by
  have hread : Storage.readText (hubOf d) hubPath = .ok d.toJson.pretty := rfl
  refine load_eq_ok_iff.mpr ⟨d.toJson.pretty, ?_, hd.load_pretty⟩
  exact Storage.reads_iff.mpr hread

/-- Three labels, of which the second has the given identifier. -/
def page (id : String) : Tab where
  id := ⟨"b"⟩
  name := "Extra"
  widgets := [⟨⟨"v"⟩, "First", .label none⟩, ⟨⟨id⟩, "Second", .label none⟩,
    ⟨⟨"w"⟩, "Third", .label none⟩]

/-- A document with that page as its second one. -/
def labelled (id : String) : Document where
  tabs := [{ id := ⟨"1"⟩, name := "Main" }, page id]

theorem removeWidget_by_identifier_labelled :
    ∃ message s, removeWidget (m := StateM Storage) hubPath (toString (1 + 1)) "a b"
      (hubOf (labelled "a b")) = (.ok message, s) ∧
      ProjectFile.load (m := StateM Storage) hubPath s =
        (.ok ((labelled "a b").withoutWidget 1 1), s) := by
  have hload := load_hubOf (d := labelled "a b") ⟨by decide +kernel, by decide +kernel⟩
  have htab : (labelled "a b").tabs[1]? = some (page "a b") := rfl
  have hlabel : (page "a b").widgets[1]? = some ⟨⟨"a b"⟩, "Second", .label none⟩ := rfl
  have htrimmed : Text.IsTrimmed "a b" := Text.trim_eq_self_iff.mp (by decide +kernel)
  exact (removeWidget_by_identifier dependable_hubPath hload (by norm_num) htab hlabel).mpr htrimmed

/-- The identifier of one widget, given with the white space in front of it, removes another. -/
theorem removeWidget_spaced_identifier :
    ProjectFile.load (m := StateM Storage) hubPath (hubOf (labelled " w")) =
      (.ok (labelled " w"), hubOf (labelled " w")) ∧
    (labelled " w").tabs[1]? = some (page " w") ∧
    (page " w").widgets[1]? = some ⟨⟨" w"⟩, "Second", .label none⟩ ∧
    (∃ message s, removeWidget (m := StateM Storage) hubPath (toString (1 + 1)) " w"
      (hubOf (labelled " w")) = (.ok message, s) ∧
      ProjectFile.load (m := StateM Storage) hubPath s =
        (.ok ((labelled " w").withoutWidget 1 2), s)) ∧
    (labelled " w").withoutWidget 1 2 ≠ (labelled " w").withoutWidget 1 1 := by
  have hd : (labelled " w").Savable := ⟨by decide +kernel, by decide +kernel⟩
  have hload := load_hubOf hd
  have hrefines := removeWidget_refines dependable_hubPath hd hload (toString (1 + 1)) " w"
  have hedit : (Action.removeWidget (toString (1 + 1)) " w").edit (labelled " w") =
      .ok ((labelled " w").withoutWidget 1 2) := rfl
  obtain ⟨message, s, hremove, hholds⟩ := hrefines.edited _ hedit
  exact ⟨hload, rfl, rfl, ⟨message, s, hremove, hholds.load⟩, by decide +kernel⟩

end Command

end ControlPanel
