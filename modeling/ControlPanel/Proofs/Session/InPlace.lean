import ControlPanel.Proofs.Document.Run
import ControlPanel.Proofs.Session.Run
import ControlPanel.Session.InPlace

namespace ControlPanel.Session

open Outcome

namespace InPlace

variable {α : Type}

theorem onDocument_of_wholly {x : Document.InPlace α} {s : Session}
    {r : Except DocumentError (α × Document)} (h : x s.document = wholly s.document r) :
    onDocument x s = wholly s
      ((r.mapError SessionError.document).map fun p => (p.1, { s with document := p.2 })) := by
  rw [onDocument, h]
  cases r <;> rfl

theorem allOrNothing_onDocument {x : Document.InPlace α} (h : AllOrNothing x) :
    AllOrNothing (onDocument x) := by
  intro s
  obtain ⟨r, hr⟩ := h s.document
  exact ⟨_, onDocument_of_wholly hr⟩

theorem selectTab_eq (id : TabId) (s : Session) :
    selectTab id s = wholly s ((s.selectTab id).map fun s' => ((), s')) := by
  rw [selectTab, bind_of_ok (get_eq s), Session.selectTab]
  cases s.document.tab? id <;> rfl

theorem addTab_eq (id : TabId) (s : Session) : addTab id s = wholly s (.ok (id, s.addTab id)) :=
  rfl

theorem deleteTab_eq (id : TabId) (s : Session) : deleteTab id s = wholly s (s.deleteTab id) := by
  have hdelete := onDocument_of_wholly (s := s) (Document.InPlace.deleteTab_eq id s.document)
  rw [Session.deleteTab]
  cases hr : s.document.deleteTab id with
  | error e =>
      rw [hr] at hdelete
      exact bind_of_error hdelete
  | ok r =>
      rw [hr] at hdelete
      exact bind_of_ok hdelete

theorem pushWidget_eq (w : Widget) (s : Session) :
    pushWidget w s = wholly s (s.pushWidget w) := by
  rw [pushWidget, bind_of_ok (get_eq s), Session.pushWidget]
  cases s.activeTab? with
  | none => rfl
  | some t =>
      have hadd := onDocument_of_wholly (s := s) (Document.InPlace.addWidget_eq t.id w s.document)
      dsimp only
      rw [hadd]
      cases s.document.addWidget t.id w <;> rfl

theorem loadText_eq (text : String) (s : Session) :
    loadText text s = wholly s ((Session.loadText text).map fun s' => ((), s')) := by
  rw [loadText, Session.loadText]
  cases Document.load text <;> rfl

theorem saveText_eq (s : Session) :
    saveText s = wholly s (s.saveText.map fun text => (text, s)) := by
  rw [saveText, bind_of_ok (get_eq s), Session.saveText]
  cases s.document.save <;> rfl

theorem compile_eq (options : ScriptOptions) (s : Session) :
    compile options s = wholly s ((s.compile options).map fun script => (script, s)) := by
  rw [compile, bind_of_ok (get_eq s), Session.compile]
  cases s.document.compile options <;> rfl

end InPlace

/-- An operation of a session, or an edit of its document behind its back. -/
inductive Operation where
  | session (a : Action)
  | document (e : Document.Edit)

/-- What an operation of a session does to it while it is open. -/
def Action.act : Action → InPlace Reply
  | .addTab id => .tabId <$> InPlace.addTab id
  | .selectTab id => (fun _ => .done) <$> InPlace.selectTab id
  | .deleteTab id => .tab <$> InPlace.deleteTab id
  | .addWidget id kind => .widgetId <$> InPlace.addWidget id kind
  | .addNamedWidget id kind name => .widgetId <$> InPlace.addNamedWidget id kind name
  | .addPreset id preset => .widgetId <$> InPlace.addPreset id preset
  | .loadText text => (fun _ => .done) <$> InPlace.loadText text
  | .saveText => .text <$> InPlace.saveText
  | .compile options => .text <$> InPlace.compile options

def Operation.act : Operation → InPlace Reply
  | .session a => a.act
  | .document e => InPlace.onDocument e.act

theorem Action.allOrNothing_act (a : Action) : AllOrNothing a.act := by
  cases a with
  | addTab id => exact AllOrNothing.map (fun s => ⟨_, InPlace.addTab_eq id s⟩) _
  | selectTab id => exact AllOrNothing.map (fun s => ⟨_, InPlace.selectTab_eq id s⟩) _
  | deleteTab id => exact AllOrNothing.map (fun s => ⟨_, InPlace.deleteTab_eq id s⟩) _
  | addWidget id kind => exact AllOrNothing.map (fun s => ⟨_, InPlace.pushWidget_eq _ s⟩) _
  | addNamedWidget id kind name =>
      exact AllOrNothing.map (fun s => ⟨_, InPlace.pushWidget_eq _ s⟩) _
  | addPreset id preset => exact AllOrNothing.map (fun s => ⟨_, InPlace.pushWidget_eq _ s⟩) _
  | loadText text => exact AllOrNothing.map (fun s => ⟨_, InPlace.loadText_eq text s⟩) _
  | saveText => exact AllOrNothing.map (fun s => ⟨_, InPlace.saveText_eq s⟩) _
  | compile options => exact AllOrNothing.map (fun s => ⟨_, InPlace.compile_eq options s⟩) _

theorem Operation.allOrNothing_act (o : Operation) : AllOrNothing o.act := by
  cases o with
  | session a => exact a.allOrNothing_act
  | document e => exact InPlace.allOrNothing_onDocument e.allOrNothing_act

/-- What operations give that are done one after another, and the session that they leave. -/
def run (s : Session) : List Operation → List (Except SessionError Reply) × Session
  | [] => ([], s)
  | o :: os =>
    let rest := run (left (o.act s)) os
    (answer (o.act s) :: rest.1, rest.2)

/-- The operations of a run that are not refused in it. -/
def accepted (s : Session) (os : List Operation) : List Operation :=
  ((os.zip (s.run os).1).filter fun o => o.2.isOk).map Prod.fst

theorem run_cons_of_ok {s s' : Session} {o : Operation} {r : Reply} (h : o.act s = .ok r s')
    (os : List Operation) : s.run (o :: os) = (.ok r :: (s'.run os).1, (s'.run os).2) := by
  rw [run, h]
  rfl

theorem accepted_cons_of_ok {s s' : Session} {o : Operation} {r : Reply} (h : o.act s = .ok r s')
    (os : List Operation) : s.accepted (o :: os) = o :: s'.accepted os := by
  rw [accepted, run_cons_of_ok h]
  rfl

theorem run_cons_of_error {s s' : Session} {o : Operation} {e : SessionError}
    (h : o.act s = .error e s') (os : List Operation) :
    s.run (o :: os) = (.error e :: (s'.run os).1, (s'.run os).2) := by
  rw [run, h]
  rfl

theorem accepted_cons_of_error {s s' : Session} {o : Operation} {e : SessionError}
    (h : o.act s = .error e s') (os : List Operation) :
    s.accepted (o :: os) = s'.accepted os := by
  rw [accepted, run_cons_of_error h]
  rfl

/-- Without the operations that are refused, a run gives the same otherwise and leaves the same
document and selection. -/
theorem run_accepted (s : Session) (os : List Operation) :
    s.run (s.accepted os) = ((s.run os).1.filter Except.isOk, (s.run os).2) := by
  induction os generalizing s with
  | nil => rfl
  | cons o os ih =>
      cases ho : o.act s with
      | ok r s' =>
          rw [accepted_cons_of_ok ho, run_cons_of_ok ho, run_cons_of_ok ho, ih]
          rfl
      | error e s' =>
          obtain rfl := o.allOrNothing_act.left_eq ho
          rw [accepted_cons_of_error ho, run_cons_of_error ho, ih]
          rfl

end ControlPanel.Session
