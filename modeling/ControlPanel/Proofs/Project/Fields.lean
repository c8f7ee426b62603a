import ControlPanel.Project.Load
import ControlPanel.Proofs.Json.Canonical
import ControlPanel.Proofs.Outcome
import ControlPanel.Proofs.Project.Format

/-!
The fields of a record fit exactly if each of them holds a value; the check of its members before
they are read adds nothing to that.
-/

namespace ControlPanel

open Json

/-- A reader of canonical values gives what a relation says of a value. -/
def Reads {α : Type} (read : Json → Read α) (holds : Json → α → Prop) (v : Json) : Prop :=
  ∀ a, read (canonical v) = .ok a ↔ holds v a

theorem reads_text (v : Json) : Reads readText HoldsText v := by
  intro s
  cases v with
  | text t => simp [canonical, readText, HoldsText]
  | object ms => simp [canonical_object, ofMembers, readText, HoldsText]
  | null | bool | whole | real | array => simp [canonical, readText, HoldsText]

theorem reads_truth (v : Json) : Reads readTruth HoldsTruth v := by
  intro b
  cases v with
  | bool c => simp [canonical, readTruth, HoldsTruth]
  | object ms => simp [canonical_object, ofMembers, readTruth, HoldsTruth]
  | null | text | whole | real | array => simp [canonical, readTruth, HoldsTruth]

theorem reads_number (v : Json) : Reads readNumber HoldsNumber v := by
  intro x
  cases v with
  | real y => simp [canonical, readNumber, HoldsNumber]
  | whole n => simp [canonical, readNumber, HoldsNumber, eq_comm]
  | object ms => simp [canonical_object, ofMembers, readNumber, HoldsNumber]
  | null | text | bool | array => simp [canonical, readNumber, HoldsNumber]

theorem reads_textOrNull (v : Json) : Reads readOptionalText HoldsTextOrNull v := by
  intro s
  cases v with
  | null => cases s <;> simp [canonical, readOptionalText, HoldsTextOrNull]
  | text t => cases s <;> simp [canonical, readOptionalText, readText, HoldsTextOrNull]
  | object ms =>
      cases s <;> simp [canonical_object, ofMembers, readOptionalText, readText, HoldsTextOrNull]
  | bool | whole | real | array =>
      cases s <;> simp [canonical, readOptionalText, readText, HoldsTextOrNull]

theorem readItems_eq_ok_iff {α : Type} {read : Json → Read α} {holds : Json → α → Prop}
    {vs : List Json} (hread : ∀ v ∈ vs, Reads read holds v) (as : List α) :
    readItems read (vs.map canonical) = .ok as ↔ List.Forall₂ holds vs as := by
  induction vs generalizing as with
  | nil => cases as <;> simp [readItems]
  | cons v vs ih =>
      have hv := hread v (by simp)
      have htail := ih fun u hu => hread u (List.mem_cons_of_mem _ hu)
      simp only [List.map_cons, readItems, Outcome.bind_eq_ok_iff, Outcome.pure_eq_ok_iff, hv _,
        htail]
      cases as with
      | nil => simp
      | cons a as => simp

theorem reads_list {α : Type} {read : Json → Read α} {holds : Json → α → Prop} {v : Json}
    (hread : ∀ vs, v = .array vs → ∀ u ∈ vs, Reads read holds u) :
    Reads (readList read) (HoldsList holds) v := by
  intro as
  cases v with
  | array vs =>
      rw [canonical_array, readList, readItems_eq_ok_iff (hread vs rfl)]
      simp [HoldsList]
  | object ms => simp [canonical_object, ofMembers, readList, HoldsList]
  | null | bool | whole | real | text => simp [canonical, readList, HoldsList]

/-- The members of an object as its record looks them up. -/
def heldMembers (ms : List (String × Json)) : List (String × Json) :=
  keptMembers (ms.map fun m => (m.1, canonical m.2))

theorem canonical_object_eq (ms : List (String × Json)) :
    canonical (.object ms) = .object (heldMembers ms) :=
  canonical_object ms

theorem member?_heldMembers (ms : List (String × Json)) (key : String) :
    member? key (heldMembers ms) = (last? key ms).map canonical := by
  rw [heldMembers, member?_keptMembers, last?_map]

/-- The record that an object holds. -/
def recordOf (name : String) (forms : List FieldForm) (ms : List (String × Json)) : Record :=
  ⟨name, forms.length, .members (heldMembers ms)⟩

/-- The member for a field, if there is one, has the form of the field. -/
def FieldForm.Fits (f : FieldForm) (ms : List (String × Json)) : Prop :=
  ∀ v, last? f.name ms = some v → f.check (canonical v) = .ok ()

theorem checkMembers_of_fits {forms : List FieldForm} {ms : List (String × Json)}
    (hfits : ∀ f ∈ forms, f.Fits ms) :
    Record.checkMembers forms (heldMembers ms) = .ok () := by
  have hmembers : ∀ m ∈ heldMembers ms, ∀ f ∈ forms, f.name = m.1 → f.check m.2 = .ok () := by
    rintro m hm f hf hname
    have hheld : member? m.1 (heldMembers ms) = some m.2 :=
      member?_of_mem (ascending_keptMembers _) hm
    rw [member?_heldMembers, Option.map_eq_some_iff] at hheld
    obtain ⟨v, hv, hcanonical⟩ := hheld
    rw [← hcanonical]
    exact hfits f hf v (hname ▸ hv)
  generalize heldMembers ms = ks at hmembers
  induction ks with
  | nil => rfl
  | cons m ks ih =>
      obtain ⟨key, v⟩ := m
      have htail := ih fun n hn => hmembers n (List.mem_cons_of_mem _ hn)
      rw [Record.checkMembers]
      split
      · next f hfind =>
          have hname : f.name = key := by simpa using List.find?_some hfind
          have hcheck : f.check v = .ok () :=
            hmembers (key, v) (by simp) f (List.mem_of_find?_eq_some hfind) hname
          rw [hcheck]
          exact htail
      · exact htail

theorem record_eq_ok_iff {α : Type} {name : String} {forms : List FieldForm}
    {body : Record → Read α} {v : Json} {a : α} (hv : NoArray v)
    (hbody : ∀ ms, body (recordOf name forms ms) = .ok a → ∀ f ∈ forms, f.Fits ms) :
    (Record.ofJson name forms (canonical v) >>= body) = .ok a ↔
      ∃ ms, v = .object ms ∧ body (recordOf name forms ms) = .ok a := by
  cases v with
  | object ms =>
      simp only [canonical_object_eq, Record.ofJson, Outcome.bind_eq_ok_iff, Outcome.pure_eq_ok_iff]
      constructor
      · rintro ⟨r, ⟨_, _, rfl⟩, hr⟩
        exact ⟨ms, rfl, hr⟩
      · rintro ⟨ns, hns, hr⟩
        cases hns
        exact ⟨_, ⟨(), checkMembers_of_fits (hbody _ hr), rfl⟩, hr⟩
  | array vs => exact absurd rfl (hv vs)
  | null | bool | whole | real | text => simp [canonical, Record.ofJson]

section

variable {α : Type} {name : String} {forms : List FieldForm} {ms : List (String × Json)}
  {place : Nat} {f : Field α} {holds : Json → α → Prop} {a : α}

theorem get_recordOf :
    (recordOf name forms ms).get place f =
      match (last? f.name ms).map canonical with
      | some v => f.read v
      | none => (recordOf name forms ms).missing place f := by
  cases h : (last? f.name ms).map canonical with
  | none => simp [Record.get, recordOf, member?_heldMembers, h]
  | some v => simp [Record.get, recordOf, member?_heldMembers, h]

theorem get_eq_ok_iff_required (hf : f.standIn = none)
    (hread : ∀ v, last? f.name ms = some v → Reads f.read holds v) :
    (recordOf name forms ms).get place f = .ok a ↔ Required ms f.name holds a := by
  rw [get_recordOf, Required]
  cases hlast : last? f.name ms with
  | none => simp [Record.missing, hf, recordOf]
  | some v => simp [hread v hlast a]

theorem get_eq_ok_iff_optional {standIn : α} (hf : f.standIn = some standIn)
    (hread : ∀ v, last? f.name ms = some v → Reads f.read holds v) :
    (recordOf name forms ms).get place f = .ok a ↔ Optional ms f.name holds standIn a := by
  rw [get_recordOf, Optional, Required]
  cases hlast : last? f.name ms with
  | none => simp [Record.missing, hf, eq_comm]
  | some v => simp [hread v hlast a]

theorem fits_of_get (h : (recordOf name forms ms).get place f = .ok a) : f.form.Fits ms := by
  intro v hv
  have hname : f.form.name = f.name := rfl
  rw [hname] at hv
  rw [get_recordOf, hv] at h
  exact Outcome.bind_eq_ok_iff.mpr ⟨a, h, rfl⟩

theorem get_text {key s : String} :
    (recordOf name forms ms).get place (Fields.text key) = .ok s ↔ Required ms key HoldsText s :=
  get_eq_ok_iff_required rfl fun v _ => reads_text v

theorem get_truth {key : String} {b : Bool} :
    (recordOf name forms ms).get place (Fields.truth key) = .ok b ↔
      Required ms key HoldsTruth b :=
  get_eq_ok_iff_required rfl fun v _ => reads_truth v

theorem get_number {key : String} {x : Binary64} :
    (recordOf name forms ms).get place (Fields.number key) = .ok x ↔
      Required ms key HoldsNumber x :=
  get_eq_ok_iff_required rfl fun v _ => reads_number v

theorem finish_recordOf {tooMany : Nat → Misfit} :
    (recordOf name forms ms).finish tooMany = .ok () :=
  rfl

end

end ControlPanel
