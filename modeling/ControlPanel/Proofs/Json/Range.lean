import ControlPanel.Proofs.Json.Reader

namespace ControlPanel.Json

/-- Every number in the value is a whole one of 64 bits, or finite. -/
inductive InRange : Json → Prop
  | null : InRange .null
  | bool (b : Bool) : InRange (.bool b)
  | text (s : String) : InRange (.text s)
  | whole {n : Int} (hn : n.natAbs < 2 ^ 64) : InRange (.whole n)
  | real {x : Binary64} (hx : x.isFinite = true) : InRange (.real x)
  | array {vs : List Json} (hvs : ∀ v ∈ vs, InRange v) : InRange (.array vs)
  | object {ms : List (String × Json)} (hms : ∀ m ∈ ms, InRange m.2) : InRange (.object ms)

theorem Scalar.inRange {cs rest : List Char} {v : Json} (h : Scalar cs v rest) : InRange v := by
  have hnumber : ∀ {negative cs v}, Unsigned negative cs v rest → InRange v := by
    rintro negative cs v ⟨_, -, -, hvalue⟩
    rcases Numeral.number_of_value? hvalue with ⟨k, rfl, hk⟩ | ⟨x, rfl, hx⟩
    · exact .whole hk
    · exact .real hx
  cases h with
  | wordNull => exact .null
  | wordTrue | wordFalse => exact .bool _
  | text => exact .text _
  | negative hcs => exact hnumber hcs
  | positive hcs => exact hnumber hcs

section Compounds

variable {item : List Char → Json → List Char → Prop}

theorem Items.inRange (hitem : ∀ {cs v rest}, item cs v rest → InRange v) {cs rest : List Char}
    {vs : List Json} (h : Items item cs vs rest) : ∀ v ∈ vs, InRange v := by
  induction h with
  | last hv hend => simpa using hitem hv
  | more hv hcomma hnext hvs ih => exact List.forall_mem_cons.mpr ⟨hitem hv, ih⟩

theorem Members.inRange (hitem : ∀ {cs v rest}, item cs v rest → InRange v)
    {cs rest : List Char} {ms : List (String × Json)} (h : Members item cs ms rest) :
    ∀ m ∈ ms, InRange m.2 := by
  have hmember : ∀ {cs m rest}, Member item cs m rest → InRange m.2 := by
    rintro cs m rest ⟨-, -, -, hv⟩
    exact hitem hv
  induction h with
  | last hm hend => simpa using hmember hm
  | more hm hcomma hnext hms ih => exact List.forall_mem_cons.mpr ⟨hmember hm, ih⟩

end Compounds

theorem Value.inRange {levels : Nat} {cs rest : List Char} {v : Json}
    (h : Value levels cs v rest) : InRange v := by
  induction levels generalizing cs v rest with
  | zero => exact Scalar.inRange h
  | succ levels ih =>
      rcases h with h | h
      · exact h.inRange
      · cases h with
        | emptyArray hend => exact .array (by simp)
        | array hcs hvs => exact .array (hvs.inRange ih)
        | emptyObject hend => exact .object (by simp)
        | object hcs hms => exact .object (hms.inRange ih)

theorem mem_keptMembers {ms : List (String × Json)} {m : String × Json}
    (h : m ∈ keptMembers ms) : m ∈ ms := by
  induction ms using List.reverseRecOn with
  | nil => exact h
  | append_singleton ms n ih =>
      rw [keptMembers, List.foldl_append] at h
      rcases mem_insertMember h with rfl | h
      · simp
      · exact List.mem_append_left _ (ih h)

theorem InRange.canonical {v : Json} (h : InRange v) : InRange (canonical v) := by
  induction h with
  | null => exact .null
  | bool b => exact .bool b
  | text s => exact .text s
  | whole hn => exact .whole hn
  | real hx => exact .real hx
  | array hvs ih =>
      rw [canonical_array]
      refine .array fun u hu => ?_
      obtain ⟨v, hv, rfl⟩ := List.mem_map.mp hu
      exact ih v hv
  | object hms ih =>
      rw [canonical_object]
      refine .object fun n hn => ?_
      obtain ⟨m, hm, rfl⟩ := List.mem_map.mp (mem_keptMembers hn)
      exact ih m hm

/-- Numbers are in range in whatever is read. -/
theorem inRange_of_parse {s : String} {v : Json} (h : parse s = .ok v) : InRange v := by
  obtain ⟨u, ⟨cs, rest, -, hu, -⟩, rfl⟩ := parse_eq_ok_iff.mp h
  exact hu.inRange.canonical

end ControlPanel.Json
