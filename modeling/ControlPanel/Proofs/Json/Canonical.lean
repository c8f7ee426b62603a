import Mathlib
import ControlPanel.Proofs.Json.Grammar

namespace ControlPanel.Json

mutual

/-- The value as a reader keeps it. -/
def canonical : Json → Json
  | null => null
  | bool b => bool b
  | whole n => whole n
  | real x => real x
  | text s => text s
  | array vs => array (canonicalItems vs)
  | object ms => ofMembers (canonicalMembers ms)

def canonicalItems : List Json → List Json
  | [] => []
  | v :: vs => canonical v :: canonicalItems vs

def canonicalMember : String × Json → String × Json
  | (key, v) => (key, canonical v)

def canonicalMembers : List (String × Json) → List (String × Json)
  | [] => []
  | m :: ms => canonicalMember m :: canonicalMembers ms

end

theorem canonicalItems_eq_map (vs : List Json) : canonicalItems vs = vs.map canonical := by
  induction vs with
  | nil => rfl
  | cons v vs ih => rw [canonicalItems, ih, List.map_cons]

theorem canonicalMembers_eq_map (ms : List (String × Json)) :
    canonicalMembers ms = ms.map fun m => (m.1, canonical m.2) := by
  induction ms with
  | nil => rfl
  | cons m ms ih => rw [canonicalMembers, ih, List.map_cons, canonicalMember]

theorem canonical_array (vs : List Json) : canonical (.array vs) = .array (vs.map canonical) := by
  rw [canonical, canonicalItems_eq_map]

theorem canonical_object (ms : List (String × Json)) :
    canonical (.object ms) = ofMembers (ms.map fun m => (m.1, canonical m.2)) := by
  rw [canonical, canonicalMembers_eq_map]

/-- The members that a reader keeps. -/
def keptMembers (ms : List (String × Json)) : List (String × Json) :=
  ms.foldl (fun l m => insertMember m.1 m.2 l) []

theorem member?_cons (key : String) (m : String × Json) (l : List (String × Json)) :
    member? key (m :: l) = if m.1 = key then some m.2 else member? key l := by
  by_cases h : m.1 = key <;> simp [member?, h]

theorem last?_concat (key : String) (l : List (String × Json)) (m : String × Json) :
    last? key (l ++ [m]) = if m.1 = key then some m.2 else last? key l := by
  rw [last?, last?, List.reverse_append, List.reverse_singleton, List.singleton_append]
  by_cases h : m.1 = key
  · simp [List.lookup, h]
  · have hne : (key == m.1) = false := by simpa using Ne.symm h
    simp only [List.lookup, hne, if_neg h]

theorem last?_map (f : Json → Json) (key : String) (l : List (String × Json)) :
    last? key (l.map fun m => (m.1, f m.2)) = (last? key l).map f := by
  induction l using List.reverseRecOn with
  | nil => rfl
  | append_singleton l m ih =>
      rw [List.map_append, List.map_singleton, last?_concat, last?_concat, ih]
      split_ifs <;> rfl

theorem member?_insertMember (key : String) (v : Json) (l : List (String × Json)) (k : String) :
    member? k (insertMember key v l) = if key = k then some v else member? k l := by
  induction l with
  | nil => rw [insertMember, member?_cons]
  | cons m l ih =>
      obtain ⟨k', v'⟩ := m
      rw [insertMember]
      by_cases hlt : key < k'
      · rw [if_pos hlt, member?_cons]
      · by_cases heq : key = k'
        · rw [if_neg hlt, if_pos heq, member?_cons, member?_cons, ← heq]
          split_ifs <;> rfl
        · rw [if_neg hlt, if_neg heq, member?_cons, ih, member?_cons]
          by_cases hk : k' = k
          · rw [if_pos hk, if_pos hk, if_neg (fun h => heq (h.trans hk.symm))]
          · rw [if_neg hk, if_neg hk]

theorem member?_keptMembers (ms : List (String × Json)) (key : String) :
    member? key (keptMembers ms) = last? key ms := by
  induction ms using List.reverseRecOn with
  | nil => rfl
  | append_singleton ms m ih =>
      rw [keptMembers, List.foldl_append, List.foldl_cons, List.foldl_nil, member?_insertMember,
        last?_concat]
      rw [keptMembers] at ih
      rw [ih]

/-- Keys in ascending order, each only once. -/
def Ascending (ms : List (String × Json)) : Prop :=
  ms.Pairwise fun m n => m.1 < n.1

theorem mem_insertMember {key : String} {v : Json} {l : List (String × Json)}
    {m : String × Json} (h : m ∈ insertMember key v l) : m = (key, v) ∨ m ∈ l := by
  induction l with
  | nil => simpa [insertMember] using h
  | cons n l ih =>
      obtain ⟨k, u⟩ := n
      rw [insertMember] at h
      split_ifs at h
      · simpa using h
      · rcases List.mem_cons.mp h with h | h
        · exact .inl h
        · exact .inr (List.mem_cons_of_mem _ h)
      · rcases List.mem_cons.mp h with h | h
        · exact .inr (by simp [h])
        · exact (ih h).imp_right (List.mem_cons_of_mem _)

theorem ascending_insertMember {key : String} {v : Json} {l : List (String × Json)}
    (h : Ascending l) : Ascending (insertMember key v l) := by
  induction l with
  | nil => simp [insertMember, Ascending]
  | cons n l ih =>
      obtain ⟨k, u⟩ := n
      obtain ⟨hhead, htail⟩ := List.pairwise_cons.mp h
      rw [insertMember]
      split_ifs with hlt heq
      · refine List.pairwise_cons.mpr ⟨?_, h⟩
        rintro m hm
        rcases List.mem_cons.mp hm with rfl | hm
        · exact hlt
        · exact hlt.trans (hhead m hm)
      · subst heq
        exact List.pairwise_cons.mpr ⟨hhead, htail⟩
      · refine List.pairwise_cons.mpr ⟨?_, ih htail⟩
        intro m hm
        rcases mem_insertMember hm with rfl | hm
        · exact lt_of_le_of_ne (not_lt.mp hlt) (Ne.symm heq)
        · exact hhead m hm

theorem ascending_keptMembers (ms : List (String × Json)) : Ascending (keptMembers ms) := by
  induction ms using List.reverseRecOn with
  | nil => exact List.Pairwise.nil
  | append_singleton ms m ih =>
      rw [keptMembers, List.foldl_append]
      exact ascending_insertMember ih

theorem member?_of_mem {ms : List (String × Json)} (h : Ascending ms) {m : String × Json}
    (hm : m ∈ ms) : member? m.1 ms = some m.2 := by
  induction ms with
  | nil => cases hm
  | cons n ms ih =>
      obtain ⟨hhead, htail⟩ := List.pairwise_cons.mp h
      rw [member?_cons]
      rcases List.mem_cons.mp hm with rfl | hm
      · rw [if_pos rfl]
      · rw [if_neg (hhead m hm).ne]
        exact ih htail hm

end ControlPanel.Json
