import ControlPanel.Command.Selector
import ControlPanel.Proofs.Document.Edit
import ControlPanel.Proofs.Number.Digits
import ControlPanel.Proofs.Text.Trim

namespace ControlPanel

namespace Selector

/-- The text writes a number of 64 bits: decimal digits, perhaps after a plus sign. -/
def Writes (s : String) (n : Nat) : Prop :=
  ∃ sign ds, (sign = [] ∨ sign = ['+']) ∧ ds ≠ [] ∧ AllDigits ds ∧ s.toList = sign ++ ds ∧
    n = Nat.ofDigitChars 10 ds 0 ∧ n < 2 ^ 64

theorem digits_of_sign {sign ds : List Char} (hsign : sign = [] ∨ sign = ['+'])
    (hds : AllDigits ds) : digits (sign ++ ds) = ds := by
  rcases hsign with rfl | rfl
  · cases ds with
    | nil => rfl
    | cons c ds =>
        have hc := hds c List.mem_cons_self
        unfold digits
        split
        · rename_i heq
          cases heq
          cases hc
        · rfl
  · rfl

theorem exists_sign (cs : List Char) :
    ∃ sign, (sign = [] ∨ sign = ['+']) ∧ cs = sign ++ digits cs := by
  unfold digits
  split
  · exact ⟨['+'], .inr rfl, rfl⟩
  · exact ⟨[], .inl rfl, rfl⟩

theorem position?_eq_some_iff {s : String} {n : Nat} : position? s = some n ↔ Writes s n := by
  have hnumber : ∀ ds, digitsNumber ds = Nat.ofDigitChars 10 ds 0 := fun _ => rfl
  simp only [position?, hnumber, Nat.pow_eq, Option.ite_none_right_eq_some, Option.some.injEq,
    List.all_eq_true]
  constructor
  · rintro ⟨⟨hne, hall, hlt⟩, rfl⟩
    obtain ⟨sign, hsign, hs⟩ := exists_sign s.toList
    exact ⟨sign, _, hsign, hne, hall, hs, rfl, hlt⟩
  · rintro ⟨sign, ds, hsign, hne, hall, hs, rfl, hlt⟩
    rw [hs, digits_of_sign hsign hall]
    exact ⟨⟨hne, hall, hlt⟩, rfl⟩

/-- A sign and zeros may stand in front of a number. -/
theorem writes_toString {n : Nat} (hn : n < 2 ^ 64) {sign : String}
    (hsign : sign = "" ∨ sign = "+") (zeros : Nat) :
    Writes (sign ++ String.ofList (List.replicate zeros '0') ++ toString n) n := by
  have hlist : sign.toList = [] ∨ sign.toList = ['+'] := by
    rcases hsign with rfl | rfl
    · exact .inl rfl
    · exact .inr rfl
  refine ⟨sign.toList, List.replicate zeros '0' ++ Nat.toDigits 10 n, hlist, ?_,
    (allDigits_replicate_zero zeros).append (allDigits_toDigits n), ?_, ?_, hn⟩
  · exact List.append_ne_nil_of_right_ne_nil _ Nat.toDigits_ne_nil
  · rw [String.toList_append, String.toList_append, String.toList_ofList, toList_toString,
      List.append_assoc]
  · rw [Nat.ofDigitChars_append, Nat.ofDigitChars_replicate_zero, Nat.mul_zero,
      Nat.ofDigitChars_ten_toDigits]

theorem Writes.unique {s : String} {m n : Nat} (hm : Writes s m) (hn : Writes s n) : m = n :=
  Option.some.inj
    ((position?_eq_some_iff.mpr hm).symm.trans (position?_eq_some_iff.mpr hn))

theorem isWhiteSpace_digit {c : Char} (hc : c.isDigit = true) : Text.isWhiteSpace c = false := by
  have hlow : '0'.toNat = 48 := rfl
  have hhigh : '9'.toNat = 57 := rfl
  rw [Char.isDigit_iff_toNat, hlow, hhigh] at hc
  simp only [Text.isWhiteSpace, Text.inRanges, Text.whiteSpaceRanges, List.any_cons, List.any_nil,
    Bool.or_eq_false_iff, Bool.and_eq_false_iff, decide_eq_false_iff_not, and_true]
  omega

theorem Writes.isTrimmed {s : String} {n : Nat} (h : Writes s n) : Text.IsTrimmed s := by
  obtain ⟨sign, ds, hsign, -, hds, hs, -, -⟩ := h
  have hall : ∀ c ∈ s.toList, Text.isWhiteSpace c = false := by
    intro c hc
    rw [hs, List.mem_append] at hc
    rcases hc with hc | hc
    · rcases hsign with rfl | rfl
      · cases hc
      · rw [List.mem_singleton.mp hc]
        rfl
    · exact isWhiteSpace_digit (hds c hc)
  exact ⟨fun c hc => hall c (List.mem_of_mem_head? hc),
    fun c hc => hall c (List.mem_of_mem_getLast? hc)⟩

theorem Writes.ne_empty {s : String} {n : Nat} (h : Writes s n) : s ≠ "" := by
  obtain ⟨sign, ds, -, hne, -, hs, -, -⟩ := h
  rintro rfl
  exact List.append_ne_nil_of_right_ne_nil sign hne hs.symm

end Selector

namespace Document

variable {d : Document} {selector : String} {index : Nat} {t : Tab}

/-- The text writes the position of one of the tabs, counted from one. -/
def IsPosition (d : Document) (s : String) (n : Nat) : Prop :=
  Selector.Writes s n ∧ 1 ≤ n ∧ n ≤ d.tabs.length

theorem IsPosition.exists_tab {s : String} {n : Nat} (h : d.IsPosition s n) :
    ∃ index t, n = index + 1 ∧ d.tabs[index]? = some t := by
  obtain ⟨index, rfl⟩ := Nat.exists_eq_add_of_le' h.2.1
  exact ⟨index, _, rfl, List.getElem?_eq_getElem h.2.2⟩

theorem tabAt?_position?_eq_some_iff {s : String} :
    (Selector.position? s).bind d.tabAt? = some t ↔
      ∃ index, d.IsPosition s (index + 1) ∧ d.tabs[index]? = some t := by
  rw [Option.bind_eq_some_iff]
  constructor
  · rintro ⟨n, hn, ht⟩
    cases n with
    | zero => cases ht
    | succ index =>
        obtain ⟨hindex, -⟩ := List.getElem?_eq_some_iff.mp ht
        exact ⟨index, ⟨Selector.position?_eq_some_iff.mp hn, Nat.le_add_left 1 index, hindex⟩, ht⟩
  · rintro ⟨index, ⟨hwrites, -, -⟩, ht⟩
    exact ⟨index + 1, Selector.position?_eq_some_iff.mpr hwrites, ht⟩

theorem tabAt?_position?_eq_none {s : String} (h : ∀ n, ¬d.IsPosition s n) :
    (Selector.position? s).bind d.tabAt? = none := by
  rw [Option.eq_none_iff_forall_ne_some]
  intro t ht
  obtain ⟨index, hposition, -⟩ := tabAt?_position?_eq_some_iff.mp ht
  exact h _ hposition

theorem select_of_isPosition (h : d.IsPosition (Text.trim selector) (index + 1))
    (ht : d.tabs[index]? = some t) : d.select selector = .ok t.id := by
  have hbind := tabAt?_position?_eq_some_iff.mpr ⟨index, h, ht⟩
  simp only [select, hbind]

theorem select_toString (ht : d.tabs[index]? = some t) (hindex : index + 1 < 2 ^ 64) :
    d.select (toString (index + 1)) = .ok t.id := by
  have hwrites : Selector.Writes (toString (index + 1)) (index + 1) := by
    simpa using Selector.writes_toString hindex (.inl rfl) 0
  obtain ⟨hlt, -⟩ := List.getElem?_eq_some_iff.mp ht
  refine select_of_isPosition ?_ ht
  rw [Text.trim_eq_self_iff.mpr hwrites.isTrimmed]
  exact ⟨hwrites, Nat.le_add_left 1 index, hlt⟩

theorem select_eq_ok_of_not_position (h : ∀ n, ¬d.IsPosition (Text.trim selector) n)
    {id : TabId} :
    d.select selector = .ok id ↔
      id.text = Text.trim selector ∧ Text.isBlank id.text = false ∧ id ∈ d.tabIds := by
  simp only [select, tabAt?_position?_eq_none h, TabId.ofText]
  constructor
  · intro hselect
    split at hselect
    · cases hselect
    · rename_i hid
      split at hid
      · cases hid
      · rename_i hblank
        cases hid
        split at hselect
        · rename_i t htab
          obtain ⟨before, after, hfirst⟩ := tab?_eq_some_iff.mp htab
          cases hselect
          rw [hfirst.id_eq]
          exact ⟨rfl, Bool.eq_false_iff.mpr hblank, hfirst.mem_tabIds⟩
        · cases hselect
  · rintro ⟨htrim, hblank, hmem⟩
    obtain ⟨before, t, after, hfirst⟩ := exists_firstTab hmem
    rw [← htrim, hblank]
    simp only [Bool.false_eq_true, if_false, hfirst.tab?_eq, hfirst.id_eq]

theorem mem_tabIds_of_select {id : TabId} (h : d.select selector = .ok id) : id ∈ d.tabIds := by
  by_cases hposition : ∃ n, d.IsPosition (Text.trim selector) n
  · obtain ⟨n, hn⟩ := hposition
    obtain ⟨index, t, rfl, ht⟩ := hn.exists_tab
    rw [select_of_isPosition hn ht] at h
    cases h
    exact List.mem_map_of_mem (List.mem_of_getElem? ht)
  · exact ((select_eq_ok_of_not_position (not_exists.mp hposition)).mp h).2.2

theorem index_unique {place : Nat} {u : Tab} (hnodup : d.tabIds.Nodup)
    (hu : d.tabs[place]? = some u) (ht : d.tabs[index]? = some t) (hid : u.id = t.id) :
    place = index := by
  have hplace : d.tabIds[place]? = some u.id := by rw [tabIds, List.getElem?_map, hu]; rfl
  have hindex : d.tabIds[index]? = some t.id := by rw [tabIds, List.getElem?_map, ht]; rfl
  obtain ⟨hlength, -⟩ := List.getElem?_eq_some_iff.mp hplace
  rw [← List.getElem?_inj hlength hnodup, hplace, hindex, hid]

/-- A tab is named by its position, and by its identifier where this writes no other position and
has no white space at its ends. -/
theorem select_id_iff (hd : d.validate = .ok ()) (ht : d.tabs[index]? = some t) :
    d.select t.id.text = .ok t.id ↔
      d.IsPosition (Text.trim t.id.text) (index + 1) ∨
        (∀ n, ¬d.IsPosition (Text.trim t.id.text) n) ∧ Text.IsTrimmed t.id.text := by
  obtain ⟨htabs, -⟩ := validate_eq_ok_iff.mp hd
  have hmem : t.id ∈ d.tabIds := List.mem_map_of_mem (List.mem_of_getElem? ht)
  by_cases hposition : ∃ n, d.IsPosition (Text.trim t.id.text) n
  · obtain ⟨n, hn⟩ := hposition
    obtain ⟨place, u, rfl, hu⟩ := hn.exists_tab
    rw [select_of_isPosition hn hu]
    constructor
    · intro h
      have hindex : place = index := index_unique htabs.nodup hu ht (Except.ok.inj h)
      exact .inl (hindex ▸ hn)
    · rintro (h | ⟨h, -⟩)
      · obtain rfl : place = index := Nat.succ_injective (hn.1.unique h.1)
        rw [Option.some.inj (hu.symm.trans ht)]
      · exact absurd hn (h _)
  · have hnone := not_exists.mp hposition
    rw [select_eq_ok_of_not_position hnone, ← Text.trim_eq_self_iff]
    constructor
    · rintro ⟨htrim, -, -⟩
      exact .inr ⟨hnone, htrim.symm⟩
    · rintro (h | ⟨-, htrim⟩)
      · exact absurd h (hnone _)
      · exact ⟨htrim.symm, htabs.not_blank _ hmem, hmem⟩

/-- The position of a tab names it in any spelling and whatever the identifiers are, as long as it
is a number of 64 bits. The identifier of a tab names it exactly if it spells this position, or no
position and has no white space at its ends. Nothing but a tab is named. -/
theorem select_names_tab (hd : d.validate = .ok ()) :
    (∀ index t, d.tabs[index]? = some t →
      (index + 1 < 2 ^ 64 → ∀ before sign zeros after, Text.isBlank before = true →
        (sign = "" ∨ sign = "+") → Text.isBlank after = true →
        d.select (before ++
          (sign ++ String.ofList (List.replicate zeros '0') ++ toString (index + 1)) ++ after) =
            .ok t.id) ∧
      (d.select t.id.text = .ok t.id ↔
        d.IsPosition (Text.trim t.id.text) (index + 1) ∨
          (∀ n, ¬d.IsPosition (Text.trim t.id.text) n) ∧ Text.IsTrimmed t.id.text)) ∧
    ∀ selector, (∃ e, d.select selector = .error e) ∨
      ∃ t ∈ d.tabs, d.select selector = .ok t.id := by
  refine ⟨fun index t ht => ⟨fun hlt before sign zeros after hbefore hsign hafter => ?_,
    select_id_iff hd ht⟩, fun selector => ?_⟩
  · have hwrites := Selector.writes_toString hlt hsign zeros
    obtain ⟨hindex, -⟩ := List.getElem?_eq_some_iff.mp ht
    refine select_of_isPosition ?_ ht
    rw [Text.trim_of_surrounded hwrites.isTrimmed hwrites.ne_empty hbefore hafter]
    exact ⟨hwrites, Nat.le_add_left 1 index, hindex⟩
  · cases hselect : d.select selector with
    | error e => exact .inl ⟨e, rfl⟩
    | ok id =>
        obtain ⟨t, ht, rfl⟩ := List.mem_map.mp (mem_tabIds_of_select hselect)
        exact .inr ⟨t, ht, rfl⟩

/-- Tabs whose identifiers look like positions. -/
def numberedDocument : Document where
  tabs := [{ id := ⟨"2"⟩, name := "Main" }, { id := ⟨"1"⟩, name := "Combat" },
    { id := ⟨"7"⟩, name := "Extra" }]

theorem select_names_tab_numberedDocument :
    numberedDocument.validate = .ok () ∧
    numberedDocument.select ("\t" ++ ("+" ++ String.ofList (List.replicate 2 '0') ++ toString 2) ++
      " ") = .ok ⟨"1"⟩ ∧
    numberedDocument.select "1" ≠ .ok ⟨"1"⟩ ∧ numberedDocument.select "7" = .ok ⟨"7"⟩ := by
  have hvalid : numberedDocument.validate = .ok () := by decide +kernel
  obtain ⟨hnames, -⟩ := select_names_tab hvalid
  obtain ⟨hposition, hone⟩ := hnames 1 _ rfl
  obtain ⟨-, hseven⟩ := hnames 2 _ rfl
  have hwrites : ∀ {s n}, Selector.position? s = some n → Selector.Writes s n :=
    fun h => Selector.position?_eq_some_iff.mp h
  refine ⟨hvalid, hposition (by norm_num) "\t" "+" 2 " " rfl (.inr rfl) rfl, fun h => ?_,
    hseven.mpr (.inr ⟨fun n hn => ?_, ?_⟩)⟩
  · have hfirst : numberedDocument.IsPosition (Text.trim "1") 1 :=
      ⟨hwrites (by decide +kernel), by decide, by decide⟩
    rcases hone.mp h with h | h
    · cases h.1.unique hfirst.1
    · exact h.1 1 hfirst
  · obtain rfl := hn.1.unique (hwrites (s := Text.trim "7") (n := 7) (by decide +kernel))
    exact absurd hn.2.2 (by decide)
  · exact Text.trim_eq_self_iff.mp (by decide +kernel)

end Document

end ControlPanel
