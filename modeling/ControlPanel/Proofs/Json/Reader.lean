import ControlPanel.Proofs.Json.Canonical
import ControlPanel.Proofs.Json.Numbers
import ControlPanel.Proofs.Json.Strings
import ControlPanel.Proofs.Outcome

/-!
Arrays and objects are read with any reader of items that agrees with a relation, so the levels of
nesting are one induction.
-/

namespace ControlPanel.Json

section Scalars

theorem word_eq_ok_iff {v v' : Json} {w cs rest : List Char} :
    word v w cs = .ok (v', rest) ↔ v' = v ∧ cs = w ++ rest := by
  induction w generalizing cs with
  | nil =>
      rw [word, List.nil_append]
      constructor
      · intro h
        cases h
        exact ⟨rfl, rfl⟩
      · rintro ⟨rfl, rfl⟩
        rfl
  | cons d w ih =>
      cases cs with
      | nil => simp [word]
      | cons c cs =>
          rw [word, List.cons_append]
          by_cases h : c = d
          · rw [if_pos h, ih, h]
            simp
          · rw [if_neg h]
            simp [h]

theorem scalar_of_reader {cs rest : List Char} {v : Json} (h : scalar cs = .ok (v, rest)) :
    Scalar cs v rest := by
  rw [scalar.eq_def] at h
  split at h
  · cases h
  · rename_i c cs
    split_ifs at h with hquote hn ht hf hminus hdigit
    · subst hquote
      obtain ⟨⟨s, mid⟩, hstring, hvalue⟩ := Outcome.bind_eq_ok_iff.mp h
      cases hvalue
      obtain ⟨vs, hcs, rfl⟩ := characters_of_stringRest hstring
      exact .text hcs
    · obtain ⟨rfl, rfl⟩ := word_eq_ok_iff.mp h
      subst hn
      exact .wordNull rest
    · obtain ⟨rfl, rfl⟩ := word_eq_ok_iff.mp h
      subst ht
      exact .wordTrue rest
    · obtain ⟨rfl, rfl⟩ := word_eq_ok_iff.mp h
      subst hf
      exact .wordFalse rest
    · subst hminus
      exact .negative (unsigned_of_reader h)
    · exact .positive (unsigned_of_reader h)

theorem ne_of_isDigit {c d : Char} (hc : c.isDigit = true) (hd : d.isDigit = false) : c ≠ d := by
  rintro rfl
  simp [hd] at hc

theorem reader_of_scalar {cs rest : List Char} {v : Json} (h : Scalar cs v rest)
    (hrest : NoNumberHead rest) : scalar cs = .ok (v, rest) := by
  cases h with
  | wordNull | wordTrue | wordFalse => exact word_eq_ok_iff.mpr ⟨rfl, rfl⟩
  | text hcs =>
      rw [scalar, if_pos rfl, stringRest_of_characters hcs]
      rfl
  | negative hcs => exact reader_of_unsigned hcs hrest
  | positive hcs =>
      obtain ⟨c, r, rfl, hc⟩ := hcs.exists_head
      have hne := fun d => ne_of_isDigit (d := d) hc
      rw [scalar, if_neg (hne _ rfl), if_neg (hne _ rfl), if_neg (hne _ rfl), if_neg (hne _ rfl),
        if_neg (hne _ rfl), if_pos hc]
      exact reader_of_unsigned hcs hrest

theorem Scalar.canonical_eq {cs rest : List Char} {v : Json} (h : Scalar cs v rest) :
    canonical v = v := by
  have hnumber : ∀ {negative cs v}, Unsigned negative cs v rest → canonical v = v := by
    rintro negative cs v ⟨_, -, -, hvalue⟩
    rcases Numeral.number_of_value? hvalue with ⟨k, rfl, -⟩ | ⟨x, rfl, -⟩ <;> rfl
  cases h with
  | wordNull | wordTrue | wordFalse | text => rfl
  | negative hcs => exact hnumber hcs
  | positive hcs => exact hnumber hcs

theorem Scalar.length_le {cs rest : List Char} {v : Json} (h : Scalar cs v rest) :
    rest.length ≤ cs.length := by
  cases h with
  | wordNull | wordTrue | wordFalse => simp only [List.length_cons]; omega
  | text hcs =>
      have := hcs.length_lt
      rw [List.length_cons]
      omega
  | negative hcs =>
      have := hcs.length_le
      rw [List.length_cons]
      omega
  | positive hcs => exact hcs.length_le

/-- The first character of a value. -/
def StartsValue (cs : List Char) : Prop :=
  ∃ c r, cs = c :: r ∧ isSpace c = false ∧ c ≠ ']'

theorem Scalar.starts {cs rest : List Char} {v : Json} (h : Scalar cs v rest) :
    StartsValue cs ∧ ∀ r, cs ≠ '[' :: r ∧ cs ≠ '\x7b' :: r := by
  cases h with
  | wordNull | wordTrue | wordFalse | text | negative =>
      exact ⟨⟨_, _, rfl, rfl, by decide⟩, fun r => ⟨by simp, by simp⟩⟩
  | positive hcs =>
      obtain ⟨c, r, rfl, hc⟩ := hcs.exists_head
      have hne := fun d => ne_of_isDigit (d := d) hc
      have hspace : isSpace c = false := by
        simp [isSpace, hne ' ' rfl, hne '\t' rfl, hne '\n' rfl, hne '\r' rfl]
      refine ⟨⟨c, r, rfl, hspace, hne _ rfl⟩, fun r' => ⟨?_, ?_⟩⟩
      · intro h
        cases h
        exact hne _ rfl rfl
      · intro h
        cases h
        exact hne _ rfl rfl

end Scalars

/-- A reader of items gives the canonical form of what a relation says, for every text of it. -/
structure Agrees (read : List Char → Reading) (item : List Char → Json → List Char → Prop) :
    Prop where
  sound : ∀ {cs rest w}, read cs = .ok (w, rest) → ∃ v, item cs v rest ∧ w = canonical v
  complete : ∀ {cs v rest}, item cs v rest → NoNumberHead rest →
    read cs = .ok (canonical v, rest)
  length_le : ∀ {cs v rest}, item cs v rest → rest.length ≤ cs.length
  starts : ∀ {cs v rest}, item cs v rest → StartsValue cs

theorem StartsValue.noSpaceHead {cs : List Char} (h : StartsValue cs) : NoSpaceHead cs := by
  obtain ⟨c, r, rfl, hspace, -⟩ := h
  intro c' r' hcons
  cases hcons
  exact hspace

theorem noSpaceHead_cons {c : Char} (hc : isSpace c = false) (cs : List Char) :
    NoSpaceHead (c :: cs) := by
  intro c' r h
  cases h
  exact hc

theorem noNumberHead_of_spaces {cs rest : List Char} (h : Spaces cs rest)
    (hrest : NoNumberHead rest) : NoNumberHead cs := by
  cases h with
  | none => exact hrest
  | @more d cs rest hd hcs =>
      intro c r h
      cases h
      simp only [isSpace, Bool.or_eq_true, beq_iff_eq] at hd
      rcases hd with ((rfl | rfl) | rfl) | rfl <;> decide

theorem noNumberHead_cons {c : Char} (hc : c ∈ [',', ']', '\x7d']) (cs : List Char) :
    NoNumberHead (c :: cs) := by
  intro c' r h
  cases h
  fin_cases hc <;> decide

section Separators

variable {close : Char} {unfinished unexpected : Reason} {closed w : Json}
  {next : List Char → Reading} {mid rest : List Char}

/-- What is read after an item: the end of the items, or a comma in front of the next one. -/
def afterItem (close : Char) (unfinished unexpected : Reason) (closed : Json)
    (next : List Char → Reading) (cs : List Char) : Reading :=
  match skip cs with
  | [] => .error ⟨unfinished, [], 1⟩
  | c :: r =>
    if c = close then .ok (closed, r)
    else if c = ',' then
      match skip r with
      | [] => .error ⟨.endInValue, [], 1⟩
      | d :: r => if d = close then .error ⟨.trailingComma, d :: r, 1⟩ else next (d :: r)
    else .error ⟨unexpected, c :: r, 1⟩

theorem afterItem_cases
    (h : afterItem close unfinished unexpected closed next mid = .ok (w, rest)) :
    Spaces mid (close :: rest) ∧ w = closed ∨
      ∃ cs cs', Spaces mid (',' :: cs) ∧ Spaces cs cs' ∧ next cs' = .ok (w, rest) := by
  have hmid := spaces_skip mid
  rw [afterItem] at h
  split at h
  · cases h
  rename_i c r hskip
  rw [hskip] at hmid
  split_ifs at h with hclose hcomma
  · subst hclose
    cases h
    exact .inl ⟨hmid, rfl⟩
  · subst hcomma
    have hr := spaces_skip r
    split at h
    · cases h
    rename_i d r' hskip'
    rw [hskip'] at hr
    split_ifs at h
    exact .inr ⟨r, _, hmid, hr, h⟩

theorem afterItem_of_close (hclose : isSpace close = false) (h : Spaces mid (close :: rest)) :
    afterItem close unfinished unexpected closed next mid = .ok (closed, rest) := by
  rw [afterItem, skip_eq_of_spaces h (noSpaceHead_cons hclose rest)]
  exact if_pos rfl

theorem afterItem_of_comma {c : Char} {cs r : List Char} (hne : ',' ≠ close)
    (h : Spaces mid (',' :: cs)) (hcs : Spaces cs (c :: r)) (hc : isSpace c = false)
    (hcne : c ≠ close) :
    afterItem close unfinished unexpected closed next mid = next (c :: r) := by
  rw [afterItem, skip_eq_of_spaces h (noSpaceHead_cons rfl cs)]
  dsimp only
  rw [if_neg hne, if_pos rfl, skip_eq_of_spaces hcs (noSpaceHead_cons hc r)]
  exact if_neg hcne

end Separators

section Compounds

variable {read : List Char → Reading} {item : List Char → Json → List Char → Prop}

theorem itemsRest_succ (read : List Char → Reading) (fuel : Nat) (acc : List Json)
    (cs : List Char) :
    itemsRest read (fuel + 1) acc cs = read cs >>= fun r =>
      afterItem ']' .endInArray .arrayEndExpected (.array (r.1 :: acc).reverse)
        (itemsRest read fuel (r.1 :: acc)) r.2 :=
  rfl

theorem items_of_reader (hread : Agrees read item) {fuel : Nat} {acc : List Json}
    {cs rest : List Char} {w : Json} (h : itemsRest read fuel acc cs = .ok (w, rest)) :
    ∃ vs, Items item cs vs rest ∧ w = .array (acc.reverse ++ vs.map canonical) := by
  induction fuel generalizing acc cs with
  | zero => cases h
  | succ fuel ih =>
      rw [itemsRest_succ] at h
      obtain ⟨⟨u, mid⟩, hitem, hafter⟩ := Outcome.bind_eq_ok_iff.mp h
      obtain ⟨v, hv, rfl⟩ := hread.sound hitem
      rcases afterItem_cases hafter with ⟨hend, rfl⟩ | ⟨cs', next, hcomma, hnext, hrest⟩
      · exact ⟨[v], .last hv hend, by simp⟩
      · obtain ⟨vs, hvs, rfl⟩ := ih hrest
        exact ⟨v :: vs, .more hv hcomma hnext hvs, by simp⟩

theorem Items.starts (hread : Agrees read item) {cs rest : List Char} {vs : List Json}
    (h : Items item cs vs rest) : StartsValue cs := by
  cases h with
  | last hv => exact hread.starts hv
  | more hv => exact hread.starts hv

theorem Items.length_lt (hread : Agrees read item) {cs rest : List Char} {vs : List Json}
    (h : Items item cs vs rest) : rest.length < cs.length := by
  induction h with
  | last hv hend =>
      have := hread.length_le hv
      have := hend.length_le
      simp only [List.length_cons] at *
      omega
  | more hv hcomma hnext hvs ih =>
      have := hread.length_le hv
      have := hcomma.length_le
      have := hnext.length_le
      simp only [List.length_cons] at *
      omega

theorem reader_of_items (hread : Agrees read item) {cs rest : List Char} {vs : List Json}
    (h : Items item cs vs rest) :
    ∀ fuel acc, cs.length ≤ fuel →
      itemsRest read fuel acc cs = .ok (.array (acc.reverse ++ vs.map canonical), rest) := by
  induction h with
  | @last cs mid rest v hv hend =>
      intro fuel acc hfuel
      have hpos := (Items.last hv hend).length_lt hread
      obtain ⟨fuel, rfl⟩ : ∃ n, fuel = n + 1 := ⟨fuel - 1, by omega⟩
      have hmid := noNumberHead_of_spaces hend (noNumberHead_cons (by simp) rest)
      rw [itemsRest_succ, hread.complete hv hmid, Outcome.ok_bind, afterItem_of_close rfl hend]
      simp
  | @more cs mid cs' next rest v vs hv hcomma hnext hvs ih =>
      intro fuel acc hfuel
      have hpos := (Items.more hv hcomma hnext hvs).length_lt hread
      obtain ⟨fuel, rfl⟩ : ∃ n, fuel = n + 1 := ⟨fuel - 1, by omega⟩
      have hmid := noNumberHead_of_spaces hcomma (noNumberHead_cons (by simp) cs')
      have hshort : next.length ≤ fuel := by
        have := hread.length_le hv
        have := hcomma.length_le
        have := hnext.length_le
        simp only [List.length_cons] at *
        omega
      obtain ⟨c, r, rfl, hspace, hc⟩ := hvs.starts hread
      rw [itemsRest_succ, hread.complete hv hmid, Outcome.ok_bind,
        afterItem_of_comma (by decide) hcomma hnext hspace hc, ih fuel _ hshort]
      simp

theorem array_of_reader (hread : Agrees read item) {cs rest : List Char} {w : Json}
    (h : arrayRest read cs = .ok (w, rest)) :
    ∃ v, Compound item ('[' :: cs) v rest ∧ w = canonical v := by
  have hcs := spaces_skip cs
  rw [arrayRest] at h
  split at h
  · cases h
  · rename_i c r hskip
    rw [hskip] at hcs
    split_ifs at h with hend
    · subst hend
      cases h
      exact ⟨.array [], .emptyArray hcs, by simp [canonical_array]⟩
    · obtain ⟨vs, hvs, rfl⟩ := items_of_reader hread h
      exact ⟨.array vs, .array hcs hvs, by simp [canonical_array]⟩

theorem reader_of_array (hread : Agrees read item) {cs cs' rest : List Char} {vs : List Json}
    (hcs : Spaces cs cs') (hvs : Items item cs' vs rest) :
    arrayRest read cs = .ok (canonical (.array vs), rest) := by
  obtain ⟨c, r, hcons, hspace, hc⟩ := hvs.starts hread
  subst hcons
  rw [arrayRest, skip_eq_of_spaces hcs (noSpaceHead_cons hspace r)]
  dsimp only
  rw [if_neg hc, reader_of_items hread hvs _ _ (List.length_cons ..).le, canonical_array]
  rfl

/-- The members of an object with canonical values. -/
def canonicalValues (ms : List (String × Json)) : List (String × Json) :=
  ms.map fun m => (m.1, canonical m.2)

/-- The reader gives the value at the start of the text and leaves the rest. -/
def IsReadBy (read : List Char → Reading) (cs : List Char) (v : Json) (rest : List Char) : Prop :=
  read cs = .ok (v, rest)

theorem member_of_membersRest {fuel : Nat} {acc : List (String × Json)} {cs rest : List Char}
    {w : Json} (h : membersRest read (fuel + 1) acc cs = .ok (w, rest)) :
    ∃ m mid, Member (IsReadBy read) cs m mid ∧
      afterItem '\x7d' .endInObject .objectEndExpected (ofMembers (m :: acc).reverse)
        (membersRest read fuel (m :: acc)) mid = .ok (w, rest) := by
  cases cs with
  | nil => cases h
  | cons q cs =>
      rw [membersRest] at h
      split_ifs at h with hquote
      subst hquote
      obtain ⟨⟨key, afterKey⟩, hstring, hcolon⟩ := Outcome.bind_eq_ok_iff.mp h
      obtain ⟨ks, hks, rfl⟩ := characters_of_stringRest hstring
      have hspaces := spaces_skip afterKey
      dsimp only at hcolon
      split at hcolon
      · cases hcolon
      rename_i c r hskip
      rw [hskip] at hspaces
      split_ifs at hcolon with hc
      subst hc
      obtain ⟨⟨v, mid⟩, hitem, hafter⟩ := Outcome.bind_eq_ok_iff.mp hcolon
      exact ⟨(String.ofList ks, v), mid, .intro hks hspaces (spaces_skip r) hitem, hafter⟩

theorem members_of_reader (hread : Agrees read item) {fuel : Nat}
    {acc : List (String × Json)} {cs rest : List Char} {w : Json}
    (h : membersRest read fuel acc cs = .ok (w, rest)) :
    ∃ ms, Members item cs ms rest ∧ w = ofMembers (acc.reverse ++ canonicalValues ms) := by
  induction fuel generalizing acc cs with
  | zero => cases h
  | succ fuel ih =>
      obtain ⟨⟨key, u⟩, mid, ⟨hkey, hcolon, hnext, hitem⟩, hafter⟩ := member_of_membersRest h
      obtain ⟨v, hv, rfl⟩ := hread.sound hitem
      have hmember := Member.intro hkey hcolon hnext hv
      rcases afterItem_cases hafter with ⟨hend, rfl⟩ | ⟨cs', next, hcomma, hspaces, hrest⟩
      · exact ⟨[_], .last hmember hend, by simp [canonicalValues]⟩
      · obtain ⟨ms, hms, rfl⟩ := ih hrest
        exact ⟨_ :: ms, .more hmember hcomma hspaces hms, by simp [canonicalValues]⟩

theorem Member.length_lt (hread : Agrees read item) {cs rest : List Char} {m : String × Json}
    (h : Member item cs m rest) : rest.length < cs.length := by
  obtain ⟨hkey, hcolon, hnext, hv⟩ := h
  have := hkey.length_lt
  have := hcolon.length_le
  have := hnext.length_le
  have := hread.length_le hv
  simp only [List.length_cons] at *
  omega

theorem Member.exists_head {cs rest : List Char} {m : String × Json} (h : Member item cs m rest) :
    ∃ r, cs = '"' :: r := by
  cases h
  exact ⟨_, rfl⟩

theorem Members.exists_head {cs rest : List Char} {ms : List (String × Json)}
    (h : Members item cs ms rest) : ∃ r, cs = '"' :: r := by
  cases h with
  | last hm => exact hm.exists_head
  | more hm => exact hm.exists_head

theorem Members.length_lt (hread : Agrees read item) {cs rest : List Char}
    {ms : List (String × Json)} (h : Members item cs ms rest) : rest.length < cs.length := by
  induction h with
  | last hm hend =>
      have := hm.length_lt hread
      have := hend.length_le
      simp only [List.length_cons] at *
      omega
  | more hm hcomma hnext hms ih =>
      have := hm.length_lt hread
      have := hcomma.length_le
      have := hnext.length_le
      simp only [List.length_cons] at *
      omega

/-- Reading one member leaves what follows it to the reader of the rest. -/
theorem membersRest_of_member (hread : Agrees read item) {cs mid : List Char}
    {m : String × Json} (hm : Member item cs m mid) (hmid : NoNumberHead mid) (fuel : Nat)
    (acc : List (String × Json)) :
    membersRest read (fuel + 1) acc cs =
      afterItem '\x7d' .endInObject .objectEndExpected
        (ofMembers ((m.1, canonical m.2) :: acc).reverse)
        (membersRest read fuel ((m.1, canonical m.2) :: acc)) mid := by
  obtain ⟨hkey, hcolon, hnext, hv⟩ := hm
  rw [membersRest, if_pos rfl, stringRest_of_characters hkey, Outcome.ok_bind]
  dsimp only
  rw [skip_eq_of_spaces hcolon (noSpaceHead_cons rfl _)]
  dsimp only
  rw [if_pos rfl, skip_eq_of_spaces hnext (hread.starts hv).noSpaceHead, hread.complete hv hmid]
  rfl

theorem reader_of_members (hread : Agrees read item) {cs rest : List Char}
    {ms : List (String × Json)} (h : Members item cs ms rest) :
    ∀ fuel acc, cs.length ≤ fuel →
      membersRest read fuel acc cs = .ok (ofMembers (acc.reverse ++ canonicalValues ms), rest) := by
  induction h with
  | @last cs mid rest m hm hend =>
      intro fuel acc hfuel
      have hpos := hm.length_lt hread
      obtain ⟨fuel, rfl⟩ : ∃ n, fuel = n + 1 := ⟨fuel - 1, by omega⟩
      have hmid := noNumberHead_of_spaces hend (noNumberHead_cons (by simp) rest)
      rw [membersRest_of_member hread hm hmid, afterItem_of_close rfl hend]
      simp [canonicalValues]
  | @more cs mid cs' next rest m ms hm hcomma hnext hms ih =>
      intro fuel acc hfuel
      have hpos := hm.length_lt hread
      obtain ⟨fuel, rfl⟩ : ∃ n, fuel = n + 1 := ⟨fuel - 1, by omega⟩
      have hmid := noNumberHead_of_spaces hcomma (noNumberHead_cons (by simp) cs')
      have hshort : next.length ≤ fuel := by
        have := hcomma.length_le
        have := hnext.length_le
        simp only [List.length_cons] at *
        omega
      obtain ⟨r, rfl⟩ := hms.exists_head
      rw [membersRest_of_member hread hm hmid,
        afterItem_of_comma (by decide) hcomma hnext rfl (by decide), ih fuel _ hshort]
      simp [canonicalValues]

theorem object_of_reader (hread : Agrees read item) {cs rest : List Char} {w : Json}
    (h : objectRest read cs = .ok (w, rest)) :
    ∃ v, Compound item ('\x7b' :: cs) v rest ∧ w = canonical v := by
  have hcs := spaces_skip cs
  rw [objectRest] at h
  split at h
  · cases h
  · rename_i c r hskip
    rw [hskip] at hcs
    split_ifs at h with hend
    · subst hend
      cases h
      exact ⟨.object [], .emptyObject hcs, rfl⟩
    · obtain ⟨ms, hms, rfl⟩ := members_of_reader hread h
      exact ⟨.object ms, .object hcs hms, by rw [canonical_object]; rfl⟩

theorem reader_of_object (hread : Agrees read item) {cs cs' rest : List Char}
    {ms : List (String × Json)} (hcs : Spaces cs cs') (hms : Members item cs' ms rest) :
    objectRest read cs = .ok (canonical (.object ms), rest) := by
  obtain ⟨r, hcons⟩ := hms.exists_head
  subst hcons
  rw [objectRest, skip_eq_of_spaces hcs (noSpaceHead_cons rfl r)]
  dsimp only
  rw [if_neg (by decide), reader_of_members hread hms _ _ (List.length_cons ..).le,
    canonical_object]
  rfl

end Compounds

theorem Compound.starts {item : List Char → Json → List Char → Prop} {cs rest : List Char}
    {v : Json} (h : Compound item cs v rest) : StartsValue cs := by
  cases h with
  | emptyArray | array | emptyObject | object => exact ⟨_, _, rfl, rfl, by decide⟩

theorem Compound.length_le {read : List Char → Reading}
    {item : List Char → Json → List Char → Prop} (hread : Agrees read item) {cs rest : List Char}
    {v : Json} (h : Compound item cs v rest) : rest.length ≤ cs.length := by
  cases h with
  | emptyArray hend | emptyObject hend =>
      have := hend.length_le
      simp only [List.length_cons] at *
      omega
  | array hcs hvs =>
      have := hcs.length_le
      have := hvs.length_lt hread
      simp only [List.length_cons] at *
      omega
  | object hcs hms =>
      have := hcs.length_le
      have := hms.length_lt hread
      simp only [List.length_cons] at *
      omega

theorem value_eq_scalar {levels : Nat} {cs : List Char}
    (h : ∀ r, cs ≠ '[' :: r ∧ cs ≠ '\x7b' :: r) : value levels cs = scalar cs := by
  cases cs with
  | nil => cases levels <;> rfl
  | cons c r =>
      have hbracket : c ≠ '[' := fun hc => (h r).1 (by rw [hc])
      have hbrace : c ≠ '\x7b' := fun hc => (h r).2 (by rw [hc])
      cases levels <;> simp [value, hbracket, hbrace]

theorem agrees_scalar : Agrees (value 0) Scalar where
  sound := by
    intro cs rest w h
    have hplain : scalar cs = .ok (w, rest) := by
      cases cs with
      | nil => exact h
      | cons c r =>
          rw [value] at h
          split_ifs at h
          exact h
    have := scalar_of_reader hplain
    exact ⟨w, this, this.canonical_eq.symm⟩
  complete := by
    intro cs v rest h hrest
    rw [value_eq_scalar h.starts.2, h.canonical_eq]
    exact reader_of_scalar h hrest
  length_le := Scalar.length_le
  starts := fun h => h.starts.1

theorem agrees_value (levels : Nat) : Agrees (value levels) (Value levels) := by
  induction levels with
  | zero => exact agrees_scalar
  | succ levels ih =>
      refine ⟨?_, ?_, ?_, ?_⟩
      · intro cs rest w h
        have hscalar : value (levels + 1) cs = scalar cs →
            ∃ v, Value (levels + 1) cs v rest ∧ w = canonical v := by
          intro hplain
          have := scalar_of_reader (hplain.symm.trans h)
          exact ⟨w, .inl this, this.canonical_eq.symm⟩
        cases cs with
        | nil => exact hscalar rfl
        | cons c r =>
            by_cases hbracket : c = '['
            · subst hbracket
              obtain ⟨v, hv, rfl⟩ := array_of_reader ih h
              exact ⟨v, .inr hv, rfl⟩
            · by_cases hbrace : c = '\x7b'
              · subst hbrace
                obtain ⟨v, hv, rfl⟩ := object_of_reader ih h
                exact ⟨v, .inr hv, rfl⟩
              · exact hscalar (by simp [value, hbracket, hbrace])
      · intro cs v rest h hrest
        rcases h with h | h
        · rw [value_eq_scalar h.starts.2, h.canonical_eq]
          exact reader_of_scalar h hrest
        · cases h with
          | emptyArray hend =>
              rw [value, if_pos rfl, arrayRest, skip_eq_of_spaces hend (noSpaceHead_cons rfl rest)]
              rfl
          | array hcs hvs => exact reader_of_array ih hcs hvs
          | emptyObject hend =>
              rw [value, if_neg (by decide), if_pos rfl, objectRest,
                skip_eq_of_spaces hend (noSpaceHead_cons rfl rest)]
              rfl
          | object hcs hms => exact reader_of_object ih hcs hms
      · rintro cs v rest (h | h)
        · exact h.length_le
        · exact h.length_le ih
      · rintro cs v rest (h | h)
        · exact h.starts.1
        · exact h.starts

/-- A text is read exactly if it is JSON, and gives the canonical form of its value. -/
theorem parse_eq_ok_iff {s : String} {w : Json} :
    parse s = .ok w ↔ ∃ v, TextOf v s ∧ w = canonical v := by
  have hall : parse s = .ok w ↔ readAll s.toList = .ok w := by
    rw [parse]
    cases readAll s.toList <;> simp
  rw [hall, readAll]
  constructor
  · intro h
    obtain ⟨⟨u, rest⟩, hvalue, hend⟩ := Outcome.bind_eq_ok_iff.mp h
    obtain ⟨v, hv, rfl⟩ := (agrees_value maxLevels).sound hvalue
    have hrest := spaces_skip rest
    dsimp only at hend
    split at hend
    · rename_i hskip
      rw [hskip] at hrest
      cases hend
      exact ⟨v, ⟨_, rest, spaces_skip s.toList, hv, hrest⟩, rfl⟩
    · cases hend
  · rintro ⟨v, ⟨cs, rest, hcs, hv, hrest⟩, rfl⟩
    have hagrees := agrees_value maxLevels
    have hend : NoNumberHead rest := noNumberHead_of_spaces hrest (by simp [NoNumberHead])
    rw [skip_eq_of_spaces hcs (hagrees.starts hv).noSpaceHead, hagrees.complete hv hend,
      Outcome.ok_bind]
    dsimp only
    rw [skip_eq_of_spaces hrest (by simp [NoSpaceHead])]

theorem parse_of_textOf {v : Json} {s : String} (h : TextOf v s) : parse s = .ok (canonical v) :=
  parse_eq_ok_iff.mpr ⟨v, h, rfl⟩

end ControlPanel.Json
