import Mathlib
import ControlPanel.Proofs.Json.Grammar

/-!
A number is read up to where no character continues it. In one direction the parts of a number are
known and its text is read; in the other a text that is read is split into such parts.
-/

namespace ControlPanel.Json

/-- The reading succeeds exactly when there is a value, with this value and this rest. -/
def Gives (reading : Reading) (v? : Option Json) (rest : List Char) : Prop :=
  ∀ v rest', reading = .ok (v, rest') ↔ v? = some v ∧ rest' = rest

theorem gives_ok (v : Json) (rest : List Char) : Gives (.ok (v, rest)) (some v) rest := by
  intro v' rest'
  constructor
  · intro h
    cases h
    exact ⟨rfl, rfl⟩
  · rintro ⟨h, rfl⟩
    cases h
    rfl

theorem gives_error (f : Fault) (rest : List Char) : Gives (.error f) none rest := by
  intro v rest'
  constructor
  · intro h
    cases h
  · rintro ⟨h, -⟩
    cases h

theorem realOf_gives (x : Binary64) (rest : List Char) :
    Gives (realOf x rest) (finite? x) rest := by
  rw [realOf, finite?]
  split_ifs
  · exact gives_ok _ rest
  · exact gives_error _ rest

theorem wholeOf_gives (negative : Bool) (n : Nat) (rest : List Char) :
    Gives (wholeOf negative n rest) (wholeValue? negative n) rest := by
  rw [wholeOf, wholeValue?, Nat.pow_eq, Nat.pow_eq]
  split_ifs
  · exact gives_ok _ rest
  · exact realOf_gives _ rest
  · exact gives_ok _ rest
  · exact realOf_gives _ rest

/-- The text does not start with a digit. -/
def NoDigitHead (cs : List Char) : Prop :=
  ∀ c r, cs = c :: r → c.isDigit = false

theorem takeWhile_digits {ds rest : List Char} (hds : AllDigits ds) (hrest : NoDigitHead rest) :
    (ds ++ rest).takeWhile Char.isDigit = ds := by
  rw [List.takeWhile_append_of_pos hds]
  cases rest with
  | nil => simp
  | cons c r => simp [hrest c r rfl]

theorem dropWhile_digits {ds rest : List Char} (hds : AllDigits ds) (hrest : NoDigitHead rest) :
    (ds ++ rest).dropWhile Char.isDigit = rest := by
  rw [List.dropWhile_append_of_pos hds]
  cases rest with
  | nil => rfl
  | cons c r => simp [hrest c r rfl]

/-- Every text splits into the digits at its start and a rest that starts with none. -/
theorem exists_digits_append (cs : List Char) :
    ∃ ds rest, cs = ds ++ rest ∧ AllDigits ds ∧ NoDigitHead rest := by
  refine ⟨cs.takeWhile Char.isDigit, cs.dropWhile Char.isDigit,
    List.takeWhile_append_dropWhile.symm, ?_, ?_⟩
  · intro c hc
    exact List.all_eq_true.mp List.all_takeWhile c hc
  · intro c r h
    have := List.head?_dropWhile_not Char.isDigit cs
    simpa [h] using this

theorem exponentValue_digits {ds rest : List Char} (hds : AllDigits ds)
    (hrest : NoDigitHead rest) :
    ∀ n, n ≤ maxExponent →
      if Nat.ofDigitChars 10 ds n ≤ maxExponent then
        exponentValue n (ds ++ rest) = .ok (Nat.ofDigitChars 10 ds n)
      else ∃ after, exponentValue n (ds ++ rest) = .error after := by
  induction ds with
  | nil =>
      intro n hn
      rw [Nat.ofDigitChars_nil, if_pos hn]
      cases rest with
      | nil => rfl
      | cons c r => simp [exponentValue, hrest c r rfl]
  | cons c ds ih =>
      intro n hn
      have hc : c.isDigit = true := hds c (by simp)
      rw [Nat.ofDigitChars_cons, List.cons_append, exponentValue, if_pos hc]
      dsimp only
      by_cases hlarge : maxExponent < 10 * n + (c.toNat - '0'.toNat)
      · rw [if_pos hlarge, Nat.ofDigitChars_eq_ofDigitChars_zero, if_neg]
        · exact ⟨_, rfl⟩
        · have : 0 < 10 ^ ds.length := by positivity
          nlinarith
      · rw [if_neg hlarge]
        exact ih (fun d hd => hds d (by simp [hd])) _ (Nat.not_lt.mp hlarge)

theorem exponentDigits_gives (negative : Bool) (digits places : Nat) {p : Power}
    {rest : List Char} (hne : p.digits ≠ []) (hds : AllDigits p.digits)
    (hrest : NoDigitHead rest) :
    Gives (exponentDigits negative digits places (decide (p.sign = ['-'])) (p.digits ++ rest))
      (scaledValue? negative digits places p) rest := by
  have hvalue := exponentValue_digits hds hrest 0 (Nat.zero_le _)
  have hdrop := dropWhile_digits hds hrest
  obtain ⟨c, cs, hcons⟩ := List.exists_cons_of_ne_nil hne
  have hc : c.isDigit = true := hds c (by simp [hcons])
  rw [scaledValue?]
  change if digitsValue p.digits ≤ maxExponent then _ = Except.ok (digitsValue p.digits) else _
    at hvalue
  rw [hcons, List.cons_append] at hvalue hdrop ⊢
  rw [exponentDigits, if_pos hc, hdrop]
  dsimp only
  by_cases hsmall : digitsValue (c :: cs) ≤ maxExponent
  · rw [if_pos hsmall] at hvalue
    rw [hvalue, if_pos hsmall]
    simp only [decide_eq_true_eq]
    exact realOf_gives _ rest
  · rw [if_neg hsmall] at hvalue
    obtain ⟨after, hafter⟩ := hvalue
    rw [hafter, if_neg hsmall]
    simp only [decide_eq_true_eq]
    split_ifs
    · exact gives_ok _ rest
    · exact gives_error _ rest

theorem exponentRest_digits {ds : List Char} (hds : AllDigits ds) (hne : ds ≠ [])
    (negative : Bool) (digits places : Nat) (rest : List Char) :
    exponentRest negative digits places (ds ++ rest) =
      exponentDigits negative digits places false (ds ++ rest) := by
  obtain ⟨c, cs, rfl⟩ := List.exists_cons_of_ne_nil hne
  have hc : c.isDigit = true := hds c (by simp)
  rw [List.cons_append, exponentRest.eq_3]
  · rintro cs' h
    cases h
    cases hc
  · rintro cs' h
    cases h
    cases hc

theorem exponentRest_gives (negative : Bool) (digits places : Nat) {p : Power}
    {rest : List Char} (hp : p.WellFormed) (hrest : NoDigitHead rest) :
    Gives (exponentRest negative digits places (p.sign ++ (p.digits ++ rest)))
      (scaledValue? negative digits places p) rest := by
  have hgives := exponentDigits_gives negative digits places hp.nonempty hp.digits hrest
  obtain ⟨mark, sign, ds⟩ := p
  obtain ⟨-, hsign, hne, hds⟩ := hp
  dsimp only at *
  rcases hsign with rfl | rfl | rfl
  · rw [List.nil_append, exponentRest_digits hds hne]
    exact hgives
  · exact hgives
  · exact hgives

/-- The text that follows a number of this form does not continue it. -/
def Ends (part : Option (List Char)) (power : Option Power) (cs : List Char) : Prop :=
  NoDigitHead cs ∧
    (power = none → ∀ c r, cs = c :: r → c ≠ 'e' ∧ c ≠ 'E' ∧ (part = none → c ≠ '.'))

theorem fractionEnd_gives {negative : Bool} {digits places : Nat} {part : List Char}
    {power : Option Power} {rest : List Char} (hpower : ∀ p, power = some p → p.WellFormed)
    (hrest : Ends (some part) power rest) :
    Gives (fractionEnd negative digits places (powerChars power ++ rest))
      (fractionValue? negative digits places power) rest := by
  obtain ⟨hdigit, hmark⟩ := hrest
  cases power with
  | none =>
      have hplain : fractionEnd negative digits places rest =
          realOf (.ofDecimal negative digits (-(places : Int))) rest := by
        rw [fractionEnd.eq_3]
        · rintro cs rfl
          exact (hmark rfl _ _ rfl).1 rfl
        · rintro cs rfl
          exact (hmark rfl _ _ rfl).2.1 rfl
      rw [powerChars, List.nil_append, hplain]
      exact realOf_gives _ rest
  | some p =>
      have hp := hpower p rfl
      have hgives := exponentRest_gives negative digits places hp hdigit
      rw [powerChars, List.cons_append, List.append_assoc]
      rcases hp.mark with hmark | hmark <;> rw [hmark] <;> exact hgives

theorem fractionRest_gives (negative : Bool) (whole : List Char) {part : List Char}
    {power : Option Power} {rest : List Char} (hne : part ≠ []) (hpart : AllDigits part)
    (hpower : ∀ p, power = some p → p.WellFormed) (hrest : Ends (some part) power rest) :
    Gives (fractionRest negative whole (part ++ (powerChars power ++ rest)))
      (fractionValue? negative (digitsValue (whole ++ part)) part.length power) rest := by
  have hhead : NoDigitHead (powerChars power ++ rest) := by
    cases power with
    | none => exact hrest.1
    | some p =>
        intro c r h
        cases h
        rcases (hpower p rfl).mark with hmark | hmark <;> rw [hmark] <;> rfl
  rw [fractionRest, takeWhile_digits hpart hhead, dropWhile_digits hpart hhead]
  obtain ⟨c, cs, rfl⟩ := List.exists_cons_of_ne_nil hne
  exact fractionEnd_gives hpower hrest

theorem wholeEnd_gives {n : Numeral} {rest : List Char} (hn : n.WellFormed)
    (hrest : Ends n.part n.power rest) :
    Gives (wholeEnd n.negative n.whole (partChars n.part ++ (powerChars n.power ++ rest)))
      n.value? rest := by
  obtain ⟨negative, whole, part, power⟩ := n
  obtain ⟨-, hpart, hpower⟩ := hn
  dsimp only at *
  cases part with
  | some part =>
      obtain ⟨hne, hdigits⟩ := hpart part rfl
      have hgives := fractionRest_gives negative whole hne hdigits hpower hrest
      cases power <;> exact hgives
  | none =>
      cases power with
      | some p =>
          have hp := hpower p rfl
          have hgives := exponentRest_gives negative (digitsValue (whole ++ [])) 0 hp hrest.1
          rw [List.append_nil] at hgives
          rw [partChars, List.nil_append, powerChars, List.cons_append, List.append_assoc]
          simp only [Numeral.value?, fractionValue?, Numeral.digits, Numeral.places,
            Option.getD_none, List.append_nil, List.length_nil]
          rcases hp.mark with hmark | hmark <;> rw [hmark] <;> exact hgives
      | none =>
          have hplain : wholeEnd negative whole rest =
              wholeOf negative (digitsValue whole) rest := by
            rw [wholeEnd.eq_4]
            · rintro cs rfl
              exact (hrest.2 rfl _ _ rfl).2.2 rfl rfl
            · rintro cs rfl
              exact (hrest.2 rfl _ _ rfl).1 rfl
            · rintro cs rfl
              exact (hrest.2 rfl _ _ rfl).2.1 rfl
          rw [partChars, powerChars, List.nil_append, List.nil_append, hplain]
          simpa [Numeral.value?, Numeral.digits] using
            wholeOf_gives negative (digitsValue whole) rest

theorem Ends.noDigitHead_append {part : Option (List Char)} {power : Option Power}
    {rest : List Char} (hpower : ∀ p, power = some p → p.WellFormed)
    (hrest : Ends part power rest) :
    NoDigitHead (partChars part ++ (powerChars power ++ rest)) := by
  cases part with
  | some part =>
      intro c r h
      cases h
      rfl
  | none =>
      cases power with
      | some p =>
          intro c r h
          cases h
          rcases (hpower p rfl).mark with hmark | hmark <;> rw [hmark] <;> rfl
      | none => exact hrest.1

theorem unsigned_gives {n : Numeral} {rest : List Char} (hn : n.WellFormed)
    (hrest : Ends n.part n.power rest) :
    Gives (unsigned n.negative (n.sizeChars ++ rest)) n.value? rest := by
  have hgives := wholeEnd_gives hn hrest
  have hhead := hrest.noDigitHead_append hn.power
  rw [Numeral.sizeChars, List.append_assoc, List.append_assoc]
  generalize partChars n.part ++ (powerChars n.power ++ rest) = tail at hgives hhead
  generalize n.value? = v? at hgives ⊢
  obtain ⟨negative, whole, part, power⟩ := n
  obtain ⟨hwhole, -, -⟩ := hn
  dsimp only at *
  cases hwhole with
  | zero =>
      rw [List.cons_append, List.nil_append, unsigned.eq_def]
      cases tail with
      | nil => exact hgives
      | cons d r =>
          simp only [if_true, hhead d r rfl, Bool.false_eq_true, if_false]
          exact hgives
  | digits hc hne hcs =>
      rw [List.cons_append, unsigned.eq_def]
      simp only [hne, hc, if_true, if_false, takeWhile_digits hcs hhead,
        dropWhile_digits hcs hhead]
      exact hgives

theorem exists_power_of_exponentDigits (sign : List Char) {negative below : Bool}
    {digits places : Nat} {cs rest : List Char} {v : Json} {mark : Char}
    (hmark : mark = 'e' ∨ mark = 'E') (hsign : sign = [] ∨ sign = ['+'] ∨ sign = ['-'])
    (hbelow : decide (sign = ['-']) = below)
    (h : exponentDigits negative digits places below cs = .ok (v, rest)) :
    ∃ p : Power, p.WellFormed ∧ mark :: (sign ++ cs) = powerChars (some p) ++ rest ∧
      scaledValue? negative digits places p = some v := by
  obtain ⟨ds, rest', rfl, hds, hrest⟩ := exists_digits_append cs
  have hne : ds ≠ [] := by
    rintro rfl
    cases rest' with
    | nil => cases h
    | cons c r => simp [exponentDigits, hrest c r rfl] at h
  have hgives := exponentDigits_gives negative digits places (p := ⟨mark, sign, ds⟩) hne hds
    hrest
  rw [hbelow] at hgives
  obtain ⟨hvalue, rfl⟩ := (hgives v rest).mp h
  exact ⟨⟨mark, sign, ds⟩, ⟨hmark, hsign, hne, hds⟩, by simp [powerChars], hvalue⟩

theorem exists_power_of_exponentRest {negative : Bool} {digits places : Nat}
    {cs rest : List Char} {v : Json} {mark : Char} (hmark : mark = 'e' ∨ mark = 'E')
    (h : exponentRest negative digits places cs = .ok (v, rest)) :
    ∃ p : Power, p.WellFormed ∧ mark :: cs = powerChars (some p) ++ rest ∧
      scaledValue? negative digits places p = some v := by
  rw [exponentRest.eq_def] at h
  split at h
  · exact exists_power_of_exponentDigits ['+'] hmark (by simp) rfl h
  · exact exists_power_of_exponentDigits ['-'] hmark (by simp) rfl h
  · exact exists_power_of_exponentDigits [] hmark (by simp) rfl h

theorem exists_power_of_fractionEnd {negative : Bool} {digits places : Nat}
    {cs rest : List Char} {v : Json} (h : fractionEnd negative digits places cs = .ok (v, rest)) :
    ∃ power, (∀ p, power = some p → p.WellFormed) ∧ cs = powerChars power ++ rest ∧
      fractionValue? negative digits places power = some v := by
  rw [fractionEnd.eq_def] at h
  split at h
  · obtain ⟨p, hp, hcs, hvalue⟩ := exists_power_of_exponentRest (.inl rfl) h
    exact ⟨some p, by simpa using hp, hcs, hvalue⟩
  · obtain ⟨p, hp, hcs, hvalue⟩ := exists_power_of_exponentRest (.inr rfl) h
    exact ⟨some p, by simpa using hp, hcs, hvalue⟩
  · obtain ⟨hvalue, rfl⟩ := (realOf_gives _ _ v rest).mp h
    exact ⟨none, by simp, rfl, hvalue⟩

theorem exists_parts_of_wholeEnd {negative : Bool} {whole cs rest : List Char} {v : Json}
    (hwhole : Whole whole) (hcs : NoDigitHead cs)
    (h : wholeEnd negative whole cs = .ok (v, rest)) :
    ∃ n : Numeral, n.negative = negative ∧ n.whole = whole ∧ n.WellFormed ∧
      cs = partChars n.part ++ (powerChars n.power ++ rest) ∧ n.value? = some v := by
  rw [wholeEnd.eq_def] at h
  split at h
  · rename_i cs
    obtain ⟨part, cs', rfl, hpart, hcs'⟩ := exists_digits_append cs
    rw [fractionRest, takeWhile_digits hpart hcs', dropWhile_digits hpart hcs'] at h
    split at h
    · cases h
    · cases h
    · rename_i c part
      obtain ⟨power, hpower, rfl, hvalue⟩ := exists_power_of_fractionEnd h
      refine ⟨⟨negative, whole, some (c :: part), power⟩, rfl, rfl, ⟨hwhole, ?_, hpower⟩, rfl, ?_⟩
      · rintro ds hds
        cases hds
        exact ⟨List.cons_ne_nil _ _, hpart⟩
      · cases power <;> exact hvalue
  · obtain ⟨p, hp, hcons, hvalue⟩ := exists_power_of_exponentRest (.inl rfl) h
    refine ⟨⟨negative, whole, none, some p⟩, rfl, rfl, ⟨hwhole, by simp, by simpa using hp⟩, hcons,
      ?_⟩
    simpa [Numeral.value?, fractionValue?, Numeral.digits, Numeral.places] using hvalue
  · obtain ⟨p, hp, hcons, hvalue⟩ := exists_power_of_exponentRest (.inr rfl) h
    refine ⟨⟨negative, whole, none, some p⟩, rfl, rfl, ⟨hwhole, by simp, by simpa using hp⟩, hcons,
      ?_⟩
    simpa [Numeral.value?, fractionValue?, Numeral.digits, Numeral.places] using hvalue
  · obtain ⟨hvalue, rfl⟩ := (wholeOf_gives _ _ _ v rest).mp h
    refine ⟨⟨negative, whole, none, none⟩, rfl, rfl, ⟨hwhole, by simp, by simp⟩, rfl, ?_⟩
    simpa [Numeral.value?, Numeral.digits] using hvalue

theorem unsigned_of_reader {negative : Bool} {cs rest : List Char} {v : Json}
    (h : unsigned negative cs = .ok (v, rest)) : Unsigned negative cs v rest := by
  have hsplit : ∃ whole tail, cs = whole ++ tail ∧ Whole whole ∧ NoDigitHead tail ∧
      wholeEnd negative whole tail = .ok (v, rest) := by
    rw [unsigned.eq_def] at h
    split at h
    · cases h
    · rename_i c cs
      split_ifs at h with hzero hdigit
      · subst hzero
        split at h
        · rename_i d r
          split_ifs at h with hd
          exact ⟨['0'], d :: r, rfl, .zero, by simpa [NoDigitHead] using hd, h⟩
        · exact ⟨['0'], [], rfl, .zero, by simp [NoDigitHead], h⟩
      · obtain ⟨ds, tail, rfl, hds, htail⟩ := exists_digits_append cs
        rw [takeWhile_digits hds htail, dropWhile_digits hds htail] at h
        exact ⟨c :: ds, tail, rfl, .digits hdigit hzero hds, htail, h⟩
  obtain ⟨whole, tail, rfl, hwhole, htail, htailRead⟩ := hsplit
  obtain ⟨n, hsign, rfl, hn, rfl, hvalue⟩ := exists_parts_of_wholeEnd hwhole htail htailRead
  have := Unsigned.intro rest hsign hn hvalue
  rwa [Numeral.sizeChars, List.append_assoc, List.append_assoc] at this

/-- The text does not continue any number. -/
def NoNumberHead (cs : List Char) : Prop :=
  ∀ c r, cs = c :: r → c.isDigit = false ∧ c ≠ '.' ∧ c ≠ 'e' ∧ c ≠ 'E'

theorem reader_of_unsigned {negative : Bool} {cs rest : List Char} {v : Json}
    (h : Unsigned negative cs v rest) (hrest : NoNumberHead rest) :
    unsigned negative cs = .ok (v, rest) := by
  obtain ⟨_, hsign, hn, hvalue⟩ := h
  subst hsign
  refine (unsigned_gives hn ⟨fun c r h => (hrest c r h).1, fun _ c r h => ?_⟩ v rest).mpr
    ⟨hvalue, rfl⟩
  obtain ⟨-, hpoint, hsmall, hlarge⟩ := hrest c r h
  exact ⟨hsmall, hlarge, fun _ => hpoint⟩

theorem Unsigned.exists_head {negative : Bool} {cs rest : List Char} {v : Json}
    (h : Unsigned negative cs v rest) : ∃ c r, cs = c :: r ∧ c.isDigit = true := by
  obtain ⟨_, -, hn, -⟩ := h
  have hwhole := hn.whole
  rw [Numeral.sizeChars]
  generalize Numeral.whole _ = whole at hwhole ⊢
  cases hwhole with
  | zero => exact ⟨_, _, rfl, rfl⟩
  | digits hc _ _ => exact ⟨_, _, rfl, hc⟩

theorem Unsigned.length_le {negative : Bool} {cs rest : List Char} {v : Json}
    (h : Unsigned negative cs v rest) : rest.length ≤ cs.length := by
  obtain ⟨_, -, -, -⟩ := h
  simp

theorem real_of_finite? {x : Binary64} {v : Json} (h : finite? x = some v) :
    v = .real x ∧ x.isFinite = true := by
  rw [finite?] at h
  split_ifs at h with hx
  cases h
  exact ⟨rfl, hx⟩

/-- The value of a number is a whole one of 64 bits, or finite. -/
theorem Numeral.number_of_value? {n : Numeral} {v : Json} (h : n.value? = some v) :
    (∃ k, v = .whole k ∧ k.natAbs < 2 ^ 64) ∨ ∃ x, v = .real x ∧ x.isFinite = true := by
  have hwhole : ∀ negative digits, wholeValue? negative digits = some v →
      (∃ k, v = .whole k ∧ k.natAbs < 2 ^ 64) ∨ ∃ x, v = .real x ∧ x.isFinite = true := by
    intro negative digits h
    rw [wholeValue?] at h
    split_ifs at h
    · cases h
      exact .inl ⟨_, rfl, by omega⟩
    · exact .inr ⟨_, real_of_finite? h⟩
    · cases h
      exact .inl ⟨_, rfl, by omega⟩
    · exact .inr ⟨_, real_of_finite? h⟩
  have hfraction : ∀ power, fractionValue? n.negative n.digits n.places power = some v →
      (∃ k, v = .whole k ∧ k.natAbs < 2 ^ 64) ∨ ∃ x, v = .real x ∧ x.isFinite = true := by
    intro power h
    cases power with
    | none => exact .inr ⟨_, real_of_finite? h⟩
    | some p =>
        simp only [fractionValue?, scaledValue?] at h
        split_ifs at h
        · exact .inr ⟨_, real_of_finite? h⟩
        · exact .inr ⟨_, real_of_finite? h⟩
        · cases h
          refine .inr ⟨_, rfl, ?_⟩
          cases n.negative <;> decide
  rw [Numeral.value?] at h
  split at h
  · exact hwhole _ _ h
  · exact hfraction _ h

end ControlPanel.Json
