import ControlPanel.Proofs.Json.Numerals
import ControlPanel.Proofs.Number.Ties
import ControlPanel.Json.Printer
import ControlPanel.Script.Literal

namespace ControlPanel

open Binary64

namespace Json.Numeral

variable {n : Numeral} {x : Binary64}

/-- The numeral has no exponent, and no zero at the end of the digits after the point. -/
structure IsPlain (n : Numeral) : Prop where
  well_formed : n.WellFormed
  no_power : n.power = none
  last_digit : ∀ ds, n.part = some ds → ds.getLast? ≠ some '0'

theorem rational_eq_along (hsign : n.negative = x.isNegative) :
    n.rational = x.along n.decimal.value := by
  rw [along, rational, hsign]

end Json.Numeral

open Json

/-- The numeral of a finite number in a script. -/
theorem exists_script_numeral {x : Binary64} (hfinite : x.isFinite = true) :
    ∃ n : Numeral, n.chars = x.scriptChars ∧ n.IsPlain ∧ IsShortest n.rational x ∧
      (x.isZero = false → n.rational = x.along (x.shortest .awayFromZero).value) := by
  cases hzero : x.isZero with
  | true =>
      have hvalue : (Numeral.ofParts false ['0'] [] none).rational = 0 := by
        rw [Numeral.rational, Numeral.decimal_value_ofParts]
        simp [Decimal.placedValue, Nat.ofDigitChars_cons, Numeral.ofParts]
      have hplain : (Numeral.ofParts false ['0'] [] none).IsPlain :=
        ⟨Numeral.wellFormed_ofParts_none .zero (by simp [AllDigits]), rfl,
          by simp [Numeral.ofParts]⟩
      refine ⟨.ofParts false ['0'] [] none, ?_, hplain, ?_, by simp⟩
      · rw [scriptChars_of_isZero hzero]
        rfl
      · rw [hvalue]
        exact isShortest_zero hfinite hzero
  | false =>
      have hx := magnitude_pos hzero
      obtain ⟨n, hsign, hn, hchars, hpower, hpart, hvalue⟩ :=
        Numeral.exists_plain x.isNegative (digits_shortest_pos hzero .awayFromZero)
      have hrational := Numeral.rational_eq_along hsign
      rw [hvalue] at hrational
      refine ⟨n, ?_, ⟨hn, hpower, fun ds hds hlast => ?_⟩, ?_, fun _ => hrational⟩
      · rw [Numeral.chars_eq_signed hsign, hchars, scriptChars, if_neg (by simp [hzero])]
      · rw [hpart ds hds] at hlast
        have hdigit := Decimal.getLast?_placed hlast
        exact digitChar_ne_zero (shortest_last_digit hfinite hx .awayFromZero)
          (Nat.mod_lt _ (by norm_num)) hdigit.symm
      · rw [hrational]
        exact isShortest_shortest hfinite hx .awayFromZero

/-- The numeral of a finite number other than zero in a saved project. -/
theorem exists_saved_numeral {x : Binary64} (hfinite : x.isFinite = true)
    (hzero : x.isZero = false) :
    ∃ m : Numeral, m.chars = x.savedChars ∧ m.WellFormed ∧ IsShortest m.rational x ∧
      m.rational = x.along (x.shortest .toEven).value := by
  obtain ⟨m, hsign, hm, hsaved, -, -, hvalue⟩ := Numeral.exists_saved hfinite
  have hrational := Numeral.rational_eq_along hsign
  rw [hvalue, hzero, if_neg (by simp)] at hrational
  refine ⟨m, hsaved, hm, ?_, hrational⟩
  rw [hrational]
  exact isShortest_shortest hfinite (magnitude_pos hzero) .toEven

/-- A script and a saved project write a finite number with the fewest digits that read back as it;
what is not finite has no literal. Both write the same decimal, unless the number lies half-way
between two of the shortest ones: then the script has the larger one in size, and the saved project
the one with the even last digit. -/
theorem Literal.number_shortest (x : Binary64) :
    (x.isFinite = false → Literal.number x = .error ⟨x⟩) ∧
    (x.isFinite = true → ∃ (text : String) (n : Numeral), Literal.number x = .ok text ∧
      text.toList = n.chars ∧ n.IsPlain ∧ IsShortest n.rational x ∧
      (x.isZero = true → text = "0") ∧
      (x.isZero = false → ∃ m : Numeral, (∀ level, (Json.real x).chars level = m.chars) ∧
        m.WellFormed ∧ IsShortest m.rational x ∧
        (n.rational = m.rational ∨ ∃ d, x.IsHalfway d) ∧
        ∀ d, x.IsHalfway d → n.rational = x.along d.next.value ∧
          m.rational = x.along (if d.digits % 2 = 0 then d else d.next).value)) := by
  refine ⟨fun hinfinite => ?_, fun hfinite => ?_⟩
  · rw [Literal.number, if_neg (by simp [hinfinite])]
  · obtain ⟨n, hchars, hplain, hshortest, hscript⟩ := exists_script_numeral hfinite
    refine ⟨_, n, if_pos hfinite, ?_, hplain, hshortest, fun hzero => ?_, fun hzero => ?_⟩
    · rw [String.toList_ofList, hchars]
    · rw [scriptChars_of_isZero hzero]
    · obtain ⟨m, hchars', hm, hshortest', hsaved⟩ := exists_saved_numeral hfinite hzero
      have hscript := hscript hzero
      refine ⟨m, fun level => ?_, hm, hshortest', ?_, fun d hd => ⟨?_, ?_⟩⟩
      · rw [Json.chars, if_pos hfinite, hchars']
      · rw [hscript, hsaved]
        exact (shortest_eq_or_halfway hfinite (magnitude_pos hzero)).imp_left (congrArg x.along)
      · rw [hscript, hd.shortest_awayFromZero]
      · rw [hsaved, hd.shortest_toEven]

/-- The number `2 ^ -25` lies half-way between two decimals of seventeen digits. -/
def halfway : Binary64 := ⟨0x3E60000000000000⟩

theorem isHalfway_halfway : halfway.IsHalfway ⟨29802322387695312, -24⟩ := by
  have hfinite : halfway.isFinite = true := by decide +kernel
  have hx : 0 < halfway.magnitude := by decide +kernel
  have heven : halfway.shortest .toEven = ⟨29802322387695312, -24⟩ := by decide +kernel
  have haway : halfway.shortest .awayFromZero = ⟨29802322387695313, -24⟩ := by decide +kernel
  have hneighbours : halfway.neighbours (-24) = (29802322387695312, .eq) := by decide +kernel
  refine ⟨?_, ?_, ?_⟩
  · rw [← heven]
    exact isShortest_shortest hfinite hx .toEven
  · rw [Decimal.next, ← haway]
    exact isShortest_shortest hfinite hx .awayFromZero
  · rw [abs_value, neighbours_eq_half_iff.mp hneighbours, Decimal.value_add_next]

/-- Half-way between two decimals a script and a saved project write different ones. -/
theorem Literal.number_halfway :
    halfway.isFinite = true ∧ halfway.isZero = false ∧
    halfway.IsHalfway ⟨29802322387695312, -24⟩ ∧
    Literal.number halfway = .ok "0.000000029802322387695313" ∧
    (Json.real halfway).pretty = "2.9802322387695312e-8" ∧
    ∃ n m : Numeral, n.WellFormed ∧ m.WellFormed ∧
      n.chars = "0.000000029802322387695313".toList ∧ m.chars = "2.9802322387695312e-8".toList ∧
      n.rational ≠ m.rational := by
  obtain ⟨n, hn⟩ : ∃ n, n =
    Numeral.ofParts false ['0'] "000000029802322387695313".toList none := ⟨_, rfl⟩
  obtain ⟨m, hm⟩ : ∃ m, m =
    Numeral.ofParts false ['2'] "9802322387695312".toList (some (writtenPower (-8))) := ⟨_, rfl⟩
  have hdigits : ∀ s : String, s.toList.all Char.isDigit = true → AllDigits s.toList :=
    fun s hs => List.all_eq_true.mp hs
  have hscript : n.negative = false ∧ n.decimal = ⟨29802322387695313, -24⟩ := by
    rw [hn]
    exact ⟨rfl, by decide +kernel⟩
  have hsaved : m.negative = false ∧ m.decimal = ⟨29802322387695312, -24⟩ := by
    rw [hm]
    exact ⟨rfl, by decide +kernel⟩
  refine ⟨by decide +kernel, by decide +kernel, isHalfway_halfway, by decide +kernel,
    by decide +kernel, n, m, ?_, ?_, ?_, ?_, ?_⟩
  · rw [hn]
    exact Numeral.wellFormed_ofParts_none .zero (hdigits _ (by decide +kernel))
  · rw [hm]
    refine Numeral.wellFormed_ofParts (.digits (by decide) (by decide) (by simp [AllDigits]))
      (hdigits _ (by decide +kernel)) ?_
    rintro p ⟨⟩
    exact writtenPower_wellFormed _
  · rw [hn]
    decide +kernel
  · rw [hm]
    decide +kernel
  · rw [Numeral.rational, Numeral.rational, hscript.1, hsaved.1, hscript.2, hsaved.2,
      Decimal.value, Decimal.value]
    norm_num

end ControlPanel
