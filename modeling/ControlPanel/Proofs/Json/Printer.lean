import ControlPanel.Json.Printer
import ControlPanel.Proofs.Json.Numbers
import ControlPanel.Proofs.Json.Numerals

namespace ControlPanel.Json

section Strings

theorem hexUnit?_control {n : Nat} (hn : n < 32) :
    hexUnit? '0' '0' (Nat.digitChar (n / 16)) (Nat.digitChar (n % 16)) = some n := by
  revert n
  decide

theorem characters_escape (c : Char) {cs vs rest : List Char} (hcs : Characters cs vs rest) :
    Characters (escape c ++ cs) (c :: vs) rest := by
  rw [escape.eq_def]
  split
  · exact .letter rfl hcs
  · exact .letter rfl hcs
  · exact .letter rfl hcs
  · exact .letter rfl hcs
  · exact .letter rfl hcs
  · exact .letter rfl hcs
  · exact .letter rfl hcs
  · rename_i hquote hslash _ _ _ _ _
    split_ifs with hcontrol
    · have hunit := Characters.unit (hexUnit?_control hcontrol) (.inl (by omega)) hcs
      rwa [Char.ofNat_toNat] at hunit
    · exact .plain hquote hslash (by omega) hcs

theorem characters_textChars (s : String) (rest : List Char) :
    Characters (s.toList.flatMap escape ++ '"' :: rest) s.toList rest := by
  induction s.toList with
  | nil => exact .close rest
  | cons c cs ih =>
      rw [List.flatMap_cons, List.append_assoc]
      exact characters_escape c ih

theorem textChars_append (s : String) (rest : List Char) :
    textChars s ++ rest = '"' :: (s.toList.flatMap escape ++ '"' :: rest) := by
  simp [textChars]

end Strings

section Numbers

/-- A numeral with a point or an exponent has the value of the finite number nearest to it. -/
theorem Numeral.value?_of_isNearest {n : Numeral} {x : Binary64} (hfinite : x.isFinite = true)
    (hsign : n.negative = x.isNegative) (hmarked : n.part ≠ none ∨ n.power ≠ none)
    (hexponent : n.exponent.natAbs ≤ maxExponent)
    (hnearest : Binary64.IsNearest n.decimal.value x.magnitude) : n.value? = some (.real x) := by
  have hread : Binary64.ofDecimal n.negative n.digits (n.exponent - n.places) = x := by
    rw [hsign]
    exact Binary64.ofDecimal_eq_of_isNearest hfinite hnearest
  have hvalue : fractionValue? n.negative n.digits n.places n.power = some (.real x) := by
    rw [exponent] at hexponent hread
    cases hpower : n.power with
    | none =>
        simp only [hpower, zero_sub] at hread
        rw [fractionValue?, hread, finite?, if_pos hfinite]
    | some p =>
        simp only [hpower] at hexponent hread
        have hle : digitsValue p.digits ≤ maxExponent := by
          split_ifs at hexponent <;> omega
        rw [fractionValue?, scaledValue?, if_pos hle, hread, finite?, if_pos hfinite]
  rw [value?]
  split
  · rename_i hpart hpower
    exact absurd hmarked (by simp [hpart, hpower])
  · exact hvalue

theorem scalar_savedChars {x : Binary64} (hfinite : x.isFinite = true) (rest : List Char) :
    Scalar (x.savedChars ++ rest) (.real x) rest := by
  obtain ⟨n, hsign, hn, hchars, hmarked, hexponent, hvalue⟩ := Numeral.exists_saved hfinite
  have hnearest : Binary64.IsNearest n.decimal.value x.magnitude := by
    rw [hvalue]
    split_ifs with hzero
    · rw [Binary64.isZero, beq_iff_eq] at hzero
      rw [hzero, ← Binary64.sizeAt_zero]
      exact Binary64.isNearest_sizeAt 0
    · exact x.isNearest_shortest .toEven
  have hunsigned := Unsigned.intro rest hsign hn
    (Numeral.value?_of_isNearest hfinite hsign hmarked hexponent hnearest)
  rw [← hchars, Numeral.chars, hsign]
  cases hnegative : x.isNegative
  · rw [hnegative] at hunsigned
    exact .positive hunsigned
  · rw [hnegative] at hunsigned
    exact .negative hunsigned

theorem scalar_wholeChars {n : Int} (hlow : -2 ^ 63 ≤ n) (hhigh : n < 2 ^ 64)
    (rest : List Char) : Scalar (wholeChars n ++ rest) (.whole n) rest := by
  have hwhole : ∀ (negative : Bool) (k : Nat) (v : Json), wholeValue? negative k = some v →
      Unsigned negative (Nat.toDigits 10 k ++ rest) v rest := by
    intro negative k v hv
    have hdigits : digitsValue (Nat.toDigits 10 k) = k := Nat.ofDigitChars_ten_toDigits
    have hunsigned := Unsigned.intro rest rfl (n := ⟨negative, Nat.toDigits 10 k, none, none⟩)
      (v := v) ⟨whole_toDigits k, by simp, by simp⟩
      (by simpa [Numeral.value?, Numeral.digits, hdigits] using hv)
    simpa [Numeral.sizeChars, partChars, powerChars] using hunsigned
  cases n with
  | ofNat k =>
      refine .positive (hwhole false k _ ?_)
      have hk : k < 2 ^ 64 := by
        rw [Int.ofNat_eq_natCast] at hhigh
        omega
      rw [wholeValue?, if_neg (by simp), if_pos hk]
      rfl
  | negSucc k =>
      refine .negative (hwhole true (k + 1) _ ?_)
      have hk : k + 1 ≤ 2 ^ 63 := by omega
      rw [wholeValue?, if_pos rfl, if_pos ⟨by omega, hk⟩]
      rfl

end Numbers

mutual

/-- The value that the text of a value writes: `null` stands for a number that is not finite. -/
def written : Json → Json
  | null => null
  | bool b => bool b
  | whole n => whole n
  | real x => if x.isFinite then real x else null
  | text s => text s
  | array vs => array (writtenItems vs)
  | object ms => object (writtenMembers ms)

def writtenItems : List Json → List Json
  | [] => []
  | v :: vs => written v :: writtenItems vs

def writtenMember : String × Json → String × Json
  | (key, v) => (key, written v)

def writtenMembers : List (String × Json) → List (String × Json)
  | [] => []
  | m :: ms => writtenMember m :: writtenMembers ms

end

theorem writtenItems_eq_map (vs : List Json) : writtenItems vs = vs.map written := by
  induction vs with
  | nil => rfl
  | cons v vs ih => rw [writtenItems, ih, List.map_cons]

theorem writtenMembers_eq_map (ms : List (String × Json)) :
    writtenMembers ms = ms.map fun m => (m.1, written m.2) := by
  induction ms with
  | nil => rfl
  | cons m ms ih => rw [writtenMembers, ih, List.map_cons, writtenMember]

theorem written_array (vs : List Json) : written (.array vs) = .array (vs.map written) := by
  rw [written, writtenItems_eq_map]

theorem written_object (ms : List (String × Json)) :
    written (.object ms) = .object (ms.map fun m => (m.1, written m.2)) := by
  rw [written, writtenMembers_eq_map]

/-- The value has at most so many arrays and objects inside each other, and its whole numbers fit
64 bits. -/
def Fits : Nat → Json → Prop
  | _, whole n => -2 ^ 63 ≤ n ∧ n < 2 ^ 64
  | 0, array _ => False
  | 0, object _ => False
  | levels + 1, array vs => ∀ v ∈ vs, Fits levels v
  | levels + 1, object ms => ∀ m ∈ ms, Fits levels m.2
  | _, _ => True

theorem spaces_newLine (level : Nat) (rest : List Char) : Spaces (newLine level ++ rest) rest := by
  have hblanks : ∀ n, Spaces (List.replicate n ' ' ++ rest) rest := by
    intro n
    induction n with
    | zero => exact .none rest
    | succ n ih => exact .more rfl ih
  exact .more rfl (hblanks (2 * level))

section Compounds

variable {item : List Char → Json → List Char → Prop}

theorem items_chars (level outer : Nat) {v : Json} {vs : List Json}
    (hitem : ∀ u ∈ v :: vs, ∀ rest, item (chars level u ++ rest) (written u) rest)
    (rest : List Char) :
    Items item (chars level v ++ (itemChars level vs ++ (newLine outer ++ ']' :: rest)))
      ((v :: vs).map written) rest := by
  induction vs generalizing v with
  | nil => exact .last (hitem v (by simp) _) (spaces_newLine outer _)
  | cons u vs ih =>
      have hrest := ih fun w hw => hitem w (List.mem_cons_of_mem _ hw)
      simp only [itemChars, List.cons_append, List.append_assoc]
      exact .more (hitem v (by simp) _) (.none _) (spaces_newLine level _) hrest

theorem member_chars {level : Nat} {m : String × Json}
    (hitem : ∀ rest, item (chars level m.2 ++ rest) (written m.2) rest) (rest : List Char) :
    Member item (memberChars level m ++ rest) (m.1, written m.2) rest := by
  obtain ⟨key, v⟩ := m
  have hmember := Member.intro (characters_textChars key (':' :: ' ' :: chars level v ++ rest))
    (.none _) (.more rfl (.none _)) (hitem rest)
  rw [String.ofList_toList] at hmember
  rw [memberChars, List.append_assoc, textChars_append]
  exact hmember

theorem members_chars (level outer : Nat) {m : String × Json} {ms : List (String × Json)}
    (hitem : ∀ n ∈ m :: ms, ∀ rest, item (chars level n.2 ++ rest) (written n.2) rest)
    (rest : List Char) :
    Members item (memberChars level m ++ (restChars level ms ++ (newLine outer ++ '\x7d' :: rest)))
      ((m :: ms).map fun n => (n.1, written n.2)) rest := by
  induction ms generalizing m with
  | nil => exact .last (member_chars (hitem m (by simp)) _) (spaces_newLine outer _)
  | cons n ms ih =>
      have hrest := ih fun w hw => hitem w (List.mem_cons_of_mem _ hw)
      simp only [restChars, List.cons_append, List.append_assoc]
      exact .more (member_chars (hitem m (by simp)) _) (.none _) (spaces_newLine level _) hrest

end Compounds

theorem scalar_chars {levels : Nat} {v : Json} (hv : Fits levels v)
    (harray : ∀ vs, v ≠ .array vs) (hobject : ∀ ms, v ≠ .object ms) (level : Nat)
    (rest : List Char) : Scalar (chars level v ++ rest) (written v) rest := by
  cases v with
  | null => exact .wordNull rest
  | bool b =>
      cases b
      · exact .wordFalse rest
      · exact .wordTrue rest
  | whole n =>
      have hrange : -2 ^ 63 ≤ n ∧ n < 2 ^ 64 := by
        cases levels <;> exact hv
      exact scalar_wholeChars hrange.1 hrange.2 rest
  | real x =>
      rw [chars, written]
      split_ifs with hfinite
      · exact scalar_savedChars hfinite rest
      · exact .wordNull rest
  | text s =>
      have htext := Scalar.text (characters_textChars s rest)
      rw [String.ofList_toList] at htext
      rw [chars, textChars_append]
      exact htext
  | array vs => exact absurd rfl (harray vs)
  | object ms => exact absurd rfl (hobject ms)

theorem value_chars {levels : Nat} {v : Json} (hv : Fits levels v) (level : Nat)
    (rest : List Char) : Value levels (chars level v ++ rest) (written v) rest := by
  induction levels generalizing v level rest with
  | zero =>
      refine scalar_chars hv ?_ ?_ level rest
      · rintro vs rfl
        exact hv
      · rintro ms rfl
        exact hv
  | succ levels ih =>
      by_cases harray : ∃ vs, v = .array vs
      · obtain ⟨vs, rfl⟩ := harray
        right
        cases vs with
        | nil => exact .emptyArray (.none _)
        | cons u vs =>
            have hitems := items_chars (level + 1) level
              (fun w hw rest => ih (hv w hw) (level + 1) rest) rest
            rw [written_array]
            simp only [chars, List.cons_append, List.append_assoc, List.nil_append]
            exact .array (spaces_newLine _ _) hitems
      · by_cases hobject : ∃ ms, v = .object ms
        · obtain ⟨ms, rfl⟩ := hobject
          right
          cases ms with
          | nil => exact .emptyObject (.none _)
          | cons m ms =>
              have hmembers := members_chars (level + 1) level
                (fun n hn rest => ih (hv n hn) (level + 1) rest) rest
              rw [written_object]
              simp only [chars, List.cons_append, List.append_assoc, List.nil_append]
              exact .object (spaces_newLine _ _) hmembers
        · exact .inl (scalar_chars hv (fun vs h => harray ⟨vs, h⟩) (fun ms h => hobject ⟨ms, h⟩)
            level rest)

theorem textOf_pretty {v : Json} (hv : Fits 127 v) : TextOf (written v) (pretty v) := by
  have hvalue := value_chars hv 0 []
  rw [List.append_nil] at hvalue
  refine ⟨chars 0 v, [], ?_, hvalue, .none []⟩
  rw [pretty, String.toList_ofList]
  exact .none _

end ControlPanel.Json
