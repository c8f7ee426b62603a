import ControlPanel.Proofs.Number.Written
import ControlPanel.Proofs.Script.Lexing
import ControlPanel.Script.Registration

namespace ControlPanel

open Script Script.Lexer

namespace Script

/-- A name begins with a letter or an underscore. -/
def isName (s : String) : Bool :=
  match s.toList with
  | [] => false
  | c :: cs => isNameStart c && cs.all isNameChar

theorem runs_nameChars (acc : List Char) {cs : List Char}
    (hcs : ∀ d ∈ cs, isNameChar d = true) :
    Runs (.name acc) cs [] (.name (acc ++ cs)) := by
  induction cs generalizing acc with
  | nil =>
      rw [List.append_nil]
      exact .nil _
  | cons c cs ih =>
      have hstep : step (.name acc) c = some (.name (acc ++ [c]), []) := by
        rw [step, if_pos (hcs c (by simp))]
      have hrest := ih (acc ++ [c]) fun d hd => hcs d (List.mem_cons_of_mem _ hd)
      rw [List.append_assoc] at hrest
      exact hrest.cons hstep

theorem pending_name (cs : List Char) : Pending (.name cs) [.name (String.ofList cs)] := by
  intro c hc
  rw [step, if_neg (by simp [(not_continues_of_isBreak hc).1])]

theorem not_isSpace_of_isNameStart {c : Char} (hc : isNameStart c = true) :
    isSpace c = false := by
  by_contra hspace
  have hmem : c ∈ [' ', '\t', '\n', '\r', '\x0b', '\x0c'] :=
    List.contains_iff_mem.mp ((Bool.not_eq_false _).mp hspace)
  fin_cases hmem <;> exact absurd hc (by decide)

theorem begin_nameStart {c : Char} (hc : isNameStart c = true) : begin c = (.name [c], []) := by
  rw [begin, if_neg (by simp [not_isSpace_of_isNameStart hc]), if_pos hc]

/-- A name leads from a state to its own, if its first character does. -/
theorem spells_of_isName {s : String} (hs : isName s = true) (st : State) (ts : List Token)
    (hstep : ∀ c, isNameStart c = true → step st c = some (.name [c], ts)) :
    ∃ cs, Runs st s.toList ts (.name cs) ∧ Pending (.name cs) [.name s] := by
  cases hcons : s.toList with
  | nil => simp [isName, hcons] at hs
  | cons c cs =>
      simp only [isName, hcons, Bool.and_eq_true, List.all_eq_true] at hs
      obtain ⟨hc, hcs⟩ := hs
      have hpending := pending_name (c :: cs)
      rw [← hcons, String.ofList_toList, hcons] at hpending
      refine ⟨c :: cs, ?_, hpending⟩
      rw [← List.append_nil ts]
      exact (runs_nameChars _ hcs).cons (hstep c hc)

theorem spells_name {s : String} (hs : isName s = true) : Spells s [.name s] := by
  obtain ⟨cs, hruns, hpending⟩ := spells_of_isName hs .start [] fun c hc => by
    rw [step, begin_nameStart hc]
  exact ⟨.name cs, [], _, hruns, hpending, rfl⟩

theorem spells_method {s : String} (hs : isName s = true) :
    Spells (":" ++ s) [.mark ":", .name s] := by
  have hcolon : Runs .start ":".toList [] (.pair ':') := by rfl
  obtain ⟨cs, hruns, hpending⟩ := spells_of_isName hs (.pair ':') [.mark ":"]
    fun c hc => by
      have hne : (pairs ':').contains c = false := by
        have : c ≠ ':' := by
          rintro rfl
          exact absurd hc (by decide)
        simp [pairs, this]
      rw [step, hne, begin_nameStart hc]
      rfl
  refine ⟨.name cs, [.mark ":"], _, ?_, hpending, rfl⟩
  rw [String.toList_append]
  exact hcolon.append hruns

theorem isName_truth (b : Bool) : isName (Literal.truth b) = true := by
  cases b <;> decide

section Strings

theorem digitChar_spec {d : Nat} (hd : d < 10) :
    (Nat.digitChar d).isDigit = true ∧ (Nat.digitChar d).toNat - '0'.toNat = d := by
  interval_cases d <;> decide

theorem inEscape_digitChar {d : Nat} (hd : d < 10) (bytes : List UInt8) :
    inEscape '"' bytes (Nat.digitChar d) = some (.text '"' (.decimal 1 d) bytes, []) := by
  interval_cases d <;> rfl

theorem runs_threeDigits {n : Nat} (hn : n < 256) (bytes : List UInt8) :
    Runs (.text '"' .escape bytes) (Literal.threeDigits n) []
      (.text '"' .plain (bytes ++ [.ofNat n])) := by
  have hfirst : n / 100 < 10 := by omega
  obtain ⟨hsecond, hsecondValue⟩ := digitChar_spec (d := n / 10 % 10) (by omega)
  obtain ⟨hthird, hthirdValue⟩ := digitChar_spec (d := n % 10) (by omega)
  have hvalue : 10 * (10 * (n / 100) + n / 10 % 10) + n % 10 = n := by omega
  have hmiddle : step (.text '"' (.decimal 1 (n / 100)) bytes) (Nat.digitChar (n / 10 % 10)) =
      some (.text '"' (.decimal 2 (10 * (n / 100) + n / 10 % 10)) bytes, []) := by
    rw [step, stepText, if_pos hsecond, hsecondValue]
    rfl
  have hlast : step (.text '"' (.decimal 2 (10 * (n / 100) + n / 10 % 10)) bytes)
      (Nat.digitChar (n % 10)) = some (.text '"' .plain (bytes ++ [.ofNat n]), []) := by
    rw [step, stepText, if_pos hthird, hthirdValue]
    simp only [hvalue]
    rw [if_neg (by omega), if_pos (by omega)]
  exact (((Runs.nil _).skip hlast).skip hmiddle).skip (inEscape_digitChar hfirst bytes)

theorem utf8EncodeChar_of_lt {c : Char} (hc : c.toNat < 128) :
    String.utf8EncodeChar c = [.ofNat c.toNat] := by
  have hsize : c.utf8Size = 1 := by
    rw [Char.utf8Size_eq_one_iff, UInt32.le_iff_toNat_le]
    exact Nat.le_of_lt_succ hc
  rw [String.utf8EncodeChar_eq_singleton hsize]
  rfl

/-- A character is escaped by another one, by three digits, or not at all. -/
theorem escape_cases (c : Char) :
    (∃ e, Literal.escape c = ['\\', e] ∧
      (c, e) ∈ [('\\', '\\'), ('"', '"'), ('\n', 'n'), ('\r', 'r'), ('\t', 't')]) ∨
    (c.toNat < 128 ∧ Literal.escape c = '\\' :: Literal.threeDigits c.toNat) ∨
    (Literal.escape c = [c] ∧ c ≠ '\\' ∧ c ≠ '"' ∧ isNewline c = false) := by
  by_cases hspecial : c ∈ ['\\', '"', '\n', '\r', '\t']
  · left
    fin_cases hspecial
    · exact ⟨'\\', rfl, by decide⟩
    · exact ⟨'"', rfl, by decide⟩
    · exact ⟨'n', rfl, by decide⟩
    · exact ⟨'r', rfl, by decide⟩
    · exact ⟨'t', rfl, by decide⟩
  · simp only [List.mem_cons, List.not_mem_nil, or_false, not_or] at hspecial
    obtain ⟨hslash, hquote, hnewline, hreturn, htab⟩ := hspecial
    have hescape : Literal.escape c =
        if Literal.isControl c then '\\' :: Literal.threeDigits c.toNat else [c] := by
      simp [Literal.escape]
    rw [hescape]
    split_ifs with hcontrol
    · refine .inr (.inl ⟨?_, rfl⟩)
      simp only [Literal.isControl, Bool.or_eq_true, decide_eq_true_eq, beq_iff_eq] at hcontrol
      omega
    · exact .inr (.inr ⟨rfl, hslash, hquote, by simp [isNewline, hnewline, hreturn]⟩)

theorem runs_escape (c : Char) (bytes : List UInt8) :
    Runs (.text '"' .plain bytes) (Literal.escape c) []
      (.text '"' .plain (bytes ++ String.utf8EncodeChar c)) := by
  rcases escape_cases c with ⟨e, hc, he⟩ | ⟨hlt, hc⟩ | ⟨hc, hslash, hquote, hline⟩ <;> rw [hc]
  · fin_cases he <;> rfl
  · have hbackslash : step (.text '"' .plain bytes) '\\' =
        some (.text '"' .escape bytes, []) := rfl
    rw [utf8EncodeChar_of_lt hlt]
    exact (runs_threeDigits (by omega) bytes).cons hbackslash
  · refine Runs.skip ?_ (.nil _)
    rw [step, stepText, inText, if_neg hquote, if_neg (by simp [hline]), if_neg hslash]

theorem runs_escapes (cs : List Char) (bytes : List UInt8) :
    Runs (.text '"' .plain bytes) (cs.flatMap Literal.escape) []
      (.text '"' .plain (bytes ++ bytesOf cs)) := by
  induction cs generalizing bytes with
  | nil =>
      rw [List.flatMap_nil, bytesOf, List.flatMap_nil, List.append_nil]
      exact .nil _
  | cons c cs ih =>
      have hrest := ih (bytes ++ String.utf8EncodeChar c)
      rw [List.append_assoc] at hrest
      exact (runs_escape c bytes).append hrest

/-- The literal of a text is one token that holds it. -/
theorem reads_text (s : String) : Reads (Literal.text s) [.ofText s] := by
  have hopen : step .start '"' = some (.text '"' .plain [], []) := by decide
  have hclose : step (.text '"' .plain (bytesOf s.toList)) '"' = some (.start, [.ofText s]) := by
    rw [step, stepText, inText, if_pos rfl, Token.ofText]
  have hinside := runs_escapes s.toList []
  rw [List.nil_append] at hinside
  rw [Reads, Literal.text, String.toList_ofList]
  exact (hinside.append ((Runs.nil .start).cons hclose)).cons hopen

end Strings

section Numerals

/-- Digits, and perhaps a point and digits after it. -/
inductive Plain : List Char → Prop
  | whole {c : Char} {ds : List Char} (hc : c.isDigit = true) (hds : AllDigits ds) :
      Plain (c :: ds)
  | parted {c : Char} {ds es : List Char} (hc : c.isDigit = true) (hds : AllDigits ds)
      (hes : AllDigits es) : Plain (c :: ds ++ '.' :: es)

theorem takeWhile_digits {ds : List Char} (hds : AllDigits ds) (es : List Char) :
    (ds ++ '.' :: es).takeWhile Char.isDigit = ds ∧
      (ds ++ '.' :: es).dropWhile Char.isDigit = '.' :: es := by
  constructor
  · rw [List.takeWhile_append_of_pos hds, List.takeWhile_cons_of_neg (by decide), List.append_nil]
  · rw [List.dropWhile_append_of_pos hds, List.dropWhile_cons_of_neg (by decide)]

theorem Plain.isDecimalNumeral {cs : List Char} (hcs : Plain cs) : isDecimalNumeral cs = true := by
  cases hcs with
  | @whole c ds hc hds =>
      have hall : ∀ d ∈ c :: ds, d.isDigit = true := List.forall_mem_cons.mpr ⟨hc, hds⟩
      have hdrop : (c :: ds).dropWhile Char.isDigit = [] := List.dropWhile_eq_nil_iff.mpr hall
      have htake : (c :: ds).takeWhile Char.isDigit = c :: ds := List.takeWhile_eq_self_iff.mpr hall
      simp [Lexer.isDecimalNumeral, afterMantissa?, hdrop, htake, isExponent]
  | @parted c ds es hc hds hes =>
      have hall : AllDigits (c :: ds) := List.forall_mem_cons.mpr ⟨hc, hds⟩
      obtain ⟨htake, hdrop⟩ := takeWhile_digits hall es
      have hrest : es.dropWhile Char.isDigit = [] := List.dropWhile_eq_nil_iff.mpr hes
      rw [Lexer.isDecimalNumeral, afterMantissa?, hdrop, htake]
      simp [hrest, isExponent]

theorem Plain.chars {cs : List Char} (hcs : Plain cs) : ∀ c ∈ cs, c.isDigit = true ∨ c = '.' := by
  intro d hd
  cases hcs with
  | @whole c ds hc hds =>
      have hall : AllDigits (c :: ds) := List.forall_mem_cons.mpr ⟨hc, hds⟩
      exact .inl (hall d hd)
  | @parted c ds es hc hds hes =>
      have hall : AllDigits (c :: ds) := List.forall_mem_cons.mpr ⟨hc, hds⟩
      rcases List.mem_append.mp hd with hd | hd
      · exact .inl (hall d hd)
      · rcases List.mem_cons.mp hd with rfl | hd
        · exact .inr rfl
        · exact .inl (hes d hd)

theorem Plain.isNumeral {cs : List Char} (hcs : Plain cs) : isNumeral cs = true := by
  have hchars := hcs.chars
  unfold Lexer.isNumeral
  split
  · exact absurd (hchars 'x' (by simp)) (by decide)
  · exact absurd (hchars 'X' (by simp)) (by decide)
  · exact hcs.isDecimalNumeral

theorem Plain.exists_head {cs : List Char} (hcs : Plain cs) :
    ∃ c ds, cs = c :: ds ∧ c.isDigit = true := by
  cases hcs with
  | whole hc _ => exact ⟨_, _, rfl, hc⟩
  | parted hc _ _ => exact ⟨_, _, rfl, hc⟩

theorem begin_digit {c : Char} (hc : c.isDigit = true) : begin c = (.numeral [c], []) := by
  have hspace : isSpace c = false := by
    by_contra hspace
    have hmem : c ∈ [' ', '\t', '\n', '\r', '\x0b', '\x0c'] :=
      List.contains_iff_mem.mp ((Bool.not_eq_false _).mp hspace)
    fin_cases hmem <;> exact absurd hc (by decide)
  have hname : isNameStart c = false := by
    have hbounds : 48 ≤ c.toNat ∧ c.toNat ≤ 57 := by
      simpa [Char.isDigit, UInt32.le_iff_toNat_le] using hc
    have hletter : c.isAlpha = false := by
      by_contra hletter
      simp [Char.isAlpha, Char.isUpper, Char.isLower, UInt32.le_iff_toNat_le] at hletter
      omega
    have hunderscore : c ≠ '_' := by
      rintro rfl
      cases hc
    simp [isNameStart, hletter, hunderscore]
  rw [begin, if_neg (by simp [hspace]), if_neg (by simp [hname]), if_pos hc]

theorem runs_numeralChars (acc : List Char) {cs : List Char}
    (hcs : ∀ c ∈ cs, c.isDigit = true ∨ c = '.') :
    Runs (.numeral acc) cs [] (.numeral (acc ++ cs)) := by
  induction cs generalizing acc with
  | nil =>
      rw [List.append_nil]
      exact .nil _
  | cons c cs ih =>
      have hcontinues : continuesNumeral acc c = true := by
        rcases hcs c (by simp) with hc | rfl
        · simp [continuesNumeral, isNameChar, Char.isAlphanum, hc]
        · simp [continuesNumeral]
      have hstep : step (.numeral acc) c = some (.numeral (acc ++ [c]), []) := by
        rw [step, if_pos hcontinues]
      have hrest := ih (acc ++ [c]) fun d hd => hcs d (List.mem_cons_of_mem _ hd)
      rw [List.append_assoc] at hrest
      exact hrest.cons hstep

theorem pending_numeral {cs : List Char} (hcs : isNumeral cs = true) :
    Pending (.numeral cs) [.numeral (String.ofList cs)] := by
  intro c hc
  rw [step, if_neg (by simp [(not_continues_of_isBreak hc).2]), if_pos hcs]

theorem spells_numeral {cs : List Char} (hcs : Plain cs) :
    Spells (String.ofList cs) [.numeral (String.ofList cs)] := by
  obtain ⟨c, ds, rfl, hc⟩ := hcs.exists_head
  refine ⟨.numeral (c :: ds), [], _, ?_, pending_numeral hcs.isNumeral, rfl⟩
  rw [String.toList_ofList]
  have hrest := runs_numeralChars [c] fun d hd => hcs.chars d (List.mem_cons_of_mem _ hd)
  exact hrest.skip (congrArg some (begin_digit hc))

theorem spells_negative {cs : List Char} (hcs : Plain cs) :
    Spells (String.ofList ('-' :: cs)) [.mark "-", .numeral (String.ofList cs)] := by
  obtain ⟨c, ds, rfl, hc⟩ := hcs.exists_head
  refine ⟨.numeral (c :: ds), [.mark "-"], _, ?_, pending_numeral hcs.isNumeral, rfl⟩
  rw [String.toList_ofList]
  have hrest := runs_numeralChars [c] fun d hd => hcs.chars d (List.mem_cons_of_mem _ hd)
  have hdigit : step .dash c = some (.numeral [c], [.mark "-"]) := by
    rw [step, if_neg ?_, begin_digit hc, Progress.after]
    · rfl
    · rintro rfl
      cases hc
  have hdash : step .start '-' = some (.dash, []) := by decide
  exact (hrest.cons hdigit).cons hdash

theorem Plain.of_writes {cs : List Char} {x : Binary64} (h : Binary64.Writes cs x) : Plain cs := by
  obtain ⟨whole, part, hwhole, hpart, rfl, -⟩ := h
  have hcons : ∃ c ds, whole = c :: ds ∧ c.isDigit = true ∧ AllDigits ds := by
    cases hwhole with
    | zero => exact ⟨'0', [], rfl, rfl, by simp [AllDigits]⟩
    | digits hc _ hcs => exact ⟨_, _, rfl, hc, hcs⟩
  obtain ⟨c, ds, rfl, hc, hds⟩ := hcons
  rw [Binary64.pointed]
  split_ifs
  · exact .whole hc hds
  · exact .parted hc hds hpart

/-- The tokens of a number: a minus in front of the negative ones, but none in front of zero. -/
def numberTokens (x : Binary64) : List Token :=
  (if x.isNegative && !x.isZero then [.mark "-"] else []) ++ [.numeral (String.ofList x.sizeChars)]

theorem spells_scriptChars (x : Binary64) :
    Spells (String.ofList x.scriptChars) (numberTokens x) := by
  have hplain := Plain.of_writes x.writes_sizeChars
  rw [Binary64.scriptChars_eq, numberTokens, Binary64.signed]
  cases x.isZero <;> cases x.isNegative
  · exact spells_numeral hplain
  · exact spells_negative hplain
  · exact spells_numeral hplain
  · exact spells_numeral hplain

end Numerals

section Lists

def textItemTokens : List String → List Token
  | [] => []
  | [s] => [.ofText s]
  | s :: t :: l => .ofText s :: .mark "," :: textItemTokens (t :: l)

/-- The tokens of a table of texts. -/
def textsTokens (l : List String) : List Token :=
  .mark "\x7b" :: textItemTokens l ++ [.mark "\x7d"]

theorem reads_textItems (l : List String) : Reads (Literal.textItems l) (textItemTokens l) := by
  induction l with
  | nil => exact reads_empty
  | cons s l ih =>
      cases l with
      | nil => exact reads_text s
      | cons t l =>
          have hcomma : Reads ", " [.mark ","] := by decide
          exact ((reads_text s).append hcomma).append ih

theorem reads_texts (l : List String) : Reads (Literal.texts l) (textsTokens l) := by
  have hopen : Reads "\x7b" [.mark "\x7b"] := by decide
  have hclose : Reads "\x7d" [.mark "\x7d"] := by decide
  exact (hopen.append (reads_textItems l)).append hclose

end Lists

theorem getLast?_closeLine (body : String) :
    (Registration.closeLine body).toList.getLast? = some '\n' := by
  rw [Registration.closeLine]
  split_ifs with h
  · exact h
  · simp

end Script

end ControlPanel
