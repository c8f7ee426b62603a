import ControlPanel.Proofs.Script.Literals

namespace ControlPanel.Literal

open Script Script.Lexer

section Reader

/-- The byte that a character stands for after a backslash, unless it is a digit. -/
def escapedByte? : Char → Option UInt8
  | '\\' => some 92
  | '"' => some 34
  | 'n' => some 10
  | 'r' => some 13
  | 't' => some 9
  | _ => none

/-- Reads up to so many digits more of a number. -/
def readDigits (value : Nat) : Nat → List Char → Nat × List Char
  | n + 1, c :: cs =>
    if c.isDigit then readDigits (10 * value + (c.toNat - '0'.toNat)) n cs else (value, c :: cs)
  | _, cs => (value, cs)

/-- Reads what follows a backslash: a character or up to three digits. -/
def readEscape? : List Char → Option (UInt8 × List Char)
  | [] => none
  | c :: cs =>
    match escapedByte? c with
    | some b => some (b, cs)
    | none =>
      if c.isDigit then
        let (value, rest) := readDigits (c.toNat - '0'.toNat) 2 cs
        if value < 256 then some (.ofNat value, rest) else none
      else none

theorem length_readDigits (value n : Nat) (cs : List Char) :
    (readDigits value n cs).2.length ≤ cs.length := by
  induction n generalizing value cs with
  | zero => exact Nat.le_refl _
  | succ n ih =>
      cases cs with
      | nil => exact Nat.le_refl _
      | cons c cs =>
          rw [readDigits]
          split_ifs
          · exact Nat.le_succ_of_le (ih _ cs)
          · exact Nat.le_refl _

theorem length_of_readEscape? {cs rest : List Char} {b : UInt8}
    (h : readEscape? cs = some (b, rest)) : rest.length < cs.length := by
  cases cs with
  | nil => cases h
  | cons c cs =>
      rw [readEscape?] at h
      split at h
      · cases h
        exact Nat.lt_succ_self _
      · dsimp only at h
        split_ifs at h
        cases h
        exact Nat.lt_succ_of_le (length_readDigits _ 2 cs)

/-- Reads a string up to the quote that closes it. It has to stay on one line. -/
def readBytes? : List Char → Option (List UInt8 × List Char)
  | [] => none
  | c :: cs =>
    if c = '"' then some ([], cs)
    else if isNewline c then none
    else if c = '\\' then
      match _h : readEscape? cs with
      | some (b, rest) => (readBytes? rest).map fun p => (b :: p.1, p.2)
      | none => none
    else (readBytes? cs).map fun p => (String.utf8EncodeChar c ++ p.1, p.2)
termination_by cs => cs.length
decreasing_by
  · exact Nat.lt_succ_of_lt (length_of_readEscape? _h)
  · exact Nat.lt_succ_self _

/-- Reads a string between double quotes, and gives what is left. -/
def readText? : List Char → Option (String × List Char)
  | '"' :: cs => do
    let (bytes, rest) ← readBytes? cs
    let s ← String.fromUTF8? bytes.toByteArray
    pure (s, rest)
  | _ => none

theorem readBytes?_backslash {cs rest : List Char} {b : UInt8}
    (h : readEscape? cs = some (b, rest)) :
    readBytes? ('\\' :: cs) = (readBytes? rest).map fun p => (b :: p.1, p.2) := by
  rw [readBytes?, if_neg (by decide), if_neg (by decide), if_pos rfl]
  split
  · rename_i heq
    rw [h] at heq
    cases heq
    rfl
  · rename_i heq
    rw [h] at heq
    cases heq

theorem length_of_readBytes? {cs rest : List Char} {bytes : List UInt8}
    (h : readBytes? cs = some (bytes, rest)) : rest.length < cs.length := by
  induction cs using readBytes?.induct generalizing bytes rest with
  | case1 => simp [readBytes?] at h
  | case2 cs =>
      rw [readBytes?, if_pos rfl] at h
      cases h
      exact Nat.lt_succ_self _
  | case3 c cs hquote hline =>
      rw [readBytes?, if_neg hquote, if_pos hline] at h
      cases h
  | case4 cs b next hnext hquote hline ih =>
      rw [readBytes?_backslash hnext] at h
      obtain ⟨p, hp, heq⟩ := Option.map_eq_some_iff.mp h
      cases heq
      exact Nat.lt_succ_of_lt (Nat.lt_trans (ih hp) (length_of_readEscape? hnext))
  | case5 cs hnone hquote hline =>
      rw [readBytes?, if_neg hquote, if_neg hline, if_pos rfl] at h
      split at h
      · rename_i heq
        rw [hnone] at heq
        cases heq
      · cases h
  | case6 c cs hquote hline hslash ih =>
      rw [readBytes?, if_neg hquote, if_neg hline, if_neg hslash] at h
      obtain ⟨p, hp, heq⟩ := Option.map_eq_some_iff.mp h
      cases heq
      exact Nat.lt_succ_of_lt (ih hp)

theorem length_of_readText? {cs rest : List Char} {s : String}
    (h : readText? cs = some (s, rest)) : rest.length < cs.length := by
  rw [readText?.eq_def] at h
  split at h
  · simp only [Option.bind_eq_bind, Option.bind_eq_some_iff, Option.pure_def,
      Option.some.injEq] at h
    obtain ⟨p, hp, s', -, heq⟩ := h
    cases heq
    exact Nat.lt_succ_of_lt (length_of_readBytes? hp)
  · cases h

/-- Reads a string with white space around it, and the character behind. -/
def readItem? (cs : List Char) : Option (String × Char × List Char) := do
  let (s, after) ← readText? (cs.dropWhile isSpace)
  match after.dropWhile isSpace with
  | [] => none
  | c :: rest => pure (s, c, rest)

theorem length_of_readItem? {cs rest : List Char} {s : String} {c : Char}
    (h : readItem? cs = some (s, c, rest)) : rest.length < cs.length := by
  simp only [readItem?, Option.bind_eq_bind, Option.bind_eq_some_iff] at h
  obtain ⟨⟨t, after⟩, hitem, h⟩ := h
  have hbefore := (List.dropWhile_sublist (l := cs) isSpace).length_le
  have hbehind := (List.dropWhile_sublist (l := after) isSpace).length_le
  have hlt := length_of_readText? hitem
  split at h
  · cases h
  · rename_i heq
    cases h
    rw [heq, List.length_cons] at hbehind
    omega

/-- Reads the strings of a table from its first one on, which commas keep apart. -/
def readItems? (cs : List Char) : Option (List String × List Char) :=
  match _h : readItem? cs with
  | some (s, c, rest) =>
    if c = ',' then (readItems? rest).map fun p => (s :: p.1, p.2)
    else if c = '\x7d' then some ([s], rest)
    else none
  | none => none
termination_by cs.length
decreasing_by exact length_of_readItem? _h

/-- Reads a table of strings between double quotes. -/
def readTexts? : List Char → Option (List String × List Char)
  | '\x7b' :: cs =>
    match cs.dropWhile isSpace with
    | '\x7d' :: rest => some ([], rest)
    | _ => readItems? cs
  | _ => none

end Reader

section Escapes

theorem escapedByte?_special :
    ∀ p ∈ [('\\', '\\'), ('"', '"'), ('\n', 'n'), ('\r', 'r'), ('\t', 't')],
      ∃ b, escapedByte? p.2 = some b ∧ String.utf8EncodeChar p.1 = [b] := by
  decide

theorem escapedByte?_digitChar {d : Nat} (hd : d < 10) :
    escapedByte? (Nat.digitChar d) = none := by
  interval_cases d <;> rfl

/-- The three digits of a byte are read whole, also in front of another digit. -/
theorem readEscape?_threeDigits {n : Nat} (hn : n < 256) (cs : List Char) :
    readEscape? (threeDigits n ++ cs) = some (.ofNat n, cs) := by
  obtain ⟨hfirst, hfirstValue⟩ := digitChar_spec (d := n / 100) (by omega)
  obtain ⟨hsecond, hsecondValue⟩ := digitChar_spec (d := n / 10 % 10) (by omega)
  obtain ⟨hthird, hthirdValue⟩ := digitChar_spec (d := n % 10) (by omega)
  have hvalue : 10 * (10 * (n / 100) + n / 10 % 10) + n % 10 = n := by omega
  rw [threeDigits, List.cons_append, List.cons_append, List.cons_append, List.nil_append,
    readEscape?, escapedByte?_digitChar (by omega)]
  simp only [hfirst, hfirstValue, if_true, readDigits, hsecond, hsecondValue, hthird, hthirdValue,
    hvalue, hn]

theorem readBytes?_escape (c : Char) (cs : List Char) :
    readBytes? (escape c ++ cs) =
      (readBytes? cs).map fun p => (String.utf8EncodeChar c ++ p.1, p.2) := by
  rcases escape_cases c with ⟨e, hc, he⟩ | ⟨hlt, hc⟩ | ⟨hc, hslash, hquote, hline⟩ <;> rw [hc]
  · obtain ⟨b, hb, hbyte⟩ := escapedByte?_special _ he
    have hread : readEscape? (e :: cs) = some (b, cs) := by
      rw [readEscape?, hb]
    rw [hbyte]
    exact readBytes?_backslash hread
  · rw [utf8EncodeChar_of_lt hlt]
    exact readBytes?_backslash (readEscape?_threeDigits (by omega) cs)
  · rw [List.singleton_append, readBytes?, if_neg hquote, if_neg (by simp [hline]), if_neg hslash]

theorem readBytes?_escapes (cs r : List Char) :
    readBytes? (cs.flatMap escape ++ '"' :: r) = some (bytesOf cs, r) := by
  induction cs with
  | nil => rw [List.flatMap_nil, List.nil_append, readBytes?, if_pos rfl]; rfl
  | cons c cs ih =>
      rw [List.flatMap_cons, List.append_assoc, readBytes?_escape, ih]
      rfl

theorem fromUTF8?_bytesOf (s : String) :
    String.fromUTF8? (bytesOf s.toList).toByteArray = some s := by
  have hbytes : (bytesOf s.toList).toByteArray = s.toByteArray := String.utf8Encode_toList
  rw [hbytes, String.fromUTF8?, dif_pos s.isValidUTF8]
  rfl

theorem readText?_text (s : String) (r : List Char) :
    readText? ((text s).toList ++ r) = some (s, r) := by
  rw [text, String.toList_ofList, List.append_assoc, List.cons_append, List.singleton_append,
    readText?, readBytes?_escapes]
  simp [fromUTF8?_bytesOf]

end Escapes

section Tables

theorem readItems?_eq (cs : List Char) :
    readItems? cs = (readItem? cs).bind fun p =>
      if p.2.1 = ',' then (readItems? p.2.2).map fun q => (p.1 :: q.1, q.2)
      else if p.2.1 = '\x7d' then some ([p.1], p.2.2)
      else none := by
  rw [readItems?]
  split <;>
  · rename_i heq
    rw [heq]
    rfl

theorem dropWhile_text (s : String) (r : List Char) :
    ((text s).toList ++ r).dropWhile isSpace = (text s).toList ++ r := by
  rw [text, String.toList_ofList]
  exact List.dropWhile_cons_of_neg (by decide)

theorem readItem?_text (s : String) {c : Char} (hc : isSpace c = false) (r : List Char) :
    readItem? ((text s).toList ++ c :: r) = some (s, c, r) := by
  rw [readItem?, dropWhile_text, readText?_text]
  simp [hc]

theorem readItem?_space (cs : List Char) : readItem? (' ' :: cs) = readItem? cs := by
  have hspace : isSpace ' ' = true := by decide
  rw [readItem?, List.dropWhile_cons_of_pos hspace, readItem?]

theorem readItems?_textItems (s : String) (l : List String) (r : List Char) :
    readItems? ((textItems (s :: l)).toList ++ '\x7d' :: r) = some (s :: l, r) := by
  induction l generalizing s with
  | nil =>
      rw [textItems, readItems?_eq, readItem?_text s (by decide)]
      rfl
  | cons t l ih =>
      have hchars : (textItems (s :: t :: l)).toList ++ '\x7d' :: r =
          (text s).toList ++ ',' :: ' ' :: ((textItems (t :: l)).toList ++ '\x7d' :: r) := by
        simp [textItems]
      have hrest : readItems? (' ' :: ((textItems (t :: l)).toList ++ '\x7d' :: r)) =
          some (t :: l, r) := by
        rw [readItems?_eq, readItem?_space, ← readItems?_eq, ih t]
      rw [hchars, readItems?_eq, readItem?_text s (by decide)]
      exact congrArg (Option.map fun q => (s :: q.1, q.2)) hrest

theorem exists_textItems_eq_cons (s : String) (l : List String) :
    ∃ cs, (textItems (s :: l)).toList = '"' :: cs := by
  cases l <;> simp [textItems, text]

theorem readTexts?_texts (l : List String) (r : List Char) :
    readTexts? ((texts l).toList ++ r) = some (l, r) := by
  have hchars : (texts l).toList ++ r = '\x7b' :: ((textItems l).toList ++ '\x7d' :: r) := by
    simp [texts]
  rw [hchars]
  cases l with
  | nil => rfl
  | cons s l =>
      obtain ⟨cs, hcs⟩ := exists_textItems_eq_cons s l
      have hitems := readItems?_textItems s l r
      rw [hcs] at hitems ⊢
      exact hitems

end Tables

theorem pushText_eq (out s : String) : pushText out s = out ++ text s := by
  have hfold : ∀ (cs : List Char) (out : String),
      cs.foldl (fun out c => out ++ String.ofList (escape c)) out =
        out ++ String.ofList (cs.flatMap escape) := by
    intro cs
    induction cs with
    | nil => simp
    | cons c cs ih => intro out; simp [ih, String.append_assoc]
  rw [pushText, hfold, text]
  apply String.toList_inj.mp
  simp

/-- A literal reads back as its text and leaves what follows it, a buffer that it is pushed to
changes in nothing else, and a table of literals reads back as its list of texts. -/
theorem literals_read_back :
    (∀ (s : String) (r : List Char), readText? ((text s).toList ++ r) = some (s, r)) ∧
      (∀ out s : String, pushText out s = out ++ text s) ∧
      ∀ (l : List String) (r : List Char), readTexts? ((texts l).toList ++ r) = some (l, r) :=
  ⟨readText?_text, pushText_eq, readTexts?_texts⟩

end ControlPanel.Literal
