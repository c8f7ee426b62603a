import ControlPanel.Proofs.Script.Literals

namespace ControlPanel.Script

open Registration

/-- Whatever follows, the text of a value tells the value and where the text ends. -/
def Unambiguous {α : Type} (text : α → String) : Prop :=
  ∀ ⦃a b : α⦄ ⦃r s : List Char⦄, (text a).toList ++ r = (text b).toList ++ s → a = b ∧ r = s

theorem Unambiguous.append {α : Type} {text : α → String} (h : Unambiguous text)
    (before after : String) : Unambiguous fun a => before ++ text a ++ after := by
  intro a b r s heq
  simp only [String.toList_append, List.append_assoc] at heq
  obtain ⟨rfl, hrest⟩ := h (List.append_cancel_left heq)
  exact ⟨rfl, List.append_cancel_left hrest⟩

/-- Characters up to the first one of another sort are the same in equal texts. -/
theorem append_stop_inj {p : Char → Bool} {as bs : List Char} {c d : Char} {r s : List Char}
    (has : ∀ x ∈ as, p x = true) (hbs : ∀ x ∈ bs, p x = true) (hc : p c = false)
    (hd : p d = false) (h : as ++ c :: r = bs ++ d :: s) : as = bs ∧ c = d ∧ r = s := by
  have htake := congrArg (List.takeWhile p) h
  rw [List.takeWhile_append_of_pos has, List.takeWhile_append_of_pos hbs,
    List.takeWhile_cons_of_neg (by simp [hc]), List.takeWhile_cons_of_neg (by simp [hd]),
    List.append_nil, List.append_nil] at htake
  subst htake
  have hrest := List.append_cancel_left h
  exact ⟨rfl, (List.cons.inj hrest).1, (List.cons.inj hrest).2⟩

section Literals

theorem digitChar_inj {m n : Nat} (hm : m < 10) (hn : n < 10)
    (h : Nat.digitChar m = Nat.digitChar n) : m = n := by
  rw [← (digitChar_spec hm).2, ← (digitChar_spec hn).2, h]

theorem threeDigits_inj {m n : Nat} (hm : m < 256) (hn : n < 256) {r s : List Char}
    (h : Literal.threeDigits m ++ r = Literal.threeDigits n ++ s) : m = n ∧ r = s := by
  simp only [Literal.threeDigits, List.cons_append, List.nil_append, List.cons.injEq] at h
  obtain ⟨hfirst, hsecond, hthird, hrest⟩ := h
  have hfirst := digitChar_inj (by omega) (by omega) hfirst
  have hsecond := digitChar_inj (by omega) (by omega) hsecond
  have hthird := digitChar_inj (by omega) (by omega) hthird
  exact ⟨by omega, hrest⟩

theorem threeDigits_ne {n : Nat} (hn : n < 256) {c e : Char} {r s : List Char}
    (he : (c, e) ∈ [('\\', '\\'), ('"', '"'), ('\n', 'n'), ('\r', 'r'), ('\t', 't')]) :
    Literal.threeDigits n ++ r ≠ e :: s := by
  intro h
  simp only [Literal.threeDigits, List.cons_append, List.cons.injEq] at h
  have hdigit := (digitChar_spec (d := n / 100) (by omega)).1
  rw [h.1] at hdigit
  fin_cases he <;> cases hdigit

theorem special_inj :
    ∀ p ∈ [('\\', '\\'), ('"', '"'), ('\n', 'n'), ('\r', 'r'), ('\t', 't')],
      ∀ q ∈ [('\\', '\\'), ('"', '"'), ('\n', 'n'), ('\r', 'r'), ('\t', 't')],
        p.2 = q.2 → p.1 = q.1 := by
  decide

theorem escape_inj {c d : Char} {r s : List Char}
    (h : Literal.escape c ++ r = Literal.escape d ++ s) : c = d ∧ r = s := by
  rcases escape_cases c with ⟨e, hc, he⟩ | ⟨hlt, hc⟩ | ⟨hc, hslash, -⟩ <;>
    rcases escape_cases d with ⟨e', hd, he'⟩ | ⟨hlt', hd⟩ | ⟨hd, hslash', -⟩ <;>
    rw [hc, hd] at h <;> simp only [List.cons_append, List.nil_append, List.cons.injEq] at h
  · obtain ⟨-, rfl, hrest⟩ := h
    exact ⟨special_inj _ he _ he' rfl, hrest⟩
  · exact absurd h.2.symm (threeDigits_ne (by omega) he)
  · exact absurd h.1.symm hslash'
  · exact absurd h.2 (threeDigits_ne (by omega) he')
  · obtain ⟨hnat, hrest⟩ := threeDigits_inj (by omega) (by omega) h.2
    exact ⟨Char.toNat_inj.mp hnat, hrest⟩
  · exact absurd h.1.symm hslash'
  · exact absurd h.1 hslash
  · exact absurd h.1 hslash
  · exact h

theorem escape_ne_quote (c : Char) {r s : List Char} : Literal.escape c ++ r ≠ '"' :: s := by
  intro h
  rcases escape_cases c with ⟨e, hc, -⟩ | ⟨-, hc⟩ | ⟨hc, -, hquote, -⟩ <;> rw [hc] at h
  · cases h
  · cases h
  · exact hquote (List.cons.inj h).1

theorem escapes_inj {cs ds : List Char} {r s : List Char}
    (h : cs.flatMap Literal.escape ++ '"' :: r = ds.flatMap Literal.escape ++ '"' :: s) :
    cs = ds ∧ r = s := by
  induction cs generalizing ds with
  | nil =>
      cases ds with
      | nil => exact ⟨rfl, (List.cons.inj h).2⟩
      | cons d ds =>
          rw [List.flatMap_cons, List.append_assoc] at h
          exact absurd h.symm (escape_ne_quote d)
  | cons c cs ih =>
      cases ds with
      | nil =>
          rw [List.flatMap_cons, List.append_assoc] at h
          exact absurd h (escape_ne_quote c)
      | cons d ds =>
          rw [List.flatMap_cons, List.flatMap_cons, List.append_assoc, List.append_assoc] at h
          obtain ⟨rfl, htail⟩ := escape_inj h
          obtain ⟨rfl, hrest⟩ := ih htail
          exact ⟨rfl, hrest⟩

theorem unambiguous_text : Unambiguous Literal.text := by
  intro a b r s h
  simp only [Literal.text, String.toList_ofList, List.cons_append, List.append_assoc,
    List.cons.injEq, true_and] at h
  obtain ⟨hchars, hrest⟩ := escapes_inj h
  exact ⟨String.toList_inj.mp hchars, hrest⟩

theorem unambiguous_truth : Unambiguous Literal.truth := by
  intro a b r s h
  cases a <;> cases b
  · exact ⟨rfl, List.append_cancel_left h⟩
  · cases h
  · cases h
  · exact ⟨rfl, List.append_cancel_left h⟩

/-- Either the list ends after its first text, or a comma and the other texts follow. -/
theorem textItems_cons (s : String) (l : List String) (r : List Char) :
    ∃ rest, (Literal.textItems (s :: l)).toList ++ '\x7d' :: r = (Literal.text s).toList ++ rest ∧
      (l = [] ∧ rest = '\x7d' :: r ∨
        l ≠ [] ∧ rest = ',' :: ' ' :: ((Literal.textItems l).toList ++ '\x7d' :: r)) := by
  cases l with
  | nil => exact ⟨_, rfl, .inl ⟨rfl, rfl⟩⟩
  | cons t l =>
      refine ⟨_, ?_, .inr ⟨by simp, rfl⟩⟩
      simp [Literal.textItems]

theorem textItems_inj {l l' : List String} {r s : List Char}
    (h : (Literal.textItems l).toList ++ '\x7d' :: r =
      (Literal.textItems l').toList ++ '\x7d' :: s) : l = l' ∧ r = s := by
  have hquote : ∀ (a : String) (as : List String) (u v : List Char),
      (Literal.textItems (a :: as)).toList ++ '\x7d' :: u ≠ '\x7d' :: v := by
    intro a as u v h
    obtain ⟨rest, hrest, -⟩ := textItems_cons a as u
    rw [hrest, Literal.text, String.toList_ofList] at h
    cases h
  induction l generalizing l' with
  | nil =>
      cases l' with
      | nil => exact ⟨rfl, (List.cons.inj h).2⟩
      | cons t l' => exact absurd h.symm (hquote t l' _ _)
  | cons a l ih =>
      cases l' with
      | nil => exact absurd h (hquote a l _ _)
      | cons b l' =>
          obtain ⟨rest, hrest, hcases⟩ := textItems_cons a l r
          obtain ⟨rest', hrest', hcases'⟩ := textItems_cons b l' s
          rw [hrest, hrest'] at h
          obtain ⟨rfl, htail⟩ := unambiguous_text h
          rcases hcases with ⟨rfl, rfl⟩ | ⟨-, rfl⟩ <;> rcases hcases' with ⟨rfl, rfl⟩ | ⟨-, rfl⟩
          · exact ⟨rfl, (List.cons.inj htail).2⟩
          · cases htail
          · cases htail
          · simp only [List.cons.injEq, true_and] at htail
            obtain ⟨rfl, hend⟩ := ih htail
            exact ⟨rfl, hend⟩

theorem unambiguous_texts : Unambiguous Literal.texts := by
  intro l l' r s h
  simp only [Literal.texts, String.toList_append, List.append_assoc] at h
  exact textItems_inj (List.append_cancel_left h)

/-- The characters of numbers. -/
def isNumberChar (c : Char) : Bool :=
  c.isDigit || c == '.' || c == '-'

theorem isNumberChar_of_mem {x : Binary64} {c : Char} (hc : c ∈ x.scriptChars) :
    isNumberChar c = true := by
  have hsize : ∀ d ∈ x.sizeChars, isNumberChar d = true := by
    intro d hd
    rcases (Plain.of_writes x.writes_sizeChars).chars d hd with h | rfl
    · simp [isNumberChar, h]
    · rfl
  rw [Binary64.scriptChars_eq, Binary64.signed] at hc
  split_ifs at hc
  · exact hsize c hc
  · rcases List.mem_cons.mp hc with rfl | hc
    · rfl
    · exact hsize c hc
  · exact hsize c hc

/-- A number in front of a character that belongs to no number. -/
theorem number_inj {x y : Binary64} {c : Char} {r s : List Char} (hc : isNumberChar c = false)
    (h : x.scriptChars ++ c :: r = y.scriptChars ++ c :: s) : x.value = y.value ∧ r = s := by
  obtain ⟨hchars, -, hrest⟩ := append_stop_inj (p := isNumberChar)
    (fun _ => isNumberChar_of_mem) (fun _ => isNumberChar_of_mem) hc hc h
  exact ⟨Binary64.scriptChars_eq_iff.mp hchars, hrest⟩

end Literals

section Fields

variable {α : Type} {text : α → String}

theorem Unambiguous.field (h : Unambiguous text) (key : String) :
    Unambiguous fun a => field key (text a) := by
  have hfield := h.append ("\t" ++ key ++ " = ") ",\n"
  exact hfield

theorem unambiguous_textField (key : String) : Unambiguous (textField key) :=
  unambiguous_text.field key

theorem unambiguous_truthField (key : String) :
    Unambiguous fun b => field key (Literal.truth b) :=
  unambiguous_truth.field key

theorem unambiguous_textsField (key : String) :
    Unambiguous fun l => field key (Literal.texts l) :=
  unambiguous_texts.field key

theorem numberField_inj {key : String} {x y : Binary64} {r s : List Char}
    (h : (field key (String.ofList x.scriptChars)).toList ++ r =
      (field key (String.ofList y.scriptChars)).toList ++ s) : x.value = y.value ∧ r = s := by
  simp only [Registration.field, String.toList_append, String.toList_ofList, List.append_assoc]
    at h
  have h := List.append_cancel_left (List.append_cancel_left (List.append_cancel_left h))
  obtain ⟨hvalue, hrest⟩ := number_inj (c := ',') (by decide) h
  exact ⟨hvalue, (List.cons.inj hrest).2⟩

theorem rangeField_inj {key : String} {x x' y y' : Binary64} {r s : List Char}
    (h : (field key ("\x7b" ++ String.ofList x.scriptChars ++ ", " ++
        String.ofList y.scriptChars ++ "\x7d")).toList ++ r =
      (field key ("\x7b" ++ String.ofList x'.scriptChars ++ ", " ++
        String.ofList y'.scriptChars ++ "\x7d")).toList ++ s) :
    x.value = x'.value ∧ y.value = y'.value ∧ r = s := by
  simp only [Registration.field, String.toList_append, String.toList_ofList, List.append_assoc]
    at h
  have h := List.append_cancel_left (List.append_cancel_left (List.append_cancel_left
    (List.append_cancel_left h)))
  obtain ⟨hmin, h⟩ := number_inj (c := ',') (by decide) h
  obtain ⟨hmax, h⟩ := number_inj (c := '\x7d') (by decide) (List.cons.inj h).2
  exact ⟨hmin, hmax, List.append_cancel_left h⟩

end Fields

section Callbacks

/-- The characters are a whole line of the text. -/
def IsLineOf (line cs : List Char) : Prop :=
  ∃ before after, cs = before ++ (line ++ after) ∧ '\n' ∉ line ∧
    (before = [] ∨ before.getLast? = some '\n') ∧ (after = [] ∨ after.head? = some '\n')

/-- A line of the body looks like the line that closes callbacks. -/
def ClosesEarly (body : String) : Prop :=
  IsLineOf "\tend,".toList body.toList

theorem not_closesEarly {body : String} (h : '\t' ∉ body.toList) : ¬ ClosesEarly body := by
  rintro ⟨before, after, heq, -⟩
  apply h
  rw [heq]
  exact List.mem_append_right _ (List.mem_append_left _ (by decide))

/-- What a script shows of the body of a callback. -/
def shownBody (body : String) : String :=
  if body = "" then "" else closeLine body

/-- Lines, each with its line break. -/
def joinLines (ls : List (List Char)) : List Char :=
  ls.flatMap (· ++ ['\n'])

theorem exists_lines {cs : List Char} (hcs : cs = [] ∨ cs.getLast? = some '\n') :
    ∃ ls, cs = joinLines ls ∧ ∀ l ∈ ls, '\n' ∉ l := by
  induction cs with
  | nil => exact ⟨[], rfl, by simp⟩
  | cons c cs ih =>
      rcases hcs with hcs | hcs
      · cases hcs
      · cases cs with
        | nil =>
            cases hcs
            exact ⟨[[]], rfl, by simp⟩
        | cons d cs =>
            rw [List.getLast?_cons_cons] at hcs
            obtain ⟨ls, hls, hlines⟩ := ih (.inr hcs)
            by_cases hc : c = '\n'
            · refine ⟨[] :: ls, ?_, ?_⟩
              · rw [hls, hc]
                rfl
              · intro l hl
                rcases List.mem_cons.mp hl with rfl | hl
                · simp
                · exact hlines l hl
            · cases ls with
              | nil => cases hls
              | cons l ls =>
                  refine ⟨(c :: l) :: ls, ?_, ?_⟩
                  · rw [hls]
                    rfl
                  · intro k hk
                    rcases List.mem_cons.mp hk with rfl | hk
                    · simpa [Ne.symm hc] using hlines l (by simp)
                    · exact hlines k (List.mem_cons_of_mem _ hk)

theorem getLast?_joinLines (ls : List (List Char)) :
    joinLines ls = [] ∨ (joinLines ls).getLast? = some '\n' := by
  induction ls using List.reverseRecOn with
  | nil => exact .inl rfl
  | append_singleton ls l _ =>
      right
      simp [joinLines]

theorem isLineOf_of_closeLine {body : String} {ls ks : List (List Char)} {l : List Char}
    (hl : '\n' ∉ l) (h : (closeLine body).toList = joinLines (ls ++ l :: ks)) :
    IsLineOf l body.toList := by
  have hsplit : (closeLine body).toList =
      joinLines ls ++ (l ++ '\n' :: joinLines ks) := by
    rw [h]
    simp [joinLines]
  rw [closeLine] at hsplit
  split_ifs at hsplit
  · exact ⟨_, _, hsplit, hl, getLast?_joinLines ls, .inr rfl⟩
  · have hnewline : "\n".toList = ['\n'] := rfl
    rw [String.toList_append, hnewline] at hsplit
    rcases getLast?_joinLines ks with hks | hks
    · rw [hks, ← List.append_assoc] at hsplit
      have hbody := List.append_cancel_right hsplit
      exact ⟨_, [], by rw [hbody, List.append_nil], hl, getLast?_joinLines ls, .inl rfl⟩
    · obtain ⟨cs, hcs⟩ := List.getLast?_eq_some_iff.mp hks
      have hassoc : joinLines ls ++ (l ++ '\n' :: joinLines ks) =
          (joinLines ls ++ (l ++ '\n' :: cs)) ++ ['\n'] := by
        rw [hcs]
        simp
      rw [hassoc] at hsplit
      exact ⟨_, _, List.append_cancel_right hsplit, hl, getLast?_joinLines ls, .inr rfl⟩

/-- Lines before the first occurrence of a line. -/
theorem joinLines_inj {l : List Char} (hl : '\n' ∉ l) {ls ks : List (List Char)}
    (hls : ∀ k ∈ ls, '\n' ∉ k ∧ k ≠ l) (hks : ∀ k ∈ ks, '\n' ∉ k ∧ k ≠ l) {r s : List Char}
    (h : joinLines ls ++ (l ++ '\n' :: r) = joinLines ks ++ (l ++ '\n' :: s)) :
    ls = ks ∧ r = s := by
  have hline : ∀ k : List Char, '\n' ∉ k → ∀ c ∈ k, (c != '\n') = true := by
    intro k hk c hc
    rw [bne_iff_ne]
    rintro rfl
    exact hk hc
  induction ls generalizing ks with
  | nil =>
      cases ks with
      | nil => exact ⟨rfl, (List.cons.inj (List.append_cancel_left h)).2⟩
      | cons k ks =>
          obtain ⟨hk, hne⟩ := hks k (by simp)
          simp only [joinLines, List.flatMap_cons, List.append_assoc, List.flatMap_nil,
            List.nil_append, List.singleton_append] at h
          exact absurd (append_stop_inj (hline l hl) (hline k hk) rfl rfl h).1.symm hne
  | cons k ls ih =>
      obtain ⟨hk, hne⟩ := hls k (by simp)
      cases ks with
      | nil =>
          simp only [joinLines, List.flatMap_cons, List.append_assoc, List.flatMap_nil,
            List.nil_append, List.singleton_append] at h
          exact absurd (append_stop_inj (hline k hk) (hline l hl) rfl rfl h).1 hne
      | cons k' ks =>
          obtain ⟨hk', -⟩ := hks k' (by simp)
          simp only [joinLines, List.flatMap_cons, List.append_assoc, List.singleton_append] at h
          obtain ⟨rfl, -, htail⟩ := append_stop_inj (hline k hk) (hline k' hk') rfl rfl h
          obtain ⟨rfl, hrest⟩ := ih (fun m hm => hls m (List.mem_cons_of_mem _ hm))
            (fun m hm => hks m (List.mem_cons_of_mem _ hm)) htail
          exact ⟨rfl, hrest⟩

theorem closeLine_inj {a b : String} (ha : ¬ ClosesEarly a) (hb : ¬ ClosesEarly b)
    {r s : List Char} (h : (closeLine a).toList ++ ("\tend,\n".toList ++ r) =
      (closeLine b).toList ++ ("\tend,\n".toList ++ s)) :
    closeLine a = closeLine b ∧ r = s := by
  obtain ⟨ls, hls, hlines⟩ := exists_lines (.inr (getLast?_closeLine a))
  obtain ⟨ks, hks, hlines'⟩ := exists_lines (.inr (getLast?_closeLine b))
  have hends : ∀ {body : String} {ms : List (List Char)}, ¬ ClosesEarly body →
      (closeLine body).toList = joinLines ms → (∀ l ∈ ms, '\n' ∉ l) →
      ∀ l ∈ ms, '\n' ∉ l ∧ l ≠ "\tend,".toList := by
    intro body ms hbody hms hnone l hl
    refine ⟨hnone l hl, ?_⟩
    rintro rfl
    obtain ⟨before, after, rfl⟩ := List.append_of_mem hl
    exact hbody (isLineOf_of_closeLine (hnone _ hl) hms)
  have hmark : "\tend,\n".toList = "\tend,".toList ++ ['\n'] := rfl
  rw [hls, hks, hmark, List.append_assoc, List.append_assoc] at h
  obtain ⟨rfl, hrest⟩ := joinLines_inj (by decide) (hends ha hls hlines) (hends hb hks hlines') h
  exact ⟨String.toList_inj.mp (hls.trans hks.symm), hrest⟩

theorem callback_inj {parameter a b : String} (ha : ¬ ClosesEarly a) (hb : ¬ ClosesEarly b)
    {r s : List Char} (h : (callback parameter a).toList ++ r =
      (callback parameter b).toList ++ s) : shownBody a = shownBody b ∧ r = s := by
  have hempty : ") end,\n".toList = ')' :: ' ' :: "end,\n".toList := rfl
  have hfull : ")\n".toList = [')', '\n'] := rfl
  rw [callback, callback] at h
  rw [shownBody, shownBody]
  split_ifs at h ⊢ with hzero hzero'
  · exact ⟨rfl, List.append_cancel_left h⟩
  · simp only [String.toList_append, List.append_assoc, hempty, hfull] at h
    cases List.append_cancel_left (List.append_cancel_left h)
  · simp only [String.toList_append, List.append_assoc, hempty, hfull] at h
    cases List.append_cancel_left (List.append_cancel_left h)
  · simp only [String.toList_append, List.append_assoc] at h
    exact closeLine_inj ha hb (List.append_cancel_left (List.append_cancel_left
      (List.append_cancel_left h)))

theorem callback_congr {parameter a b : String} (h : shownBody a = shownBody b) :
    callback parameter a = callback parameter b := by
  have hne : ∀ body, closeLine body ≠ "" := by
    intro body heq
    have hlast := getLast?_closeLine body
    rw [heq] at hlast
    cases hlast
  rw [shownBody, shownBody] at h
  rw [callback, callback]
  split_ifs at h ⊢
  · rfl
  · exact absurd h.symm (hne b)
  · exact absurd h (hne a)
  · rw [h]

end Callbacks

end ControlPanel.Script
