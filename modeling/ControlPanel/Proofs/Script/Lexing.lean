import ControlPanel.Proofs.Script.Tokens

namespace ControlPanel.Script

namespace Lexer

/-- The characters lead from one state to the other and complete the tokens. -/
def Runs (st : State) (cs : List Char) (ts : List Token) (st' : State) : Prop :=
  run st cs = some (st', ts)

instance (st : State) (cs : List Char) (ts : List Token) (st' : State) :
    Decidable (Runs st cs ts st') :=
  inferInstanceAs (Decidable (run st cs = some (st', ts)))

theorem Runs.nil (st : State) : Runs st [] [] st :=
  rfl

theorem Runs.cons {st mid st' : State} {c : Char} {cs : List Char} {ts us : List Token}
    (hc : step st c = some (mid, ts)) (hcs : Runs mid cs us st') :
    Runs st (c :: cs) (ts ++ us) st' := by
  rw [Runs] at hcs
  simp [Runs, run, hc, hcs, Progress.after]

theorem Runs.skip {st mid st' : State} {c : Char} {cs : List Char} {ts : List Token}
    (hc : step st c = some (mid, [])) (hcs : Runs mid cs ts st') : Runs st (c :: cs) ts st' :=
  hcs.cons hc

theorem runs_cons_iff {st st' : State} {c : Char} {cs : List Char} {ts : List Token} :
    Runs st (c :: cs) ts st' ↔
      ∃ mid us vs, step st c = some (mid, us) ∧ Runs mid cs vs st' ∧ ts = us ++ vs := by
  constructor
  · intro h
    rw [Runs, run] at h
    cases hstep : step st c with
    | none => simp [hstep] at h
    | some p =>
        obtain ⟨mid, us⟩ := p
        cases hrun : run mid cs with
        | none => simp [hstep, hrun] at h
        | some q =>
            obtain ⟨st'', vs⟩ := q
            simp [hstep, hrun, Progress.after] at h
            obtain ⟨rfl, rfl⟩ := h
            exact ⟨mid, us, vs, rfl, hrun, rfl⟩
  · rintro ⟨mid, us, vs, hc, hcs, rfl⟩
    exact hcs.cons hc

theorem Runs.append {st mid st' : State} {cs ds : List Char} {ts us : List Token}
    (hcs : Runs st cs ts mid) (hds : Runs mid ds us st') : Runs st (cs ++ ds) (ts ++ us) st' := by
  induction cs generalizing st ts with
  | nil =>
      cases hcs
      exact hds
  | cons c cs ih =>
      obtain ⟨next, ts, ts', hc, hrest, rfl⟩ := runs_cons_iff.mp hcs
      rw [List.append_assoc]
      exact (ih hrest).cons hc

/-- The characters after which neither a name nor a numeral goes on. -/
def isBreak (c : Char) : Bool :=
  [' ', '\n', ',', ':', '(', ')', ']', '\x7d'].contains c

theorem not_continues_of_isBreak {c : Char} (hc : isBreak c) :
    isNameChar c = false ∧ ∀ cs, continuesNumeral cs c = false := by
  have hnone : isNameChar c = false ∧ c ≠ '.' ∧ c ≠ '+' ∧ c ≠ '-' := by
    simp only [isBreak, List.contains_cons, List.contains_nil, Bool.or_false, Bool.or_eq_true,
      beq_iff_eq] at hc
    rcases hc with rfl | rfl | rfl | rfl | rfl | rfl | rfl | rfl <;> decide
  obtain ⟨hname, hdot, hplus, hminus⟩ := hnone
  exact ⟨hname, fun cs => by simp [continuesNumeral, hname, hdot, hplus, hminus]⟩

/-- The end of the token that the state is in, at a break. -/
def Pending (st : State) (ts : List Token) : Prop :=
  ∀ c, isBreak c → step st c = some ((begin c).after ts)

end Lexer

open Lexer

/-- The text starts and ends between tokens. -/
def Reads (s : String) (ts : List Token) : Prop :=
  Runs .start s.toList ts .start

instance (s : String) (ts : List Token) : Decidable (Reads s ts) :=
  inferInstanceAs (Decidable (Runs .start s.toList ts .start))

/-- The text has the tokens in front of a break. -/
def Spells (s : String) (ts : List Token) : Prop :=
  ∃ st us vs, Runs .start s.toList us st ∧ Pending st vs ∧ ts = us ++ vs

theorem reads_empty : Reads "" [] :=
  rfl

theorem Reads.append {s t : String} {ts us : List Token} (hs : Reads s ts) (ht : Reads t us) :
    Reads (s ++ t) (ts ++ us) := by
  rw [Reads, String.toList_append]
  exact Runs.append hs ht

theorem Reads.spells {s : String} {ts : List Token} (hs : Reads s ts) : Spells s ts :=
  ⟨.start, ts, [], hs, fun _ _ => rfl, (List.append_nil ts).symm⟩

theorem Reads.append_spells {s t : String} {ts us : List Token} (hs : Reads s ts)
    (ht : Spells t us) : Spells (s ++ t) (ts ++ us) := by
  obtain ⟨st, vs, ws, hruns, hpending, rfl⟩ := ht
  refine ⟨st, ts ++ vs, ws, ?_, hpending, (List.append_assoc ..).symm⟩
  rw [String.toList_append]
  exact Runs.append hs hruns

def startsWithBreak (s : String) : Bool :=
  s.toList.head?.any isBreak

theorem Spells.append {s t : String} {ts us : List Token} (hs : Spells s ts) (ht : Reads t us)
    (hbreak : startsWithBreak t = true) : Reads (s ++ t) (ts ++ us) := by
  obtain ⟨st, vs, ws, hruns, hpending, rfl⟩ := hs
  obtain ⟨c, hc, hcbreak⟩ := (Option.any_eq_true _ _).mp hbreak
  obtain ⟨cs, hcs⟩ := List.head?_eq_some_iff.mp hc
  rw [Reads, hcs] at ht
  rw [Reads, String.toList_append, hcs, List.append_assoc]
  apply hruns.append
  obtain ⟨mid, us, us', hstep, hrest, rfl⟩ := runs_cons_iff.mp ht
  have hbegin : begin c = (mid, us) := Option.some.inj hstep
  rw [← List.append_assoc]
  apply hrest.cons
  rw [hpending c hcbreak, hbegin, Progress.after]

theorem tokens?_of_reads {s : String} {ts : List Token} (hs : Reads s ts) :
    tokens? s = some ts := by
  rw [Reads, Runs] at hs
  simp [tokens?, hs, finish]

section Lines

/-- The state is between tokens, or no text may end in it. -/
def Settled (st : State) : Prop :=
  st = .start ∨ finish st = none

theorem begin_newline : begin '\n' = (.start, []) := by
  decide

theorem not_mem_pairs_newline (c : Char) : (pairs c).contains '\n' = false := by
  unfold pairs
  split <;> decide

theorem inText_newline {quote : Char} {bytes : List UInt8} {mid : State} {ts : List Token}
    (h : inText quote bytes '\n' = some (mid, ts)) : Settled mid := by
  rw [inText] at h
  split_ifs at h with hquote hline
  · cases h
    exact .inl rfl
  · exact absurd (by decide) hline
  · exact absurd (by decide) hline

theorem inLong_newline (isComment : Bool) (level : Nat) (bytes : List UInt8) :
    Settled (inLong isComment level bytes '\n').1 := by
  rw [inLong, if_neg (by decide), if_pos (by decide)]
  exact .inr rfl

theorem stepLong_newline (isComment : Bool) (level : Nat) (bytes : List UInt8)
    (phase : LongPhase) : Settled (stepLong isComment level bytes '\n' phase).1 := by
  cases phase with
  | opened => exact .inr rfl
  | plain => exact inLong_newline isComment level bytes
  | newline first =>
      rw [stepLong]
      split_ifs
      · exact .inr rfl
      · exact inLong_newline isComment level bytes
  | closing count =>
      rw [stepLong, if_neg (by decide), if_neg (by simp)]
      exact inLong_newline isComment level _

theorem stepText_newline {quote : Char} {bytes : List UInt8} {phase : TextPhase} {mid : State}
    {ts : List Token} (h : stepText quote bytes '\n' phase = some (mid, ts)) : Settled mid := by
  cases phase with
  | plain => exact inText_newline h
  | escape =>
      cases h
      exact .inr rfl
  | decimal count value => exact inText_newline h
  | hex first => cases first <;> cases h
  | spaces =>
      cases h
      exact .inr rfl
  | newline first =>
      rw [stepText] at h
      split_ifs at h
      · cases h
        exact .inr rfl
      · exact inText_newline h
  | codePoint => cases h
  | codeDigits count value => cases h

theorem step_newline {st mid : State} {ts : List Token} (h : step st '\n' = some (mid, ts)) :
    Settled mid := by
  have hbegin : ∀ us, (begin '\n').after us = (mid, ts) → Settled mid := by
    intro us h
    rw [begin_newline] at h
    cases h
    exact .inl rfl
  have hcomment : inComment '\n' = (mid, ts) → Settled mid := by
    intro h
    cases h
    exact .inl rfl
  cases st with
  | start => exact hbegin [] (Option.some.inj h)
  | name cs => exact hbegin _ (Option.some.inj h)
  | numeral cs =>
      rw [step] at h
      split_ifs at h
      · cases h
        exact absurd ‹continuesNumeral cs '\n' = true› (by
          simp [(not_continues_of_isBreak (by decide : isBreak '\n')).2])
      · exact hbegin _ (Option.some.inj h)
  | dash => exact hbegin _ (Option.some.inj h)
  | dot => exact hbegin _ (Option.some.inj h)
  | dots => exact hbegin _ (Option.some.inj h)
  | pair first =>
      rw [step, not_mem_pairs_newline] at h
      exact hbegin _ (Option.some.inj h)
  | bracket level =>
      rw [step, if_neg (by decide), if_neg (by decide)] at h
      split_ifs at h
      exact hbegin _ (Option.some.inj h)
  | commentStart => exact hcomment (Option.some.inj h)
  | commentBracket level => exact hcomment (Option.some.inj h)
  | comment => exact hcomment (Option.some.inj h)
  | long isComment level phase bytes =>
      have hlong := stepLong_newline isComment level bytes phase
      rw [step, Option.some.injEq] at h
      rwa [h] at hlong
  | text quote phase bytes => exact stepText_newline h

/-- A text that has tokens ends between tokens if it ends with a line break. -/
theorem reads_of_tokens? {s : String} {ts : List Token} (hs : tokens? s = some ts)
    (hline : s.toList.getLast? = some '\n') : Reads s ts := by
  obtain ⟨cs, hcs⟩ := List.getLast?_eq_some_iff.mp hline
  have hlast : ∀ (st st' : State) (us : List Token), Runs st (cs ++ ['\n']) us st' →
      Settled st' := by
    clear hline hs hcs
    induction cs with
    | nil =>
        intro st st' us h
        obtain ⟨mid, us, vs, hstep, hrest, rfl⟩ := runs_cons_iff.mp h
        cases hrest
        exact step_newline hstep
    | cons c cs ih =>
        intro st st' us h
        obtain ⟨mid, us, vs, -, hrest, rfl⟩ := runs_cons_iff.mp h
        exact ih mid st' vs hrest
  cases hrun : run .start s.toList with
  | none => simp [tokens?, hrun] at hs
  | some p =>
      obtain ⟨st, us⟩ := p
      have hsettled : Settled st := hlast .start st us (hcs ▸ hrun)
      rcases hsettled with rfl | hopen
      · simp [tokens?, hrun, finish] at hs
        rw [Reads, Runs, hrun, hs]
      · simp [tokens?, hrun, hopen] at hs

end Lines

end ControlPanel.Script
