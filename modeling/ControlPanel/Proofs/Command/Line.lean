import ControlPanel.Command.Line
import ControlPanel.Proofs.Outcome
import ControlPanel.Proofs.Widget.Kind

namespace ControlPanel

open Outcome

/-- A part of a command line: an option with its value, or a positional argument. -/
inductive Argument where
  | option (flag : Flag) (value : String)
  | positional (text : String)
deriving DecidableEq, Repr

namespace Argument

/-- The value of an option is not blank, unless it may be, and a positional argument does not look
like an option. -/
def IsWellFormed : Argument → Prop
  | option flag value => Text.trim value ≠ "" ∨ flag = .config ∨ flag = .name ∨ flag = .icon
  | positional text => text ≠ "-h" ∧ ¬['-', '-'] <+: text.toList

instance : (a : Argument) → Decidable a.IsWellFormed
  | option _ _ => inferInstanceAs (Decidable (_ ∨ _ ∨ _ ∨ _))
  | positional _ => inferInstanceAs (Decidable (_ ∧ _))

def words : Argument → List String
  | option flag value => [flag.text, value]
  | positional text => [text]

def option? : Argument → Option (Flag × String)
  | option flag value => some (flag, value)
  | positional _ => none

def value? (flag : Flag) : Argument → Option String
  | option other value => if other = flag then some value else none
  | positional _ => none

def positional? : Argument → Option String
  | option _ _ => none
  | positional text => some text

/-- The words of a command line. -/
def line (as : List Argument) : List String :=
  as.flatMap words

def positionalTexts (as : List Argument) : List String :=
  as.filterMap positional?

def lastValue? (as : List Argument) (flag : Flag) : Option String :=
  (as.filterMap (value? flag)).getLast?

end Argument

/-- What positional arguments ask for, with the values of options. -/
inductive Asks (value? : Flag → Option String) : List String → Request → Prop
  | new : Asks value? ["new"] (.new none)
  | newAt (path : String) : Asks value? ["new", path] (.new (some path))
  | compile (path : String) : Asks value? ["compile", path] (.compile path (value? .out))
  | check (path : String) : Asks value? ["check", path] (.check path)
  | addTab (path : String) :
    Asks value? ["add-tab", path] (.addTab path (value? .name) (value? .icon))
  | addWidget (path : String) {tab text : String} {kind : WidgetKind}
    (htab : value? .tab = some tab) (htext : value? .kind = some text)
    (hkind : kind.IsNamedBy text) :
    Asks value? ["add-widget", path] (.addWidget path tab kind (value? .name))
  | addPreset (path : String) {tab preset : String} (htab : value? .tab = some tab)
    (hpreset : value? .preset = some preset) :
    Asks value? ["add-preset", path] (.addPreset path tab preset)
  | removeTab (path : String) {tab : String} (htab : value? .tab = some tab) :
    Asks value? ["rm-tab", path] (.removeTab path tab)
  | removeWidget (path : String) {tab widget : String} (htab : value? .tab = some tab)
    (hwidget : value? .widget = some widget) :
    Asks value? ["rm-widget", path] (.removeWidget path tab widget)
  | presets : Asks value? ["presets"] .presets
  | presetsAt (path : String) : Asks value? ["presets", path] .presets

namespace Flag

theorem ofText?_text (f : Flag) : ofText? f.text = some f := by
  cases f <;> rfl

theorem text_ne_help (f : Flag) : ¬(f.text = "--help" ∨ f.text = "-h") := by
  cases f <;> decide

theorem starts_text (f : Flag) : ['-', '-'] <+: f.text.toList := by
  cases f <;> decide

theorem ofText?_of_not_starts {s : String} (h : ¬['-', '-'] <+: s.toList) : ofText? s = none := by
  rw [ofText?, List.find?_eq_none]
  intro f _ heq
  rw [← eq_of_beq heq] at h
  exact h f.starts_text

theorem mayBeBlank_iff {f : Flag} : f.mayBeBlank = true ↔ f = .config ∨ f = .name ∨ f = .icon := by
  cases f <;> decide

end Flag

namespace SortedArguments

open Argument

variable {a b : SortedArguments}

/-- Arguments sorted after others. -/
def after (a : SortedArguments) (as : List Argument) : SortedArguments where
  flags := (as.filterMap option?).reverse ++ a.flags
  positionals := a.positionals ++ positionalTexts as

/-- Well-formed arguments are all sorted before what comes after them is looked at. -/
theorem add_line {as : List Argument} (has : ∀ b ∈ as, b.IsWellFormed) (a : SortedArguments)
    (rest : List String) : a.add (line as ++ rest) = (a.after as).add rest := by
  induction as generalizing a with
  | nil => simp [line, after, positionalTexts]
  | cons b as ih =>
      rw [List.forall_mem_cons] at has
      cases b with
      | option f v =>
          have hline : line (.option f v :: as) ++ rest = f.text :: v :: (line as ++ rest) := rfl
          have hvalue : ¬(Text.isBlank v && !f.mayBeBlank) = true := by
            rw [Bool.and_eq_true, Bool.not_eq_true', ← Bool.not_eq_true, Text.isBlank_iff_trim,
              Flag.mayBeBlank_iff, not_and_not_right]
            exact or_iff_not_imp_left.mp has.1 ∘ not_not.mpr
          rw [hline, add, if_neg f.text_ne_help, f.ofText?_text]
          dsimp only
          rw [if_neg hvalue, ih has.2]
          simp [after, positionalTexts, List.filterMap_cons, option?, positional?]
      | positional s =>
          have hline : line (.positional s :: as) ++ rest = s :: (line as ++ rest) := rfl
          have hhelp : ¬(s = "--help" ∨ s = "-h") := by
            rintro (rfl | rfl)
            · exact has.1.2 (by decide)
            · exact has.1.1 rfl
          have hoption : ¬isOption s = true := by
            rw [isOption, List.isPrefixOf_iff_prefix]
            exact has.1.2
          rw [hline, add, if_neg hhelp, Flag.ofText?_of_not_starts has.1.2]
          dsimp only
          rw [if_neg hoption, ih has.2]
          simp [after, positionalTexts, List.filterMap_cons, option?, positional?]

theorem find?_options (as : List Argument) (f : Flag) :
    ((as.filterMap option?).find? fun p => p.1 == f).map Prod.snd =
      as.findSome? (Argument.value? f) := by
  induction as with
  | nil => rfl
  | cons b as ih =>
      cases b with
      | option g v =>
          have hoption : option? (.option g v) = some (g, v) := rfl
          rw [List.filterMap_cons_some hoption, List.findSome?_cons, Argument.value?]
          by_cases hg : g = f
          · rw [List.find?_cons_of_pos (by simpa using hg), if_pos hg]
            rfl
          · rw [List.find?_cons_of_neg (by simpa using hg), if_neg hg]
            exact ih
      | positional s =>
          rw [List.filterMap_cons_none rfl, List.findSome?_cons]
          exact ih

theorem value?_after (as : List Argument) (f : Flag) :
    (after {} as).value? f = lastValue? as f := by
  rw [value?, after, List.append_nil, ← List.filterMap_reverse, find?_options, lastValue?,
    List.getLast?_filterMap]

theorem request_congr (hvalue : ∀ f, a.value? f = b.value? f) (command : String)
    (path : Option String) : a.request command path = b.request command path := by
  simp only [request, need, hvalue]

theorem commandLine_congr (hvalue : ∀ f, a.value? f = b.value? f)
    (hpositionals : a.positionals = b.positionals) : a.commandLine = b.commandLine := by
  simp only [commandLine, hpositionals, hvalue, request_congr hvalue]

theorem need_eq_ok_iff {command v : String} {f : Flag} :
    a.need command f = .ok v ↔ a.value? f = some v := by
  rw [need]
  cases a.value? f <;> simp

theorem needProject_eq_ok_iff {command project : String} {path : Option String} :
    needProject command path = .ok project ↔ path = some project := by
  cases path <;> simp [needProject]

/-- A command with all that it needs asks for something. -/
theorem asks_of_request {command : String} {path : Option String} {r : Request}
    (h : a.request command path = .ok r) : Asks a.value? (command :: path.toList) r := by
  rw [request] at h
  split_ifs at h with hnew hcompile hcheck haddTab haddWidget haddPreset hrmTab hrmWidget hpresets
    <;> simp only [bind_eq_ok_iff, needProject_eq_ok_iff, need_eq_ok_iff, pure_eq_ok_iff,
      Except.ok.injEq] at h
  · subst hnew h
    cases path with
    | none => exact .new
    | some path => exact .newAt path
  · obtain ⟨project, rfl, rfl⟩ := h
    subst hcompile
    exact .compile project
  · obtain ⟨project, rfl, rfl⟩ := h
    subst hcheck
    exact .check project
  · obtain ⟨project, rfl, rfl⟩ := h
    subst haddTab
    exact .addTab project
  · obtain ⟨text, htext, project, rfl, tab, htab, h⟩ := h
    subst haddWidget
    split at h
    · cases h
    · rename_i kind hkind
      cases h
      exact .addWidget project htab htext (WidgetKind.ofText_eq_ok_iff.mp hkind)
  · obtain ⟨project, rfl, tab, htab, preset, hpreset, rfl⟩ := h
    subst haddPreset
    exact .addPreset project htab hpreset
  · obtain ⟨project, rfl, tab, htab, rfl⟩ := h
    subst hrmTab
    exact .removeTab project htab
  · obtain ⟨project, rfl, tab, htab, widget, hwidget, rfl⟩ := h
    subst hrmWidget
    exact .removeWidget project htab hwidget
  · subst hpresets h
    cases path with
    | none => exact .presets
    | some path => exact .presetsAt path

/-- What is asked for is what the command gives. -/
theorem request_of_asks {command : String} {path : Option String} {r : Request}
    (h : Asks a.value? (command :: path.toList) r) : a.request command path = .ok r := by
  cases path with
  | none =>
      cases h with
      | new | presets => rfl
  | some path =>
      cases h with
      | newAt | compile | check | addTab | presetsAt => rfl
      | addWidget _ htab htext hkind =>
          have hkind := WidgetKind.ofText_eq_ok_iff.mpr hkind
          refine bind_eq_ok_iff.mpr ⟨_, need_eq_ok_iff.mpr htext, bind_eq_ok_iff.mpr
            ⟨path, rfl, bind_eq_ok_iff.mpr ⟨_, need_eq_ok_iff.mpr htab, ?_⟩⟩⟩
          rw [hkind]
          rfl
      | addPreset _ htab hpreset =>
          exact bind_eq_ok_iff.mpr ⟨path, rfl, bind_eq_ok_iff.mpr ⟨_, need_eq_ok_iff.mpr htab,
            bind_eq_ok_iff.mpr ⟨_, need_eq_ok_iff.mpr hpreset, rfl⟩⟩⟩
      | removeTab _ htab =>
          exact bind_eq_ok_iff.mpr ⟨path, rfl, bind_eq_ok_iff.mpr
            ⟨_, need_eq_ok_iff.mpr htab, rfl⟩⟩
      | removeWidget _ htab hwidget =>
          exact bind_eq_ok_iff.mpr ⟨path, rfl, bind_eq_ok_iff.mpr ⟨_, need_eq_ok_iff.mpr htab,
            bind_eq_ok_iff.mpr ⟨_, need_eq_ok_iff.mpr hwidget, rfl⟩⟩⟩

theorem commandLine_eq_ok_iff {l : CommandLine} :
    a.commandLine = .ok l ↔
      l.config = a.value? .config ∧ Asks a.value? a.positionals l.request := by
  obtain ⟨config, request⟩ := l
  constructor
  · intro h
    rw [commandLine] at h
    split at h
    · cases h
    · rename_i command hpositionals
      obtain ⟨r, hr, hline⟩ := bind_eq_ok_iff.mp h
      cases hline
      rw [hpositionals]
      exact ⟨rfl, asks_of_request hr⟩
    · rename_i command path hpositionals
      obtain ⟨r, hr, hline⟩ := bind_eq_ok_iff.mp h
      cases hline
      rw [hpositionals]
      exact ⟨rfl, asks_of_request hr⟩
    · cases h
  · rintro ⟨rfl, h⟩
    rw [commandLine]
    split
    · rename_i hpositionals
      rw [hpositionals] at h
      cases h
    · rename_i command hpositionals
      rw [hpositionals] at h
      have hr : a.request command none = .ok request := request_of_asks h
      rw [hr]
      rfl
    · rename_i command path hpositionals
      rw [hpositionals] at h
      have hr : a.request command (some path) = .ok request := request_of_asks h
      rw [hr]
      rfl
    · rename_i hpositionals
      rw [hpositionals] at h
      cases h

end SortedArguments

namespace CommandLine

open Argument

variable {as bs : List Argument}

theorem parse_line (has : ∀ a ∈ as, a.IsWellFormed) :
    parse (line as) = (SortedArguments.after {} as).commandLine.map some := by
  have hsorted := SortedArguments.add_line has {} []
  rw [List.append_nil] at hsorted
  rw [parse, hsorted, SortedArguments.add, ok_bind]
  dsimp only
  cases (SortedArguments.after {} as).commandLine <;> rfl

/-- Well-formed arguments are read by the positional ones and by the last value of each option, in
whatever order they are given, and give exactly what these ask for. After them, help may be asked
for whatever follows. -/
theorem parse_ignores_order :
    (∀ as bs : List Argument, (∀ a ∈ as, a.IsWellFormed) → (∀ b ∈ bs, b.IsWellFormed) →
      positionalTexts as = positionalTexts bs → (∀ f, lastValue? as f = lastValue? bs f) →
      parse (line as) = parse (line bs)) ∧
    (∀ as : List Argument, (∀ a ∈ as, a.IsWellFormed) → ∀ l,
      parse (line as) = .ok (some l) ↔
        l.config = lastValue? as .config ∧ Asks (lastValue? as) (positionalTexts as) l.request) ∧
    ∀ as : List Argument, (∀ a ∈ as, a.IsWellFormed) → ∀ help rest,
      help = "--help" ∨ help = "-h" → parse (line as ++ help :: rest) = .ok none := by
  have hvalue : ∀ as, (SortedArguments.after {} as).value? = lastValue? as :=
    fun as => funext (SortedArguments.value?_after as)
  have hpositionals : ∀ as, (SortedArguments.after {} as).positionals = positionalTexts as :=
    fun as => List.nil_append _
  refine ⟨fun as bs has hbs htexts hvalues => ?_, fun as has l => ?_,
    fun as has help rest hhelp => ?_⟩
  · rw [parse_line has, parse_line hbs, SortedArguments.commandLine_congr]
    · simpa only [hvalue] using hvalues
    · rw [hpositionals, hpositionals, htexts]
  · rw [parse_line has, map_eq_ok_iff]
    simp only [Option.some.injEq, exists_eq_right, SortedArguments.commandLine_eq_ok_iff, hvalue,
      hpositionals]
  · rw [parse, SortedArguments.add_line has, SortedArguments.add, if_pos hhelp]
    rfl

/-- A request for a slider, with a value that looks like an option and one that is given twice. -/
def scattered : List Argument :=
  [.option .name "--help", .positional "add-widget", .option .tab "1", .positional "p.json",
    .option .kind " SLIDER\n", .option .tab "2"]

/-- The same request, command first. -/
def gathered : List Argument :=
  [.positional "add-widget", .positional "p.json", .option .tab "2", .option .kind " SLIDER\n",
    .option .name "--help"]

theorem parse_ignores_order_scattered :
    (∀ a ∈ scattered, a.IsWellFormed) ∧ (∀ a ∈ gathered, a.IsWellFormed) ∧
      parse (line scattered) = parse (line gathered) ∧
      parse (line gathered) =
        .ok (some ⟨none, .addWidget "p.json" "2" .slider (some "--help")⟩) ∧
      parse (line gathered ++ ["-h", "--out"]) = .ok none := by
  obtain ⟨hsame, hasks, hhelp⟩ := parse_ignores_order
  have hscattered : ∀ a ∈ scattered, a.IsWellFormed := by decide +kernel
  have hgathered : ∀ a ∈ gathered, a.IsWellFormed := by decide +kernel
  have hkind : WidgetKind.slider.IsNamedBy " SLIDER\n" :=
    ⟨" ", "SLIDER", "\n", by decide, by decide, by decide, by decide⟩
  exact ⟨hscattered, hgathered,
    hsame _ _ hscattered hgathered rfl fun f => by cases f <;> rfl,
    (hasks _ hgathered _).mpr ⟨rfl, .addWidget "p.json" rfl rfl hkind⟩,
    hhelp _ hgathered "-h" ["--out"] (.inr rfl)⟩

end CommandLine

end ControlPanel
