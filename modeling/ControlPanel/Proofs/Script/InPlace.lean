import ControlPanel.Proofs.Script.Faithful
import ControlPanel.Proofs.Script.ReadBack
import ControlPanel.Proofs.Project.Refusals
import ControlPanel.Script.InPlace

namespace ControlPanel

open Outcome

namespace Registration

theorem sliderNumber_increment (id : WidgetId) :
    sliderNumber id .increment sliderIncrement = .ok "1" := by
  have hfinite : sliderIncrement.isFinite = true := by decide
  rw [sliderNumber_of_finite hfinite, Script.increment_chars]

namespace InPlace

variable {x y : InPlace Unit} {a b : String}

/-- The computation succeeds and writes exactly this text, whatever script it writes to. -/
def Appends (x : InPlace Unit) (text : String) : Prop :=
  ∀ script, x script = .ok () (script ++ text)

theorem appends_write (text : String) : Appends (write text) text :=
  fun _ => rfl

theorem appends_writeText (s : String) : Appends (writeText s) (Literal.text s) :=
  fun script => congrArg (EStateM.Result.ok ()) (Literal.pushText_eq script s)

theorem Appends.seq (hx : Appends x a) (hy : Appends y b) :
    Appends (x >>= fun _ => y) (a ++ b) := by
  intro script
  rw [bind_of_ok (hx script), hy, String.append_assoc]

theorem appends_field (key value : String) :
    Appends (field key value) (Registration.field key value) :=
  appends_write _

theorem appends_textField (key value : String) :
    Appends (textField key value) (Registration.textField key value) := by
  have hparts := (appends_write ("\t" ++ key ++ " = ")).seq
    ((appends_writeText value).seq (appends_write ",\n"))
  rw [← String.append_assoc] at hparts
  exact hparts

theorem appends_flag (id : WidgetId) : Appends (flag id) (Registration.flag id) :=
  appends_textField _ _

theorem appends_callback (parameter body : String) :
    Appends (callback parameter body) (Registration.callback parameter body) := by
  rw [callback, Registration.callback]
  by_cases hbody : body = ""
  · rw [if_pos hbody, if_pos hbody]
    exact appends_write _
  · rw [if_neg hbody, if_neg hbody, closeLine]
    have hopen := appends_write ("\tCallback = function(" ++ parameter ++ ")\n")
    by_cases hline : body.toList.getLast? = some '\n'
    · have hparts := hopen.seq ((appends_write body).seq (appends_write "\tend,\n"))
      simpa only [hline, ne_eq, not_true_eq_false, if_false, if_true, String.append_assoc]
        using hparts
    · have hparts := hopen.seq ((appends_write body).seq
        ((appends_write "\n").seq (appends_write "\tend,\n")))
      simpa only [hline, ne_eq, not_false_eq_true, if_false, if_true, String.append_assoc]
        using hparts

theorem Appends.call (hx : Appends x a) (target method : String) :
    Appends (call target method x) (Registration.call target method a) := by
  have hparts := (appends_write (target ++ ":" ++ method ++ "(\x7b\n")).seq
    (hx.seq (appends_write "\x7d)\n"))
  rw [← String.append_assoc] at hparts
  exact hparts

theorem appends_label (target name : String) (color : Option String) :
    Appends (label target name color)
      (target ++ ":CreateLabel(" ++ Literal.text name ++ labelColor color ++ ")\n") := by
  have hopen := appends_write (target ++ ":CreateLabel(")
  have hname := appends_writeText name
  have hclose := appends_write ")\n"
  have hplain := hopen.seq (hname.seq hclose)
  cases color with
  | none =>
      simpa only [label, labelColor, Option.filter, String.append_empty, String.append_assoc]
        using hplain
  | some c =>
      by_cases hblank : Text.isBlank c = true
      · simpa [label, labelColor, Option.filter, hblank, String.append_assoc] using hplain
      · have hcolor := (appends_write ", nil, Color3.fromHex(").seq
          ((appends_writeText c).seq (appends_write "), false"))
        have hparts := hopen.seq (hname.seq (hcolor.seq hclose))
        simpa [label, labelColor, Option.filter, hblank, String.append_assoc] using hparts

section Numbers

variable {id : WidgetId} {field : SliderField} {n : Binary64} {s : String} {e : ScriptError}

theorem number_eq (id : WidgetId) (field : SliderField) (n : Binary64) (script : String) :
    number id field n script =
      wholly script ((sliderNumber id field n).map fun s => (s, script)) := by
  rw [number, sliderNumber]
  cases Literal.number n <;> rfl

theorem number_of_ok (h : sliderNumber id field n = .ok s) (script : String) :
    number id field n script = .ok s script := by
  rw [number_eq, h]
  rfl

theorem number_of_error (h : sliderNumber id field n = .error e) (script : String) :
    number id field n script = .error e script := by
  rw [number_eq, h]
  rfl

theorem appends_number_bind {k : String → InPlace Unit} {text : String → String}
    (hn : sliderNumber id field n = .ok s) (hk : ∀ t, Appends (k t) (text t)) :
    Appends (number id field n >>= k) (text s) := by
  intro script
  rw [bind_of_ok (number_of_ok hn script), hk]

/-- The end of a computation that appends a text to the script, or nothing if there is an error
instead of the text. -/
def appended (script : String) (r : Except ScriptError String) :
    EStateM.Result ScriptError String Unit :=
  wholly script (r.map fun text => ((), script ++ text))

theorem number_bind_eq {script : String} {k : String → InPlace Unit}
    {f : String → Except ScriptError String} (hk : ∀ s, k s script = appended script (f s)) :
    (number id field n >>= k) script = appended script (sliderNumber id field n >>= f) := by
  cases h : sliderNumber id field n with
  | error e => exact bind_of_error (number_of_error h script)
  | ok s =>
      rw [bind_of_ok (number_of_ok h script)]
      exact hk s

end Numbers

theorem slider_eq (target : String) (id : WidgetId) (name : String) (s : Slider) (script : String) :
    slider target id name s script =
      appended script (sliderFields id name s >>= fun fields =>
        pure (Registration.call target "CreateSlider" fields)) := by
  simp only [sliderFields, bind_assoc]
  refine number_bind_eq fun min => number_bind_eq fun max => number_bind_eq fun value => ?_
  -- From here on pieces are written, and the increment is the one number that is looked at.
  have hincrement := sliderNumber_increment id
  have hrest := appends_number_bind hincrement fun increment =>
    (appends_field "Increment" increment).seq ((appends_textField "Suffix" s.suffix).seq
      ((appends_field "CurrentValue" value).seq
        ((appends_flag id).seq (appends_callback "Value" s.callback))))
  have hfields := (appends_textField "Name" name).seq
    ((appends_field "Range" ("\x7b" ++ min ++ ", " ++ max ++ "\x7d")).seq hrest)
  simp only [← String.append_assoc] at hfields
  rw [hincrement]
  exact hfields.call target "CreateSlider" script

theorem register_eq (w : Widget) (target script : String) :
    register w target script = appended script (w.registration target) := by
  obtain ⟨id, name, control⟩ := w
  have hname := appends_textField "Name" name
  have hflag := appends_flag id
  cases control with
  | button body => exact (hname.seq (appends_callback "" body)).call target "CreateButton" script
  | toggle state body =>
      have hfields := hname.seq ((appends_field "CurrentValue" (Literal.truth state)).seq
        (hflag.seq (appends_callback "Value" body)))
      simp only [← String.append_assoc] at hfields
      exact hfields.call target "CreateToggle" script
  | slider s => exact slider_eq target id name s script
  | input placeholder clears body =>
      have hfields := hname.seq ((appends_textField "CurrentValue" "").seq
        ((appends_textField "PlaceholderText" placeholder).seq
          ((appends_field "RemoveTextAfterFocusLost" (Literal.truth clears)).seq
            (hflag.seq (appends_callback "Text" body)))))
      simp only [← String.append_assoc] at hfields
      exact hfields.call target "CreateInput" script
  | label color => exact appends_label target name color script
  | paragraph content =>
      exact ((appends_textField "Title" name).seq (appends_textField "Content" content)).call target
        "CreateParagraph" script
  | keybind key mustHold body =>
      have hfields := hname.seq ((appends_textField "CurrentKeybind" key).seq
        ((appends_field "HoldToInteract" (Literal.truth mustHold)).seq
          (hflag.seq (appends_callback "Keybind" body))))
      simp only [← String.append_assoc] at hfields
      exact hfields.call target "CreateKeybind" script
  | dropdown options selected several body =>
      have hfields := hname.seq ((appends_field "Options" (Literal.texts options)).seq
        ((appends_field "CurrentOption" (Literal.texts (chosen selected))).seq
          ((appends_field "MultipleOptions" (Literal.truth several)).seq
            (hflag.seq (appends_callback "Options" body)))))
      simp only [← String.append_assoc] at hfields
      exact hfields.call target "CreateDropdown" script

/-- A registration in place leaves what the registration as a whole gives, also with an error. -/
theorem register_eq_match (w : Widget) (target script : String) :
    w.register target script =
      match register w target script with
      | .ok _ script' => (script', none)
      | .error e script' => (script', some e) := by
  rw [register_eq, Widget.register, appended]
  cases w.registration target <;> rfl

theorem register_eq_ok_iff {w : Widget} {target script script' : String} :
    register w target script = .ok () script' ↔
      ∃ text, w.registration target = .ok text ∧ script' = script ++ text := by
  rw [register_eq, appended, wholly_eq_ok_iff, map_eq_ok_iff]
  simp only [Prod.mk.injEq, true_and, eq_comm]

theorem register_eq_error_iff {w : Widget} {target script script' : String} {e : ScriptError} :
    register w target script = .error e script' ↔
      script' = script ∧ w.registration target = .error e := by
  rw [register_eq, appended]
  cases w.registration target with
  | error e' => simp [wholly, Except.map, and_comm, eq_comm]
  | ok text => simp [wholly, Except.map]

end InPlace

theorem registration_eq_error_iff {w : Widget} {target : String} {e : ScriptError} :
    w.registration target = .error e ↔
      ∃ n, w.numbers.find? SliderNumber.isBroken = some n ∧
        e = .notFinite w.id .slider n.field := by
  have hverdict := registration_verdict target w
  have hcheck := checkNumbers_eq_find? [w]
  rw [List.flatMap_singleton] at hcheck
  rcases w.find?_numbers with ⟨hnone, -⟩ | ⟨f, x, hfind, -⟩
  · rw [hnone] at hcheck
    obtain ⟨text, htext⟩ := hverdict.given_iff.mpr ⟨(), hcheck⟩
    rw [htext, hnone]
    constructor
    · intro h
      cases h
    · rintro ⟨n, hn, -⟩
      cases hn
  · rw [hfind] at hcheck
    rw [(hverdict.notFinite_iff w.id f).mpr hcheck, hfind]
    constructor
    · intro h
      cases h
      exact ⟨_, rfl, rfl⟩
    · rintro ⟨n, hn, rfl⟩
      cases hn
      rfl

theorem exists_broken_iff {w : Widget} :
    (∃ n, w.numbers.find? SliderNumber.isBroken = some n) ↔
      ∃ s, w.control = .slider s ∧
        ¬(s.min.isFinite = true ∧ s.max.isFinite = true ∧ s.value.isFinite = true) := by
  rw [← Option.isSome_iff_exists, List.find?_isSome]
  obtain ⟨id, name, control⟩ := w
  cases control with
  | slider s =>
      have hsplit : ∀ x y z : Bool, (x = false ∨ y = false ∨ z = false) ↔
          ¬(x = true ∧ y = true ∧ z = true) := by
        decide
      simpa [Widget.numbers, SliderNumber.isBroken] using
        hsplit s.min.isFinite s.max.isFinite s.value.isFinite
  | button | toggle | input | label | paragraph | keybind | dropdown => simp [Widget.numbers]

/-- The text ends its last line. -/
def EndsLine (text : String) : Prop :=
  text.toList.getLast? = some '\n'

instance (text : String) : Decidable (EndsLine text) :=
  inferInstanceAs (Decidable (_ = _))

theorem EndsLine.append {b : String} (h : EndsLine b) (a : String) : EndsLine (a ++ b) := by
  rw [EndsLine, String.toList_append, List.getLast?_append, h]
  rfl

theorem EndsLine.ne_empty {a : String} (h : EndsLine a) : a ≠ "" := by
  rintro rfl
  cases h

theorem endsLine_field (key value : String) : EndsLine (field key value) :=
  EndsLine.append (by decide) _

theorem endsLine_call (target method fields : String) : EndsLine (call target method fields) :=
  EndsLine.append (by decide) _

/-- The parameter of the callback of each kind. -/
def parameter : WidgetKind → String
  | .toggle => "Value"
  | .slider => "Value"
  | .input => "Text"
  | .keybind => "Keybind"
  | .dropdown => "Options"
  | _ => ""

theorem exists_fields_of_callback {w : Widget} {target text body : String}
    (h : w.registration target = .ok text) (hbody : w.callback? = some body) :
    ∃ method fields, EndsLine fields ∧
      text = call target method (fields ++ callback (parameter w.kind) body) := by
  obtain ⟨id, name, control⟩ := w
  have hflag : ∀ fields, EndsLine (fields ++ flag id) := fun fields =>
    (endsLine_field _ _).append fields
  cases control with
  | button =>
      cases h
      cases hbody
      exact ⟨_, _, endsLine_field _ _, rfl⟩
  | toggle | input | keybind | dropdown =>
      cases h
      cases hbody
      exact ⟨_, _, hflag _, rfl⟩
  | slider s =>
      obtain ⟨fields, hfields, htext⟩ := bind_eq_ok_iff.mp h
      cases htext
      cases hbody
      rw [Script.sliderFields_eq_ok hfields]
      exact ⟨_, _, hflag _, rfl⟩
  | label | paragraph => cases hbody

theorem endsLine_registration {w : Widget} {target text : String}
    (h : w.registration target = .ok text) : EndsLine text := by
  obtain ⟨id, name, control⟩ := w
  cases control with
  | slider s =>
      obtain ⟨fields, -, htext⟩ := bind_eq_ok_iff.mp h
      cases htext
      exact endsLine_call _ _ _
  | label =>
      cases h
      exact EndsLine.append (by decide) _
  | button | toggle | input | paragraph | keybind | dropdown =>
      cases h
      exact endsLine_call _ _ _

/-- The body stands in the text as it is, between the line that opens the callback and the line
that ends it. -/
def Embeds (text parameter body : String) : Prop :=
  ∃ above below, EndsLine above ∧
    text = above ++ "\tCallback = function(" ++ parameter ++ ")\n" ++
      body ++ (if EndsLine body then "" else "\n") ++ "\tend,\n" ++ below

theorem embeds_registration {w : Widget} {target text body : String}
    (h : w.registration target = .ok text) (hbody : w.callback? = some body) (hne : body ≠ "") :
    Embeds text (parameter w.kind) body := by
  obtain ⟨method, fields, hfields, rfl⟩ := exists_fields_of_callback h hbody
  refine ⟨target ++ ":" ++ method ++ "(\x7b\n" ++ fields, "\x7d)\n", hfields.append _, ?_⟩
  have hclose : closeLine body = body ++ if EndsLine body then "" else "\n" := by
    by_cases hline : EndsLine body
    · rw [if_pos hline, String.append_empty, closeLine]
      exact if_pos hline
    · rw [if_neg hline, closeLine]
      exact if_neg hline
  rw [call, callback, if_neg hne, hclose]
  simp only [String.append_assoc]

/-- A registration in place appends its text, the same to every script; the text ends its last line
and embeds the body of the callback. It is refused exactly for a slider with a number that is not
finite, names the first such number and then has written nothing. The increment, which is looked at
after a part is written, is never refused. -/
theorem register_only_appends (w : Widget) (target script : String) :
    (∀ script', InPlace.register w target script = .ok () script' →
      ∃ text, InPlace.register w target "" = .ok () text ∧ script' = script ++ text ∧
        text ≠ "" ∧ EndsLine text ∧
        ∀ body, w.callback? = some body → body ≠ "" → Embeds text (parameter w.kind) body) ∧
    (∀ e script', InPlace.register w target script = .error e script' ↔
      script' = script ∧ ∃ n, w.numbers.find? SliderNumber.isBroken = some n ∧
        e = .notFinite w.id .slider n.field) ∧
    ((∃ e script', InPlace.register w target script = .error e script') ↔
      ∃ s, w.control = .slider s ∧
        ¬(s.min.isFinite = true ∧ s.max.isFinite = true ∧ s.value.isFinite = true)) ∧
    ∀ id written, InPlace.number id .increment sliderIncrement written = .ok "1" written := by
  have hfails : ∀ e script', InPlace.register w target script = .error e script' ↔
      script' = script ∧ ∃ n, w.numbers.find? SliderNumber.isBroken = some n ∧
        e = .notFinite w.id .slider n.field := by
    intro e script'
    rw [InPlace.register_eq_error_iff, registration_eq_error_iff]
  refine ⟨fun script' h => ?_, hfails, ?_,
    fun id => InPlace.number_of_ok (sliderNumber_increment id)⟩
  · obtain ⟨text, htext, rfl⟩ := InPlace.register_eq_ok_iff.mp h
    have hends := endsLine_registration htext
    exact ⟨text, InPlace.register_eq_ok_iff.mpr ⟨text, htext, String.empty_append.symm⟩, rfl,
      hends.ne_empty, hends, fun body => embeds_registration htext⟩
  · rw [← exists_broken_iff]
    constructor
    · rintro ⟨e, script', h⟩
      obtain ⟨-, n, hn, -⟩ := (hfails e script').mp h
      exact ⟨n, hn⟩
    · rintro ⟨n, hn⟩
      exact ⟨_, script, (hfails _ _).mpr ⟨rfl, n, hn, rfl⟩⟩

/-- A slider that starts from the given number. -/
def speed (min : Binary64) : Widget where
  id := ⟨"s"⟩
  name := "Speed"
  control := .slider { Control.freshSlider with min, callback := "print(Value)" }

theorem register_only_appends_speed :
    (∃ text, InPlace.register (speed ⟨0⟩) "Tab1" "-- Page\n" = .ok () ("-- Page\n" ++ text) ∧
      InPlace.register (speed ⟨0⟩) "Tab1" "" = .ok () text ∧
      Embeds text "Value" "print(Value)") ∧
    InPlace.register (speed ⟨0xFFF0000000000000⟩) "Tab1" "-- Page\n" =
      .error (.notFinite ⟨"s"⟩ .slider .min) "-- Page\n" := by
  obtain ⟨hgiven, -⟩ := register_only_appends (speed ⟨0⟩) "Tab1" "-- Page\n"
  obtain ⟨-, hrefused, -⟩ :=
    register_only_appends (speed ⟨0xFFF0000000000000⟩) "Tab1" "-- Page\n"
  obtain ⟨text, htext⟩ := exists_ok (by decide :
    ((speed ⟨0⟩).registration "Tab1").toOption.isSome = true)
  obtain ⟨text', hempty, happended, -, -, hbody⟩ :=
    hgiven _ (InPlace.register_eq_ok_iff.mpr ⟨text, htext, rfl⟩)
  refine ⟨⟨text', ?_, hempty, hbody _ rfl (by decide)⟩, (hrefused _ _).mpr ⟨rfl, ?_⟩⟩
  · exact InPlace.register_eq_ok_iff.mpr ⟨text, htext, happended.symm⟩
  · exact ⟨⟨⟨"s"⟩, .min, ⟨0xFFF0000000000000⟩⟩, by decide, rfl⟩

end Registration

end ControlPanel
