import ControlPanel.Proofs.Outcome
import ControlPanel.Proofs.Script.Literals
import ControlPanel.Script.Compile

namespace ControlPanel

open Script Registration

namespace Script

def truthToken (b : Bool) : Token :=
  .name (if b then "true" else "false")

def tableTokens (ts : List Token) : List Token :=
  .mark "\x7b" :: ts ++ [.mark "\x7d"]

/-- A field of a table. -/
def entryTokens (key : String) (value : List Token) : List Token :=
  .name key :: .mark "=" :: value ++ [.mark ","]

def textTokens (key value : String) : List Token :=
  entryTokens key [.ofText value]

/-- The tokens that the body of a callback has on its own. -/
def bodyTokens (body : String) : List Token :=
  if body = "" then [] else (tokens? (closeLine body)).getD []

def callbackTokens (parameters : List Token) (body : String) : List Token :=
  entryTokens "Callback"
    (.name "function" :: .mark "(" :: parameters ++ .mark ")" :: bodyTokens body ++ [.name "end"])

def callTokens (target : List Token) (method : String) (arguments : List Token) : List Token :=
  target ++ .mark ":" :: .name method :: .mark "(" :: arguments ++ [.mark ")"]

/-- The arguments of a label that has a color. -/
def colorTokens : Option String → List Token
  | some color =>
    if Text.isBlank color then []
    else
      [.mark ",", .name "nil", .mark ",", .name "Color3", .mark ".", .name "fromHex", .mark "(",
       .ofText color, .mark ")", .mark ",", .name "false"]
  | none => []

def sliderTokens (w : Widget) (s : Slider) : List Token :=
  textTokens "Name" w.name ++
    entryTokens "Range" (tableTokens (numberTokens s.min ++ .mark "," :: numberTokens s.max)) ++
    entryTokens "Increment" [.numeral "1"] ++ textTokens "Suffix" s.suffix ++
    entryTokens "CurrentValue" (numberTokens s.value) ++ textTokens "Flag" w.id.text ++
    callbackTokens [.name "Value"] s.callback

/-- The call that registers a widget. -/
def widgetTokens (target : List Token) (w : Widget) : List Token :=
  match w.control with
  | .button body =>
    callTokens target "CreateButton"
      (tableTokens (textTokens "Name" w.name ++ callbackTokens [] body))
  | .toggle state body =>
    callTokens target "CreateToggle"
      (tableTokens (textTokens "Name" w.name ++ entryTokens "CurrentValue" [truthToken state] ++
        textTokens "Flag" w.id.text ++ callbackTokens [.name "Value"] body))
  | .slider s => callTokens target "CreateSlider" (tableTokens (sliderTokens w s))
  | .input placeholder clears body =>
    callTokens target "CreateInput"
      (tableTokens (textTokens "Name" w.name ++ textTokens "CurrentValue" "" ++
        textTokens "PlaceholderText" placeholder ++
        entryTokens "RemoveTextAfterFocusLost" [truthToken clears] ++
        textTokens "Flag" w.id.text ++ callbackTokens [.name "Text"] body))
  | .label color => callTokens target "CreateLabel" (.ofText w.name :: colorTokens color)
  | .paragraph content =>
    callTokens target "CreateParagraph"
      (tableTokens (textTokens "Title" w.name ++ textTokens "Content" content))
  | .keybind key mustHold body =>
    callTokens target "CreateKeybind"
      (tableTokens (textTokens "Name" w.name ++ textTokens "CurrentKeybind" key ++
        entryTokens "HoldToInteract" [truthToken mustHold] ++ textTokens "Flag" w.id.text ++
        callbackTokens [.name "Keybind"] body))
  | .dropdown options selected several body =>
    callTokens target "CreateDropdown"
      (tableTokens (textTokens "Name" w.name ++ entryTokens "Options" (textsTokens options) ++
        entryTokens "CurrentOption" (textsTokens (if selected = "" then [] else [selected])) ++
        entryTokens "MultipleOptions" [truthToken several] ++ textTokens "Flag" w.id.text ++
        callbackTokens [.name "Options"] body))

/-- The variable of the tab at an index: a local of its own or a slot of the table. -/
def targetTokens (tabled : Bool) (index : Nat) : List Token :=
  if tabled then
    [.name "Tabs", .mark "[", .numeral (toString (index + 1)), .mark "]"]
  else [.name ("Tab" ++ toString (index + 1))]

/-- The icon is a number if it has digits only, and a text else. -/
def iconTokens (icon : String) : List Token :=
  let icon := Text.trim icon
  if icon = "" then []
  else if icon.toList.all Char.isDigit then [.mark ",", .numeral icon]
  else [.mark ",", .ofText icon]

/-- The statement that creates a tab and the calls for its widgets. -/
def tabTokens (tabled : Bool) (index : Nat) (t : Tab) : List Token :=
  (if tabled then [] else [.name "local"]) ++ targetTokens tabled index ++ .mark "=" ::
    callTokens [.name "Window"] "CreateTab" (.ofText t.name :: iconTokens t.icon) ++
    t.widgets.flatMap (widgetTokens (targetTokens tabled index))

def savingTokens (c : ConfigurationSaving) : List Token :=
  entryTokens "ConfigurationSaving"
    (tableTokens (entryTokens "Enabled" [truthToken c.enabled] ++
      textTokens "FolderName" c.folderName ++ textTokens "FileName" c.fileName))

def keyTokens (k : KeySettings) : List Token :=
  entryTokens "KeySettings"
    (tableTokens (textTokens "Title" k.title ++ textTokens "Subtitle" k.subtitle ++
      textTokens "Note" k.note ++ textTokens "FileName" k.fileName ++
      entryTokens "SaveKey" [truthToken k.saveKey] ++ textTokens "GrabbingKey" k.grabbingKey ++
      entryTokens "Key" (textsTokens [k.key])))

/-- The statement that loads the library. -/
def libraryTokens (url : String) : List Token :=
  [.name "local", .name "Rayfield", .mark "=", .name "loadstring", .mark "(", .name "game",
   .mark ":", .name "HttpGet", .mark "(", .ofText url, .mark ")", .mark ")", .mark "(", .mark ")"]

/-- The statement that creates the window. -/
def windowTokens (w : Window) : List Token :=
  .name "local" :: .name "Window" :: .mark "=" ::
    callTokens [.name "Rayfield"] "CreateWindow"
      (tableTokens (textTokens "Name" w.name ++ textTokens "LoadingTitle" w.loadingTitle ++
        textTokens "LoadingSubtitle" w.loadingSubtitle ++ savingTokens w.configurationSaving ++
        entryTokens "KeySystem" [truthToken w.keySystem] ++
        if w.keySystem then keyTokens w.keySettings else []))

end Script

/-- The tokens of the script that a document calls for. -/
def Document.scriptTokens (d : Document) (options : ScriptOptions) : List Token :=
  let tabled := decide (190 < d.tabs.length)
  libraryTokens options.libraryUrl ++ windowTokens d.window ++
    (if tabled then [.name "local", .name "Tabs", .mark "=", .mark "\x7b", .mark "\x7d"] else []) ++
    (d.tabs.zipIdx.flatMap fun t => tabTokens tabled t.2 t.1)

namespace Script

section Fields

variable {value : String} {ts : List Token}

theorem reads_field (key : String) (hkey : isName key = true) (hvalue : Spells value ts) :
    Reads (field key value) (entryTokens key ts) := by
  have htab : Reads "\t" [] := by decide
  have hequals : Reads " = " [.mark "="] := by decide
  have hcomma : Reads ",\n" [.mark ","] := by decide
  have hleft := (htab.append_spells (spells_name hkey)).append hequals (by decide)
  have hall := (hleft.append_spells hvalue).append hcomma (by decide)
  simpa [field, entryTokens] using hall

theorem reads_textField (key : String) (hkey : isName key = true) (value : String) :
    Reads (textField key value) (textTokens key value) :=
  reads_field key hkey (reads_text value).spells

theorem reads_truthField (key : String) (hkey : isName key = true) (b : Bool) :
    Reads (field key (Literal.truth b)) (entryTokens key [truthToken b]) :=
  reads_field key hkey (spells_name (isName_truth b))

theorem reads_entry (depth : Nat) (key : String) (hkey : isName key = true)
    (hvalue : Spells value ts) :
    Reads (entry depth key value) (entryTokens key ts) := by
  have htabs : Reads (String.ofList (List.replicate depth '\t')) [] := by
    rw [Reads, String.toList_ofList]
    induction depth with
    | zero => exact .nil _
    | succ depth ih => exact ih.skip rfl
  have hequals : Reads " = " [.mark "="] := by decide
  have hcomma : Reads ",\n" [.mark ","] := by decide
  have hleft := (htabs.append_spells (spells_name hkey)).append hequals (by decide)
  have hall := (hleft.append_spells hvalue).append hcomma (by decide)
  simpa [entry, entryTokens] using hall

theorem reads_textEntry (depth : Nat) (key : String) (hkey : isName key = true) (value : String) :
    Reads (textEntry depth key value) (textTokens key value) :=
  reads_entry depth key hkey (reads_text value).spells

theorem reads_truthEntry (depth : Nat) (key : String) (hkey : isName key = true) (b : Bool) :
    Reads (entry depth key (Literal.truth b)) (entryTokens key [truthToken b]) :=
  reads_entry depth key hkey (spells_name (isName_truth b))

end Fields

section Callbacks

/-- The body has tokens on its own, once its last line is closed. -/
def Tokenizes (body : String) : Prop :=
  body ≠ "" → ∃ ts, tokens? (closeLine body) = some ts

theorem reads_body {body : String} (hne : body ≠ "") (hbody : Tokenizes body) :
    Reads (closeLine body) (bodyTokens body) := by
  obtain ⟨ts, hts⟩ := hbody hne
  rw [bodyTokens, if_neg hne, hts]
  exact reads_of_tokens? hts (getLast?_closeLine body)

theorem reads_callback {parameter body : String} {ps : List Token}
    (hparameter : Spells parameter ps) (hbody : Tokenizes body) :
    Reads (callback parameter body) (callbackTokens ps body) := by
  have hopen : Reads "\tCallback = function(" [.name "Callback", .mark "=", .name "function",
      .mark "("] := by decide
  rw [callback]
  split_ifs with hempty
  · have hclose : Reads ") end,\n" [.mark ")", .name "end", .mark ","] := by decide
    have hall := (hopen.append_spells hparameter).append hclose (by decide)
    simpa [callbackTokens, entryTokens, bodyTokens, hempty] using hall
  · have hline : Reads ")\n" [.mark ")"] := by decide
    have hclose : Reads "\tend,\n" [.name "end", .mark ","] := by decide
    have hhead := (hopen.append_spells hparameter).append hline (by decide)
    have hall := (hhead.append (reads_body hempty hbody)).append hclose
    simpa [callbackTokens, entryTokens] using hall

end Callbacks

section Widgets

theorem startsWithBreak_append {s : String} (hs : startsWithBreak s = true) (t : String) :
    startsWithBreak (s ++ t) = true := by
  obtain ⟨c, hc, hbreak⟩ := (Option.any_eq_true _ _).mp hs
  obtain ⟨cs, hcs⟩ := List.head?_eq_some_iff.mp hc
  rw [startsWithBreak, String.toList_append, hcs]
  exact hbreak

variable {tab : String} {ts : List Token}

theorem reads_opening (htab : Spells tab ts) (method : String) {opening : String} {us : List Token}
    (hmethod : isName method = true) (hopening : Reads opening us)
    (hbreak : startsWithBreak opening = true) :
    Reads (tab ++ ":" ++ method ++ opening) (ts ++ .mark ":" :: .name method :: us) := by
  have hrest := (spells_method hmethod).append hopening hbreak
  have hcolon : startsWithBreak (":" ++ method ++ opening) = true :=
    startsWithBreak_append (startsWithBreak_append (by decide) _) _
  have hall := htab.append hrest hcolon
  simpa [String.append_assoc] using hall

theorem reads_call (htab : Spells tab ts) {method fields : String} {fs : List Token}
    (hmethod : isName method = true) (hfields : Reads fields fs) :
    Reads (call tab method fields) (callTokens ts method (tableTokens fs)) := by
  have hopen : Reads "(\x7b\n" [.mark "(", .mark "\x7b"] := by decide
  have hclose : Reads "\x7d)\n" [.mark "\x7d", .mark ")"] := by decide
  have hleft := reads_opening htab method hmethod hopen (by decide)
  have hall := (hleft.append hfields).append hclose
  simpa [call, callTokens, tableTokens] using hall

theorem spells_labelColor (color : Option String) :
    Spells (labelColor color) (colorTokens color) := by
  cases color with
  | none => exact reads_empty.spells
  | some color =>
      rw [labelColor, colorTokens]
      split_ifs
      · exact reads_empty.spells
      · have hleft : Reads ", nil, Color3.fromHex(" [.mark ",", .name "nil", .mark ",",
            .name "Color3", .mark ".", .name "fromHex", .mark "("] := by decide
        have hright : Spells "), false" [.mark ")", .mark ",", .name "false"] :=
          ⟨.name ['f', 'a', 'l', 's', 'e'], [.mark ")", .mark ","], [.name "false"],
            by decide, pending_name _, rfl⟩
        exact (hleft.append (reads_text color)).append_spells hright

theorem reads_label (htab : Spells tab ts) (name : String) (color : Option String) :
    Reads (tab ++ ":CreateLabel(" ++ Literal.text name ++ labelColor color ++ ")\n")
      (callTokens ts "CreateLabel" (.ofText name :: colorTokens color)) := by
  have hopen : Reads "(" [.mark "("] := by decide
  have hclose : Reads ")\n" [.mark ")"] := by decide
  have hmethod : ":CreateLabel(" = ":" ++ "CreateLabel" ++ "(" := by decide
  have hleft := reads_opening htab "CreateLabel" (by decide) hopen
    (by decide)
  have hall := ((hleft.append (reads_text name)).append_spells (spells_labelColor color)).append
    hclose (by decide)
  rw [hmethod]
  simpa [callTokens, String.append_assoc] using hall

theorem sliderNumber_eq_ok {id : WidgetId} {field : SliderField} {x : Binary64} {s : String}
    (h : sliderNumber id field x = .ok s) : s = String.ofList x.scriptChars := by
  rw [sliderNumber, Literal.number] at h
  by_cases hx : x.isFinite = true
  · rw [if_pos hx] at h
    exact (Except.ok.inj h).symm
  · rw [if_neg hx] at h
    cases h

theorem increment_chars : sliderIncrement.scriptChars = ['1'] := by
  decide

theorem sliderFields_eq_ok {id : WidgetId} {name : String} {s : Slider} {fields : String}
    (h : sliderFields id name s = .ok fields) :
    fields = textField "Name" name ++
      field "Range" ("\x7b" ++ String.ofList s.min.scriptChars ++ ", " ++
        String.ofList s.max.scriptChars ++ "\x7d") ++
      field "Increment" "1" ++ textField "Suffix" s.suffix ++
      field "CurrentValue" (String.ofList s.value.scriptChars) ++ flag id ++
      callback "Value" s.callback := by
  simp only [sliderFields, Outcome.bind_eq_ok_iff, Outcome.pure_eq_ok_iff] at h
  obtain ⟨min, hmin, max, hmax, value, hvalue, increment, hincrement, rfl⟩ := h
  rw [sliderNumber_eq_ok hmin, sliderNumber_eq_ok hmax, sliderNumber_eq_ok hvalue,
    sliderNumber_eq_ok hincrement, increment_chars]

theorem reads_slider {w : Widget} {s : Slider} {fields : String}
    (h : sliderFields w.id w.name s = .ok fields) (hbody : Tokenizes s.callback) :
    Reads fields (sliderTokens w s) := by
  have hopen : Reads "\x7b" [.mark "\x7b"] := by decide
  have hcomma : Reads ", " [.mark ","] := by decide
  have hclose : Reads "\x7d" [.mark "\x7d"] := by decide
  have hrange : Reads ("\x7b" ++ String.ofList s.min.scriptChars ++ ", " ++
      String.ofList s.max.scriptChars ++ "\x7d")
      (tableTokens (numberTokens s.min ++ .mark "," :: numberTokens s.max)) := by
    have hmin := (hopen.append_spells (spells_scriptChars s.min)).append hcomma (by decide)
    have hmax := (hmin.append_spells (spells_scriptChars s.max)).append hclose (by decide)
    simpa [tableTokens] using hmax
  have hone : Spells "1" [.numeral "1"] := spells_numeral (.whole rfl (by simp [AllDigits]))
  rw [sliderFields_eq_ok h, sliderTokens]
  exact ((((((reads_textField _ (by decide) w.name).append
    (reads_field _ (by decide) hrange.spells)).append
    (reads_field _ (by decide) hone)).append
    (reads_textField _ (by decide) s.suffix)).append
    (reads_field _ (by decide) (spells_scriptChars s.value))).append
    (reads_textField _ (by decide) w.id.text)).append
    (reads_callback (spells_name (by decide)) hbody)

theorem reads_registration (htab : Spells tab ts) {w : Widget} {text : String}
    (h : w.registration tab = .ok text)
    (hbody : ∀ body, w.callback? = some body → Tokenizes body) :
    Reads text (widgetTokens ts w) := by
  obtain ⟨id, name, control⟩ := w
  rw [Widget.registration] at h
  rw [widgetTokens]
  have hname := reads_textField "Name" (by decide) name
  have hflag := reads_textField "Flag" (by decide) id.text
  cases control with
  | button body =>
      cases h
      exact reads_call htab (by decide)
        (hname.append (reads_callback reads_empty.spells (hbody body rfl)))
  | toggle state body =>
      cases h
      exact reads_call htab (by decide)
        (((hname.append (reads_truthField _ (by decide) state)).append hflag).append
        (reads_callback (spells_name (by decide)) (hbody body rfl)))
  | slider s =>
      obtain ⟨fields, hfields, htext⟩ := Outcome.bind_eq_ok_iff.mp h
      cases htext
      exact reads_call htab (by decide) (reads_slider hfields (hbody _ rfl))
  | input placeholder clears body =>
      cases h
      exact reads_call htab (by decide)
        (((((hname.append (reads_textField _ (by decide) "")).append
        (reads_textField _ (by decide) placeholder)).append
        (reads_truthField _ (by decide) clears)).append hflag).append
        (reads_callback (spells_name (by decide)) (hbody body rfl)))
  | label color =>
      cases h
      exact reads_label htab name color
  | paragraph content =>
      cases h
      exact reads_call htab (by decide)
        ((reads_textField _ (by decide) name).append
        (reads_textField _ (by decide) content))
  | keybind key mustHold body =>
      cases h
      exact reads_call htab (by decide)
        ((((hname.append (reads_textField _ (by decide) key)).append
        (reads_truthField _ (by decide) mustHold)).append hflag).append
        (reads_callback (spells_name (by decide)) (hbody body rfl)))
  | dropdown options selected several body =>
      cases h
      exact reads_call htab (by decide)
        (((((hname.append (reads_field _ (by decide) (reads_texts options).spells)).append
        (reads_field _ (by decide) (reads_texts (chosen selected)).spells)).append
        (reads_truthField _ (by decide) several)).append hflag).append
        (reads_callback (spells_name (by decide)) (hbody body rfl)))

end Widgets

section Tabs

theorem spells_tabLocal (index : Nat) :
    Spells (tabLocal index) [.name ("Tab" ++ toString (index + 1))] := by
  apply spells_name
  rw [isName, tabLocal, String.toList_append, toList_toString]
  have hdigits : (Nat.toDigits 10 (index + 1)).all Lexer.isNameChar = true := by
    rw [List.all_eq_true]
    intro c hc
    simp [Lexer.isNameChar, Char.isAlphanum, allDigits_toDigits _ c hc]
  have htab : "Tab".toList = ['T', 'a', 'b'] := rfl
  rw [htab, List.cons_append, List.cons_append, List.cons_append, List.nil_append]
  simp only [List.all_cons, hdigits]
  decide

theorem reads_tabSlot (index : Nat) :
    Reads (tabSlot index)
      [.name "Tabs", .mark "[", .numeral (toString (index + 1)), .mark "]"] := by
  obtain ⟨c, cs, hcons, hc, -, hcs⟩ := exists_toDigits_eq_cons (Nat.succ_pos index)
  have hopen : Lexer.Runs .start "Tabs[".toList [.name "Tabs"] (.bracket 0) := by decide
  have hfirst : Lexer.step (.bracket 0) c = some (.numeral [c], [.mark "["]) := by
    rw [Lexer.step, if_neg ?_, if_neg ?_, if_pos rfl, begin_digit hc]
    · rfl
    · rintro rfl
      cases hc
    · rintro rfl
      cases hc
  have hdigits : Lexer.Runs (.numeral [c]) cs [] (.numeral (c :: cs)) :=
    runs_numeralChars _ fun d hd => .inl (hcs d hd)
  have hclose : Lexer.Runs (.numeral (c :: cs)) [']']
      [.numeral (toString (index + 1)), .mark "]"] .start := by
    have hpending := pending_numeral (Plain.whole hc hcs).isNumeral ']' (by decide)
    have htext : String.ofList (c :: cs) = toString (index + 1) := by
      rw [← hcons, ← toList_toString, String.ofList_toList]
    rw [htext] at hpending
    exact (Lexer.Runs.nil .start).cons hpending
  have hall := hopen.append ((hdigits.append hclose).cons hfirst)
  have hchars : (tabSlot index).toList = "Tabs[".toList ++ (c :: (cs ++ [']'])) := by
    rw [tabSlot, String.toList_append, String.toList_append, toList_toString, hcons]
    simp
  rw [Reads, hchars]
  exact hall

theorem spells_target (tabled : Bool) (index : Nat) :
    Spells (target tabled index) (targetTokens tabled index) := by
  cases tabled
  · exact spells_tabLocal index
  · exact (reads_tabSlot index).spells

theorem spells_iconArgument (icon : String) : Spells (iconArgument icon) (iconTokens icon) := by
  have hcomma : Reads ", " [.mark ","] := by decide
  rw [iconArgument, iconTokens]
  split_ifs with hempty hdigits
  · exact reads_empty.spells
  · have hplain : Plain (Text.trim icon).toList := by
      cases hcons : (Text.trim icon).toList with
      | nil => exact absurd (String.toList_eq_nil_iff.mp hcons) hempty
      | cons c cs =>
          rw [hcons, List.all_cons, Bool.and_eq_true, List.all_eq_true] at hdigits
          exact .whole hdigits.1 hdigits.2
    have hnumeral := spells_numeral hplain
    rw [String.ofList_toList] at hnumeral
    exact hcomma.append_spells hnumeral
  · exact hcomma.append_spells (reads_text _).spells

theorem reads_tabStatement (tabled : Bool) (index : Nat) (t : Tab) :
    Reads (tabStatement (!tabled) (target tabled index) t)
      ((if tabled then [] else [.name "local"]) ++ targetTokens tabled index ++ .mark "=" ::
        callTokens [.name "Window"] "CreateTab" (.ofText t.name :: iconTokens t.icon)) := by
  have hopen : Reads " = Window:CreateTab(" [.mark "=", .name "Window", .mark ":",
      .name "CreateTab", .mark "("] := by decide
  have hclose : Reads ")\n" [.mark ")"] := by decide
  have hlocal : Reads (if !tabled then "local " else "")
      (if tabled then [] else [.name "local"]) := by
    cases tabled <;> decide
  have hleft := (hlocal.append_spells (spells_target tabled index)).append hopen (by decide)
  have hall := ((hleft.append (reads_text t.name)).append_spells
    (spells_iconArgument t.icon)).append hclose (by decide)
  simpa [tabStatement, callTokens] using hall

theorem reads_registrations {tab : String} {ts : List Token} (htab : Spells tab ts)
    {ws : List Widget} {text : String} (h : registrations tab ws = .ok text)
    (hbodies : ∀ w ∈ ws, ∀ body, w.callback? = some body → Tokenizes body) :
    Reads text (ws.flatMap (widgetTokens ts)) := by
  have hline : Reads "\n" [] := by decide
  induction ws generalizing text with
  | nil =>
      cases h
      exact reads_empty
  | cons w ws ih =>
      simp only [registrations, Outcome.bind_eq_ok_iff, Outcome.pure_eq_ok_iff] at h
      obtain ⟨first, hfirst, rest, hrest, rfl⟩ := h
      exact (hline.append (reads_registration htab hfirst (hbodies w (by simp)))).append
        (ih hrest fun v hv => hbodies v (List.mem_cons_of_mem _ hv))

theorem reads_tabs {tabled : Bool} {index : Nat} {ts : List Tab} {text : String}
    (h : tabs tabled index ts = .ok text)
    (hbodies : ∀ t ∈ ts, ∀ w ∈ t.widgets, ∀ body, w.callback? = some body → Tokenizes body) :
    Reads text ((ts.zipIdx index).flatMap fun t => tabTokens tabled t.2 t.1) := by
  have hline : Reads "\n" [] := by decide
  induction ts generalizing index text with
  | nil =>
      cases h
      exact reads_empty
  | cons t ts ih =>
      simp only [tabs, Outcome.bind_eq_ok_iff, Outcome.pure_eq_ok_iff] at h
      obtain ⟨widgets, hwidgets, rest, hrest, rfl⟩ := h
      have hfirst := reads_registrations (spells_target tabled index) hwidgets
        (hbodies t (by simp))
      have htail := ih hrest fun u hu => hbodies u (List.mem_cons_of_mem _ hu)
      have hall := ((hline.append (reads_tabStatement tabled index t)).append hfirst).append htail
      simpa [tabTokens] using hall

end Tabs

section Header

theorem reads_savingTable (c : ConfigurationSaving) : Reads (savingTable c) (savingTokens c) := by
  have hopen : Reads "\tConfigurationSaving = \x7b\n" [.name "ConfigurationSaving", .mark "=",
      .mark "\x7b"] := by decide
  have hclose : Reads "\t\x7d,\n" [.mark "\x7d", .mark ","] := by decide
  have hall := (((hopen.append (reads_truthEntry 2 "Enabled" (by decide)
    c.enabled)).append (reads_textEntry 2 "FolderName" (by decide)
    c.folderName)).append (reads_textEntry 2 "FileName" (by decide)
    c.fileName)).append hclose
  unfold savingTable
  simpa [savingTokens, entryTokens, tableTokens] using hall

theorem reads_keyTable (k : KeySettings) : Reads (keyTable k) (keyTokens k) := by
  have hopen : Reads "\tKeySettings = \x7b\n" [.name "KeySettings", .mark "=", .mark "\x7b"] := by
    decide
  have hclose : Reads "\t\x7d,\n" [.mark "\x7d", .mark ","] := by decide
  have htitle := reads_textEntry 2 "Title" (by decide) k.title
  have hsubtitle := reads_textEntry 2 "Subtitle" (by decide) k.subtitle
  have hnote := reads_textEntry 2 "Note" (by decide) k.note
  have hfile := reads_textEntry 2 "FileName" (by decide) k.fileName
  have hsave := reads_truthEntry 2 "SaveKey" (by decide) k.saveKey
  have hgrabbing := reads_textEntry 2 "GrabbingKey" (by decide) k.grabbingKey
  have hkey := reads_entry 2 "Key" (by decide) (reads_texts [k.key]).spells
  have hall := (((((((hopen.append htitle).append hsubtitle).append hnote).append hfile).append
    hsave).append hgrabbing).append hkey).append hclose
  unfold keyTable
  simpa [keyTokens, entryTokens, tableTokens] using hall

theorem reads_header (w : Window) (options : ScriptOptions) :
    Reads (header w options) (libraryTokens options.libraryUrl ++ windowTokens w) := by
  have hopen : Reads "local Rayfield = loadstring(game:HttpGet(" [.name "local",
      .name "Rayfield", .mark "=", .name "loadstring", .mark "(", .name "game", .mark ":",
      .name "HttpGet", .mark "("] := by decide
  have hload : Reads "))()\n\n" [.mark ")", .mark ")", .mark "(", .mark ")"] := by decide
  have hwindow : Reads "local Window = Rayfield:CreateWindow(\x7b\n" [.name "local",
      .name "Window", .mark "=", .name "Rayfield", .mark ":", .name "CreateWindow", .mark "(",
      .mark "\x7b"] := by decide
  have hclose : Reads "\x7d)\n" [.mark "\x7d", .mark ")"] := by decide
  have hname := reads_textEntry 1 "Name" (by decide) w.name
  have htitle := reads_textEntry 1 "LoadingTitle" (by decide) w.loadingTitle
  have hsubtitle := reads_textEntry 1 "LoadingSubtitle" (by decide)
    w.loadingSubtitle
  have hsystem := reads_truthEntry 1 "KeySystem" (by decide) w.keySystem
  have hkey : Reads (if w.keySystem then keyTable w.keySettings else "")
      (if w.keySystem then keyTokens w.keySettings else []) := by
    split_ifs
    · exact reads_keyTable w.keySettings
    · exact reads_empty
  have hall := ((((((((((hopen.append (reads_text options.libraryUrl)).append hload).append
    hwindow).append hname).append htitle).append hsubtitle).append
    (reads_savingTable w.configurationSaving)).append hsystem).append hkey).append hclose)
  unfold header
  simpa [libraryTokens, windowTokens, callTokens, tableTokens] using hall

end Header

end Script

namespace Document

/-- A script that compiles is its header, the declaration of the table if there is one, and its
tabs. -/
theorem exists_tabs_of_compile {d : Document} {options : ScriptOptions} {script : String}
    (h : d.compile options = .ok script) : ∃ text, Script.tabs d.isTabled 0 d.tabs = .ok text ∧
      script = header d.window options ++ (if d.isTabled then tableStatement else "") ++ text := by
  rw [compile] at h
  cases hvalid : d.validate with
  | error e =>
      rw [hvalid] at h
      cases h
  | ok u =>
      rw [hvalid] at h
      simp only [Outcome.bind_eq_ok_iff, Outcome.pure_eq_ok_iff] at h
      obtain ⟨text, htext, rfl⟩ := h
      exact ⟨text, htext, rfl⟩

/-- A compiled script has the tokens that its document calls for, if the callbacks have tokens on
their own; and the numerals of its sliders are read as the numbers of the document. -/
theorem compile_tokens {d : Document} {options : ScriptOptions} {script : String}
    (h : d.compile options = .ok script)
    (hbodies : ∀ w ∈ d.widgets, ∀ body, w.callback? = some body → body ≠ "" →
      ∃ ts, tokens? (closeLine body) = some ts) :
    tokens? script = some (d.scriptTokens options) ∧
      ∀ w ∈ d.widgets, ∀ s, w.control = .slider s → ∀ x ∈ [s.min, s.max, s.value],
        Binary64.Writes x.sizeChars x := by
  refine ⟨tokens?_of_reads ?_, fun _ _ _ _ x _ => x.writes_sizeChars⟩
  obtain ⟨text, htext, rfl⟩ := exists_tabs_of_compile h
  have htabs := reads_tabs htext fun t ht w hw =>
    hbodies w (List.mem_flatMap.mpr ⟨t, ht, hw⟩)
  have htable : Script.Reads (if d.isTabled then tableStatement else "")
      (if d.isTabled then [.name "local", .name "Tabs", .mark "=", .mark "\x7b",
        .mark "\x7d"] else []) := by
    cases d.isTabled <;> decide
  exact ((reads_header d.window options).append htable).append htabs

/-- A tab whose name holds a quote and a line break, and a button whose callback ends with a
comment. -/
def quotedDocument : Document where
  tabs :=
    [{ id := ⟨"tab"⟩
       name := "\"\n1"
       icon := " 123 "
       widgets := [⟨⟨"button"⟩, "]]", .button "print(1) -- end"⟩] }]

theorem compile_tokens_quotedDocument :
    ∃ script, quotedDocument.compile = .ok script ∧
      (∀ w ∈ quotedDocument.widgets, ∀ body, w.callback? = some body → body ≠ "" →
        ∃ ts, tokens? (closeLine body) = some ts) ∧
      tokens? script = some (quotedDocument.scriptTokens {}) := by
  obtain ⟨script, hscript⟩ := Outcome.exists_ok
    (by decide : quotedDocument.compile.toOption.isSome = true)
  have htokens : tokens? (closeLine "print(1) -- end") =
      some [.name "print", .mark "(", .numeral "1", .mark ")"] := by decide
  have hbodies : ∀ w ∈ quotedDocument.widgets, ∀ body, w.callback? = some body → body ≠ "" →
      ∃ ts, tokens? (closeLine body) = some ts := by
    intro w hw body hbody _
    cases List.mem_singleton.mp hw
    cases hbody
    exact ⟨_, htokens⟩
  exact ⟨script, hscript, hbodies, (compile_tokens hscript hbodies).1⟩

end Document

end ControlPanel
