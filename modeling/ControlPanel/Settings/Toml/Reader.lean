import ControlPanel.Settings.Toml.Scalar
import ControlPanel.Settings.Toml.Strings

/-!
No key is set twice; a table is opened once, though a table that only came up in a longer name may
still be opened.
-/

namespace ControlPanel.Toml

/-- What a key stands for. Of values other than strings it only matters that they are there. -/
inductive Node where
  | text (s : String)
  | value
  /-- A table: whether its own header is still to come, whether keys with dots made it, its
  members. -/
  | table (implicit dotted : Bool) (members : List (String × Node))
  /-- Tables with one name in a row, by the members of the last. -/
  | tables (last : List (String × Node))

/-- The members of a table, in the order in which they came up. -/
abbrev Members := List (String × Node)

namespace Members

def node? (ms : Members) (key : String) : Option Node :=
  (List.find? (fun m => m.1 == key) ms).map Prod.snd

/-- Puts another node in the place of a key that is there. -/
def replace (ms : Members) (key : String) (node : Node) : Members :=
  ms.map fun m => if m.1 = key then (key, node) else m

/-- Sets a key with dots, given as its parts. -/
def assign (ms : Members) (node : Node) : List String → Option Members
  | [] => none
  | [key] => if (node? ms key).isSome then none else some (ms ++ [(key, node)])
  | key :: next :: rest =>
    match node? ms key with
    | none => do
      let inner ← assign [] node (next :: rest)
      pure (ms ++ [(key, .table true true inner)])
    | some (.table implicit dotted inner) =>
      if implicit && (dotted || !rest.isEmpty) then do
        let inner ← assign inner node (next :: rest)
        pure (replace ms key (.table implicit dotted inner))
      else none
    | some (.tables last) =>
      if rest.isEmpty then none
      else do
        let last ← assign last node (next :: rest)
        pure (replace ms key (.tables last))
    | some _ => none

/-- Changes the table that a header names, or the last of the tables. -/
def within (ms : Members) (f : Members → Option Members) : List String → Option Members
  | [] => f ms
  | key :: path =>
    match node? ms key with
    | some (.table implicit dotted inner) => do
      let inner ← within inner f path
      pure (replace ms key (.table implicit dotted inner))
    | some (.tables last) => do
      let last ← within last f path
      pure (replace ms key (.tables last))
    | _ => none

/-- Opens what a header names, with `f` for its last part. -/
def openWith (ms : Members) (f : Members → String → Option Members) :
    List String → Option Members
  | [] => none
  | [key] => f ms key
  | key :: next :: rest =>
    match node? ms key with
    | none => do
      let inner ← openWith [] f (next :: rest)
      pure (ms ++ [(key, .table true false inner)])
    | some (.table implicit dotted inner) => do
      let inner ← openWith inner f (next :: rest)
      pure (replace ms key (.table implicit dotted inner))
    | some (.tables last) => do
      let last ← openWith last f (next :: rest)
      pure (replace ms key (.tables last))
    | some _ => none

/-- Opens a table. -/
def openTable (ms : Members) (key : String) : Option Members :=
  match node? ms key with
  | none => some (ms ++ [(key, .table false false [])])
  | some (.table true false inner) => some (replace ms key (.table false false inner))
  | some _ => none

/-- Opens one more table of a row. -/
def openNext (ms : Members) (key : String) : Option Members :=
  match node? ms key with
  | none => some (ms ++ [(key, .tables [])])
  | some (.tables _) => some (replace ms key (.tables []))
  | some _ => none

end Members

/-- Reads a comment, if one starts here, up to the end of its line. -/
def comment? : List Char → Option (List Char)
  | '#' :: cs =>
    let rest := cs.dropWhile isLineCharacter
    if rest.isEmpty || (newline? rest).isSome then some rest else none
  | cs => some cs

/-- Skips blanks, comments and line breaks. -/
def skipSpace : Nat → List Char → Option (List Char)
  | 0, cs => some cs
  | fuel + 1, cs => do
    let cs ← comment? (skipBlanks cs)
    match newline? cs with
    | some cs => skipSpace fuel cs
    | none => some cs

def isBareKeyCharacter (c : Char) : Bool :=
  c.isAlphanum || c == '_' || c == '-'

/-- Reads one part of a key. -/
def keyPart? (cs : List Char) : StringReading :=
  let bare := cs.takeWhile isBareKeyCharacter
  if bare = [] then lineString? cs else some (String.ofList bare, cs.drop bare.length)

/-- Reads a key of at most so many parts, and the blanks after it. -/
def keyOf? : Nat → List Char → Option (List String × List Char)
  | 0, _ => none
  | fuel + 1, cs => do
    let (part, cs) ← keyPart? cs
    match skipBlanks cs with
    | '.' :: cs => do
      let (parts, cs) ← keyOf? fuel (skipBlanks cs)
      pure (part :: parts, cs)
    | cs => some ([part], cs)

/-- The most parts of a key, and the most arrays and tables inside each other in a value. -/
def maxDepth : Nat := 80

/-- Reads a key, and the blanks after it. -/
def key? (cs : List Char) : Option (List String × List Char) :=
  keyOf? maxDepth cs

mutual

/-- Reads a value that opens at most `levels` arrays and tables inside each other. Each call takes
a character, so `fuel` may be the length of the text. -/
def valueOf? : Nat → Nat → List Char → Option (Node × List Char)
  | 0, _, _ => none
  | fuel + 1, levels, cs =>
    match cs, levels with
    | '[' :: _, 0 => none
    | '\x7b' :: _, 0 => none
    | '[' :: cs, levels + 1 => do
      let cs ← skipSpace cs.length cs
      let cs ← itemsEnd? fuel levels cs
      pure (.value, cs)
    | '\x7b' :: cs, levels + 1 => do
      let cs ← skipSpace cs.length cs
      let cs ← pairsEnd? fuel levels [] cs
      pure (.value, cs)
    | '"' :: _, _ => do
      let (s, cs) ← string? cs
      pure (.text s, cs)
    | '\'' :: _, _ => do
      let (s, cs) ← string? cs
      pure (.text s, cs)
    | cs, _ => do
      let cs ← scalarEnd? cs
      pure (.value, cs)

/-- Reads items up to the end of their array. -/
def itemsEnd? : Nat → Nat → List Char → Option (List Char)
  | 0, _, _ => none
  | fuel + 1, levels, cs =>
    match cs with
    | ']' :: cs => some cs
    | cs => do
      let (_, cs) ← valueOf? fuel levels cs
      let cs ← skipSpace cs.length cs
      match cs with
      | ',' :: cs => do
        let cs ← skipSpace cs.length cs
        itemsEnd? fuel levels cs
      | ']' :: cs => some cs
      | _ => none

/-- Reads keys and their values up to the end of their table; `ms` holds those before. -/
def pairsEnd? : Nat → Nat → Members → List Char → Option (List Char)
  | 0, _, _, _ => none
  | fuel + 1, levels, ms, cs =>
    match cs with
    | '\x7d' :: cs => some cs
    | cs => do
      let (key, cs) ← key? cs
      let cs ← after? '=' cs
      let (node, cs) ← valueOf? fuel levels (skipBlanks cs)
      let ms ← Members.assign ms node key
      let cs ← skipSpace cs.length cs
      match cs with
      | ',' :: cs => do
        let cs ← skipSpace cs.length cs
        pairsEnd? fuel levels ms cs
      | '\x7d' :: cs => some cs
      | _ => none

end

/-- Reads a value. -/
def value? (cs : List Char) : Option (Node × List Char) :=
  valueOf? (cs.length + 1) maxDepth cs

/-- What has been read, and the table that keys are set in. -/
structure Progress where
  members : Members := []
  path : List String := []

/-- Reads a line that is not empty: a header or a key with its value. -/
def statement? (p : Progress) (cs : List Char) : Option (Progress × List Char) :=
  match cs with
  | '[' :: '[' :: cs => do
    let (path, cs) ← key? (skipBlanks cs)
    let cs ← after? ']' cs
    let cs ← after? ']' cs
    let members ← p.members.openWith Members.openNext path
    pure (⟨members, path⟩, cs)
  | '[' :: cs => do
    let (path, cs) ← key? (skipBlanks cs)
    let cs ← after? ']' cs
    let members ← p.members.openWith Members.openTable path
    pure (⟨members, path⟩, cs)
  | cs => do
    let (key, cs) ← key? cs
    let cs ← after? '=' cs
    let (node, cs) ← value? (skipBlanks cs)
    let members ← p.members.within (fun ms => ms.assign node key) p.path
    pure (⟨members, p.path⟩, cs)

/-- Reads lines up to the end of the text. -/
def lines? : Nat → Progress → List Char → Option Members
  | 0, _, _ => none
  | fuel + 1, p, cs => do
    let cs ← skipSpace cs.length cs
    match cs with
    | [] => some p.members
    | cs => do
      let (p, cs) ← statement? p cs
      let cs ← comment? (skipBlanks cs)
      match cs with
      | [] => some p.members
      | cs => do
        let cs ← newline? cs
        lines? fuel p cs

/-- The members of a document. A byte order mark at its start does not count. -/
def parse? (s : String) : Option Members :=
  let cs :=
    match s.toList with
    | '\ufeff' :: cs => cs
    | cs => cs
  lines? (cs.length + 1) {} cs

end ControlPanel.Toml
