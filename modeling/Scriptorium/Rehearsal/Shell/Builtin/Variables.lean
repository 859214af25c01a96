import Scriptorium.Rehearsal.Shell.Builtin.Options
import Scriptorium.Rehearsal.Shell.Fields

/-! Commands that set variables, arguments, options and aliases. -/

namespace Scriptorium.Shell.Builtin

open Work

/-- Sets a variable whose name may be none; an assignment stands for its name. -/
def assign (name : Text) (value : Option Text) (exported : Bool := false) : Work Unit :=
  let name := name.takeWhile (· ≠ '=')
  if isName name then setVariable name value exported else failWith ": bad variable name" name

/-- The name and the value in an assignment. -/
def split (t : Text) : Text × Option Text :=
  match t.span (· ≠ '=') with
  | (name, '=' :: value) => (name, some value)
  | (name, _) => (name, none)

/-! ### Variables -/

/-- Shows variables in the order of their names. -/
def showVariables (before : Text) (p : Binding → Bool) : Work Nat := do
  let bs := (← get).bindings.filter fun (_, b) => p b
  (bs.mergeSort fun a b => !decide (b.1 < a.1)).forM fun (name, b) => do
    let value : Text := b.value.elim [] fun v => '=' :: quoteText v
    printLine (before ++ name ++ value)
  pure 0

/-- Marks variables for other programs, or for good. -/
def mark (lasting : Bool) : Builtin := fun ws => do
  let (os, names) ← Options.read { bare := "p" } ws
  if os.isEmpty && !names.isEmpty then
    names.forM fun t => do
      let (name, value) := split t
      let old := (← get).binding? name
      if value.isSome || old.isNone then assign name value !lasting
      let update (b : Binding) : Binding :=
        if lasting then { b with lasting } else { b with exported := true }
      let new := ((← get).binding? name).getD ⟨none, false, false⟩
      modify (·.bind name (some (update new)))
    pure 0
  else
    let command : Text := (if lasting then "readonly " else "export ").toList
    showVariables command fun b => if lasting then b.lasting else b.exported

/-- Makes variables those of a function. That a name with a value is none is noticed only when the
function ends. -/
def localize : Builtin := fun ws => do
  if (← get).locals.isEmpty then fail "not in a function".toList
  else
    ws.forM fun t => do
      let (name, value) := split t
      let s ← get
      if t = ['-'] then modify (·.remember (.options s.options))
      else
        modify (·.remember (.variable name (s.binding? name)))
        if value.isSome then setVariable name value
        else if !isName name then failWith ": bad variable name" name
    pure 0

def unset : Builtin := fun ws => do
  let (os, names) ← Options.read { bare := "vf" } ws
  let functions := os.getLast?.any (·.1 = 'f')
  names.forM fun name =>
    if functions then modify fun s => { s with functions := s.functions.filter (·.1 ≠ name) }
    else assign name none
  pure 0

/-! ### Arguments -/

def setArguments (ws : List Text) : Work Unit :=
  modify fun s => { s with arguments := ws, nextOption := 1, nextLetter := none }

def shift : Builtin := fun ws => do
  let n ← ws.head?.elim (pure 1) number
  let s ← get
  if s.arguments.length < n then fail "can't shift that many".toList
  else
    setArguments (s.arguments.drop n)
    pure 0

/-- The options of the shell: their letters and names. -/
def optionNames : List (Char × String) := [
  ('e', "errexit"), ('f', "noglob"), ('I', "ignoreeof"), ('i', "interactive"), ('m', "monitor"),
  ('n', "noexec"), ('s', "stdin"), ('x', "xtrace"), ('v', "verbose"), ('V', "vi"), ('E', "emacs"),
  ('C', "noclobber"), ('a', "allexport"), ('b', "notify"), ('u', "nounset"), ('p', "privileged"),
  ('0', "nolog"), ('1', "debug")]

def setOption (c : Char) (value : Bool) : Work Unit :=
  modify fun s =>
    let others := s.options.filter (· ≠ c)
    { s with options := if value then c :: others else others }

def setNamed (value : Bool) : List Text → Work (List Text)
  | [] => do
    if value then printLine "Current option settings".toList
    optionNames.forM fun (c, name) => do
      let isSet := (← get).has c
      if value then
        let pad := List.replicate (16 - name.length) ' '
        printLine (name.toList ++ pad ++ (if isSet then "on" else "off").toList)
      else printLine ("set ".toList ++ (if isSet then "-o " else "+o ").toList ++ name.toList)
    pure []
  | name :: rest => do
    match optionNames.find? fun (_, n) => n.toList = name with
    | some (c, _) =>
      setOption c value
      pure rest
    | none => fail ("Illegal option -o ".toList ++ name)

def setLetters (value : Bool) : Text → List Text → Work (List Text)
  | [], rest => pure rest
  | c :: more, rest => do
    if c = 'o' then
      let rest ← setNamed value rest
      setLetters value more rest
    else if optionNames.any (·.1 = c) && !c.isDigit then
      setOption c value
      setLetters value more rest
    else fail ("Illegal option -".toList ++ [c])

/-- Sets options from at most `n` words; what is left, and whether it takes the place of the
arguments even if it is nothing. -/
def setOptions : (n : Nat) → List Text → Work (List Text × Bool)
  | 0, ws => pure (ws, false)
  | n + 1, ws => do
    match ws with
    | ['-'] :: rest =>
      setOption 'x' false
      setOption 'v' false
      pure (rest, false)
    | ['-', '-'] :: rest => pure (rest, true)
    | ('-' :: cs) :: rest => setOptions n (← setLetters true cs rest)
    | ('+' :: cs) :: rest => setOptions n (← setLetters false cs rest)
    | ws => pure (ws, false)

def set : Builtin := fun ws => do
  if ws.isEmpty then showVariables [] (·.value.isSome)
  else
    let (rest, always) ← setOptions (ws.length + 1) ws
    if always || !rest.isEmpty then setArguments rest
    pure 0

/-! ### Reading options -/

/-- The next option of a script among `ws`. -/
def nextOption (letters name : Text) (ws : List Text) : Work Nat := do
  let s ← get
  let silent := letters.head? = some ':'
  let index := s.nextOption
  let word : Option Text := match s.nextLetter with
    | some offset => if index ≤ 1 then none else (ws[index - 2]?).map (·.drop offset)
    | none => none
  /- The letters that are left, and the words behind them. -/
  let left : Option (Text × Nat) := match word with
    | some (c :: cs) => some (c :: cs, index)
    | _ =>
      match ws[index - 1]? with
      | some ['-', '-'] => none
      | some ('-' :: c :: cs) => some (c :: cs, index + 1)
      | _ => none
  let finish (option : Char) (index : Nat) (rest : Option Text) (status : Nat) : Work Nat := do
    assign "OPTIND".toList (some (Text.decimal index))
    assign name (some [option])
    let size := ((ws[index - 2]?).getD []).length
    let nextLetter := rest.map fun r => size - r.length
    modify fun s => { s with nextOption := index, nextLetter }
    pure status
  let argument (value : Option Text) : Work Unit := assign "OPTARG".toList value
  match left with
  | none =>
    let behind := ws[index - 1]? = some ['-', '-'] && word.all (·.isEmpty)
    finish '?' (if behind then index + 1 else index) none 1
  | some ([], index) => finish '?' index none 1
  | some (c :: rest, index) =>
    match (letters.dropWhile (· = ':')).dropWhile (· ≠ c) with
    | [] =>
      if silent then argument (some [c])
      else
        warn ("Illegal option -".toList ++ [c, '\n'])
        argument none
      finish '?' index (some rest) 0
    | _ :: ':' :: _ =>
      if !rest.isEmpty then
        argument (some rest)
        finish c index none 0
      else
        match ws[index - 1]? with
        | some a =>
          argument (some a)
          finish c (index + 1) none 0
        | none =>
          if silent then argument (some [c])
          else
            warn ("No arg for -".toList ++ c :: " option\n".toList)
            argument none
          finish (if silent then ':' else '?') index none 0
    | _ =>
      argument (some [])
      finish c index (some rest) 0

def getopts : Builtin := fun ws => do
  let (_, ws) ← Options.read {} ws
  match ws with
  | letters :: name :: given =>
    let s ← get
    let ws := if given.isEmpty then s.arguments else given
    if ws.length + 1 < s.nextOption then
      modify fun s => { s with nextOption := 1, nextLetter := none }
    nextOption letters name ws
  | _ => fail "Usage: getopts optstring var [arg...]".toList

/-! ### Reading lines -/

/-- Reads a line: its parts, and whether it ended in a line feed. What a backslash stands before is
no separator. -/
def readLine (raw : Bool) : (fuel : Nat) → (current : Text) → (spans : List Span) →
    Work (List Span × Bool)
  | 0, _, spans => pure (spans, false)
  | fuel + 1, current, spans => do
    let part : Span := .fields current.reverse false false
    match ← call (.read 0 1) with
    | .ok [b] =>
      let c := Char.ofNat b.toNat
      if c = '\x00' then readLine raw fuel current spans
      else if c = '\\' && !raw then
        match ← call (.read 0 1) with
        | .ok [b] =>
          let c := Char.ofNat b.toNat
          if c = '\n' then readLine raw fuel [] (spans ++ [part])
          else readLine raw fuel [] (spans ++ [part, .text [c] true])
        | _ => pure (spans ++ [part], false)
      else if c = '\n' then pure (spans ++ [part], true)
      else readLine raw fuel (c :: current) spans
    | _ => pure (spans ++ [part], false)

def read : Builtin := fun ws => do
  let (os, names) ← Options.read { bare := "r", taking := "p" } ws
  if names.isEmpty then fail "arg count".toList
  else
    let (spans, whole) ← readLine (os.any (·.1 = 'r')) patience [] []
    let fields := breakUp (← get).separators (some names.length) spans
    let texts := fields.map plainText ++ List.replicate names.length []
    (names.zip texts).forM fun (name, t) => assign name (some t)
    pure (if whole then 0 else 1)

/-! ### Aliases -/

def showAlias (name value : Text) : Work Unit := printLine (name ++ '=' :: quoteText value)

def aliases : Builtin := fun ws => do
  if ws.isEmpty then
    (State.listed 39 (·.1) (← get).aliases).forM fun (name, value) => showAlias name value
    pure 0
  else
    ws.foldlM (fun status w => do
      match w.tail.span (· ≠ '=') with
      | (name, '=' :: value) =>
        let name := w.take 1 ++ name
        modify fun s => { s with aliases := State.replace (·.1) (name, value) s.aliases }
        pure status
      | _ =>
        match (← get).aliases.lookup w with
        | some value =>
          showAlias w value
          pure status
        | none =>
          warn ("alias: ".toList ++ w ++ " not found\n".toList)
          pure 1) 0

def unalias : Builtin := fun ws => do
  let (os, names) ← Options.read { bare := "a" } ws
  if !os.isEmpty then
    modify fun s => { s with aliases := [] }
    pure 0
  else
    names.foldlM (fun status name => do
      if (← get).aliases.any (·.1 = name) then
        modify fun s => { s with aliases := s.aliases.filter (·.1 ≠ name) }
        pure status
      else
        warn ("unalias: ".toList ++ name ++ " not found\n".toList)
        pure 1) 0

end Scriptorium.Shell.Builtin
