import Scriptorium.Rehearsal.Shell.Arithmetic
import Scriptorium.Rehearsal.Shell.Fields
import Scriptorium.Rehearsal.Shell.Work

/-! Expansion: the values of parameters, formulas and commands take their places in a word. A word
that no option keeps from it is then broken into fields, and fields that are patterns become the
names of files. -/

namespace Scriptorium.Shell

/-- What becomes of a word. -/
inductive Purpose
  /-- It is broken into fields. -/
  | fields
  /-- It stays one text. -/
  | whole
  /-- It stays one text, and may have home directories behind colons. -/
  | assignment
  deriving DecidableEq

/-- Where the pieces of a word stand. -/
structure Site where
  purpose : Purpose
  /-- The word stands for a value. What is in it is broken up as a value would be, and it begins
  behind the sign of an assignment. -/
  nested : Bool := false

namespace Site

def splits (x : Site) : Bool := x.purpose = .fields

end Site

/-! ### Parameters -/

/-- The value of a parameter. -/
inductive Value
  | one (s : Text)
  | many (ss : List Text)

/-- The letters of options in the order in which they are shown. -/
def optionOrder : Text := "pubaCEVvxsnmiIfe".toList

def State.parameter? (s : State) (name : Text) : Option Value :=
  match name with
  | ['$'] => some (.one (Text.decimal s.root))
  | ['?'] => some (.one (Text.decimal s.status))
  | ['#'] => some (.one (Text.decimal s.arguments.length))
  | ['!'] => s.background.map fun n => .one (Text.decimal n)
  | ['-'] => some (.one (optionOrder.filter s.has))
  | ['@'] | ['*'] => some (.many s.arguments)
  | name =>
    match Text.readNat? name with
    | some 0 => some (.one s.name)
    | some n => (s.arguments[n - 1]?).map .one
    | none => (s.value? name).map .one

/-- The spans of a value, with its length. All arguments together are joined by the first
separator; in one word that is broken up they stay apart even between quotation marks. -/
def State.spans (s : State) (x : Site) (name : Text) (quoted : Bool) (v : Value) :
    List Span × Nat :=
  let plain (t : Text) : List Span × Nat :=
    (if quoted then [.text t true] else [.fields t false false], t.length)
  match v with
  | .one t => plain t
  | .many ts =>
    if quoted && x.splits && name = ['@'] then
      let t := ['\x00'].intercalate ts
      (if ts.isEmpty then [] else [.fields t true true], t.length)
    else
      let separator : Text := match s.get? "IFS" with
        | none => [' ']
        | some separators => if x.splits && !quoted then ['\x00'] else separators.take 1
      plain (separator.intercalate ts)

/-! ### Home directories -/

/-- The home directory that a text begins with, and what follows it. -/
def State.home? (s : State) (ends : Char → Bool) (t : Text) (last : Bool) : Option (Text × Text) :=
  match t with
  | '~' :: t =>
    let (user, rest) := t.span (!ends ·)
    if rest.isEmpty && !last then none
    else
      let home := match String.ofList user with
        | "" => s.get? "HOME"
        | "root" => some "/root".toList
        | _ => none
      home.map (·, rest)
  | _ => none

/-- The literal text of an assignment with home directories behind colons. -/
def State.homesIn (s : State) (last : Bool) : (fuel : Nat) → Text → List Span
  | 0, t => [.text t false]
  | fuel + 1, t =>
    let ends (c : Char) : Bool := c = '/' || c = ':'
    let (homes, t) := match s.home? ends t last with
      | some (home, rest) => ([Span.text home true], rest)
      | none => ([], t)
    match t.span (· ≠ ':') with
    | (a, ':' :: b) => homes ++ .text (a ++ [':']) false :: s.homesIn last fuel b
    | _ => homes ++ [.text t false]

/-- The text at the front of a word. -/
def State.front (s : State) (x : Site) (t : Text) (last : Bool) : List Span :=
  let plain (t : Text) : Span :=
    if x.nested && x.splits then .fields t false false else .text t false
  match x.purpose with
  | .assignment =>
    match t.span (· ≠ '=') with
    | (name, '=' :: value) =>
      if x.nested then s.homesIn last (t.length + 1) t
      else .text (name ++ ['=']) false :: s.homesIn last (value.length + 1) value
    | _ => s.homesIn last (t.length + 1) t
  | _ =>
    match s.home? (· = '/') t last with
    | some (home, rest) => [.text home true, plain rest]
    | none => [plain t]

section

-- What a command prints is found out elsewhere.
variable (output : Option Command → Work Text)

namespace Work

/-! ### Formulas -/

/-- The number that a variable holds. -/
def integerOf (name : Text) : Work Int := do
  let t := ((← get).value? name).getD []
  match Arithmetic.integer? none t with
  | some n => pure n
  | none => fail ("Illegal number: ".toList ++ t)

/-- The value of a formula. -/
def formula (t : Text) : Work Int :=
  Arithmetic.evaluate {
    value := integerOf
    assign := fun name n => setVariable name (some (Text.signedDecimal n))
    fail := fun reason => fail ("arithmetic expression: ".toList ++ reason.toList ++ ": \"".toList
      ++ t ++ ['"']) } t

/-! ### Words -/

/-- Complains about a parameter without a value. -/
def unset {α : Type} (name message : Text) : Work α := fail (name ++ ": ".toList ++ message)

/-- Expands the pieces of a word. -/
def pieces : (fuel : Nat) → Site → (atFront : Bool) → Word → Work (List Span)
  | 0, _, _, _ | _, _, _, [] => pure []
  | fuel + 1, x, atFront, p :: w => do
    let inner (word : Word) : Work (List Span) := pieces fuel { x with nested := true } true word
    let spans ← match p with
      | .literal t quoted =>
        if quoted then pure [.text t true]
        else if atFront then pure ((← get).front x t w.isEmpty)
        else if x.nested && x.splits then pure [.fields t false false]
        else if x.purpose = .assignment then
          match t.span (· ≠ ':') with
          | (a, ':' :: b) =>
            pure (.text (a ++ [':']) false :: (← get).homesIn w.isEmpty (b.length + 1) b)
          | _ => pure [.text t false]
        else pure [.text t false]
      | .quotation inside =>
        let spans ← pieces fuel { x with nested := false } false inside
        match inside with
        | [.value ['@'] (.plain false) _ _] => pure spans
        | _ => pure (.mark :: spans ++ [.mark])
      | .arithmetic inside quoted =>
        let t := Span.join (← pieces fuel ⟨.whole, false⟩ false inside)
        let n ← formula t
        let digits := Text.signedDecimal n
        pure [if quoted then .text digits true else .fields digits false false]
      | .output c quoted =>
        let t ← output c
        pure [if quoted then .text t true else .fields t false false]
      | .value name edit word quoted =>
        let s ← get
        let v := (s.parameter? name).map (s.spans x name quoted)
        /- Whether the parameter has a value that counts. -/
        let isSet (blank : Bool) : Bool := v.any fun (_, n) => !(blank && n = 0)
        let known : Work (List Span) :=
          match v with
          | some (spans, _) => pure spans
          | none => if s.has 'u' then unset name "parameter not set".toList else pure []
        match edit with
        | .unknown => fail "Bad substitution".toList
        | .length =>
          let n ← match v with
            | some (_, n) => pure n
            | none => if s.has 'u' then unset name "parameter not set".toList else pure 0
          let digits := Text.decimal n
          pure [if quoted then .text digits true else .fields digits false false]
        | .plain blank =>
          let front ←
            if isSet blank || !blank then known
            else if s.has 'u' then unset name "parameter not set".toList
            else pure []
          pure (front ++ (← pieces fuel x false word))
        | .orElse blank => if isSet blank then known else inner word
        | .andThen blank =>
          if isSet blank then inner word
          else pure (if quoted then [] else [.fields [] false false])
        | .orAssign blank =>
          if isSet blank then known
          else
            let t := Span.join (← pieces fuel ⟨.whole, false⟩ true word)
            if isName name then
              setVariable name (some t)
              let s ← get
              pure ((s.parameter? name).elim [] fun v => (s.spans x name quoted v).1)
            else failWith ": bad variable name" name
        | .orFail blank =>
          if isSet blank then known
          else
            let t := Span.join (← pieces fuel ⟨.whole, false⟩ true word)
            if !word.isEmpty then unset name t
            else if blank then unset name "parameter not set or null".toList
            else unset name "parameter not set".toList
        | .cut front longest =>
          match v with
          | none => known
          | some (spans, _) =>
            let pattern := Span.pattern (← pieces fuel ⟨.whole, false⟩ true word)
            let trim (t : Text) : Text := pattern.cut front longest t
            pure (spans.map fun
              | .mark => .mark
              | .text t q => .text (trim t) q
              | .fields t q a => .fields (trim t) q a)
    let more ← pieces fuel x false w
    pure (spans ++ more)

/-- Expands a word. -/
def expand (x : Site) (w : Word) : Work (List Span) := pieces output patience x true w

/-- Expands a word to one text. -/
def expandWhole (w : Word) : Work Text := return Span.join (← expand output ⟨.whole, false⟩ w)

/-- Expands the value of an assignment. -/
def expandValue (w : Word) : Work Text := return Span.join (← expand output ⟨.assignment, true⟩ w)

/-- Expands a whole assignment. -/
def expandAssignment (w : Word) : Work Text :=
  return Span.join (← expand output ⟨.assignment, false⟩ w)

/-- Expands a word to fields. -/
def expandFields (w : Word) : Work (List Text) := do
  let spans ← expand output ⟨.fields, false⟩ w
  let s ← get
  let fields := breakUp s.separators none spans
  let isOpen (cs : List Cell) : Bool := !s.has 'f' &&
    cs.any fun
      | .char c _ => c = '*' || c = '?' || c = '['
      | .mark => false
  let t ← if fields.any isOpen then look else pure {}
  pure (fields.flatMap (Cell.texts t (s.has 'f')))

end Work

end

end Scriptorium.Shell
