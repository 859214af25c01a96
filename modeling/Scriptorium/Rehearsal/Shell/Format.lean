import Scriptorium.Rehearsal.Rounding
import Scriptorium.Rehearsal.Shell.Arithmetic

/-! Formatted printing. A format is printed once, and again for as long as arguments are left; each
directive takes one of them. Escapes stand for bytes. An argument that is no number, or not only
one, is complained about and counts as far as it is one. -/

namespace Scriptorium.Shell.Format

/-! ### Escapes -/

/-- The byte that a letter behind a backslash stands for. -/
def escape? : Char → Option Char
  | 'a' => some '\x07'
  | 'b' => some '\x08'
  | 'e' => some '\x1b'
  | 'f' => some '\x0c'
  | 'n' => some '\n'
  | 'r' => some '\r'
  | 't' => some '\t'
  | 'v' => some '\x0b'
  | '\\' => some '\\'
  | _ => none

def isOctal (c : Char) : Bool := '0' ≤ c && c ≤ '7'

def octal (digits : Text) : Char :=
  Char.ofNat (digits.foldl (fun n c => 8 * n + Text.digitValue c) 0 % 256)

/-- What stands behind a backslash, and what follows it. A backslash that escapes nothing stands for
itself. -/
def readEscape (s : Text) : Char × Text :=
  match s with
  | [] => ('\\', [])
  | c :: rest =>
    match escape? c with
    | some e => (e, rest)
    | none =>
      let digits := (s.take 3).takeWhile isOctal
      if digits.isEmpty then ('\\', s) else (octal digits, s.drop digits.length)

/-- Replaces escapes in a text of at most `n` parts, with whether it asked to stop there; octal
numbers begin with a zero that does not count. -/
def unescape : (n : Nat) → Text → Text × Bool
  | 0, s => (s, false)
  | _, [] => ([], false)
  | _ + 1, '\\' :: 'c' :: _ => ([], true)
  | n + 1, '\\' :: s =>
    let (e, rest) := match s with
      | '0' :: d :: t => readEscape (if isOctal d then d :: t else '0' :: d :: t)
      | s => readEscape s
    let (out, stop) := unescape n rest
    (e :: out, stop)
  | n + 1, c :: s =>
    let (out, stop) := unescape n s
    (c :: out, stop)

/-- Prints words with blanks between them and replaces escapes; the line ends unless `-n` comes
first. -/
def echo (arguments : List Text) : Text :=
  let (words, ending) : List Text × Text := match arguments with
    | ['-', 'n'] :: rest => (rest, [])
    | words => (words, ['\n'])
  let rec join : List Text → Text
    | [] => ending
    | w :: ws =>
      let (s, stop) := unescape (w.length + 1) w
      if stop then s else s ++ (if ws.isEmpty then ending else ' ' :: join ws)
  join words

/-! ### Printing -/

structure Printing where
  output : Text := []
  arguments : List Text
  complaints : List Text := []
  /-- Why printing failed. -/
  failure : Option Text := none
  stopped : Bool := false

namespace Printing

def put (p : Printing) (s : Text) : Printing := { p with output := p.output ++ s }

def next (p : Printing) : Option Text × Printing :=
  match p.arguments with
  | [] => (none, p)
  | a :: rest => (some a, { p with arguments := rest })

/-- Complains about an argument that is not, or not only, a number of the right size. -/
def check (p : Printing) (argument rest : Text) (fits : Bool) : Printing :=
  let complain (reason : String) : Printing :=
    { p with complaints := p.complaints ++ [argument ++ ": ".toList ++ reason.toList] }
  if !rest.isEmpty then
    complain (if rest.length = argument.length then "expected numeric value"
      else "not completely converted")
  else if !fits then complain "Numerical result out of range"
  else p

/-- The code of the character behind a quotation mark. -/
def quotedCode? : Text → Option Nat
  | q :: s => if q = '"' || q = '\'' then some ((s.head?.map Char.toNat).getD 0) else none
  | [] => none

/-- The next argument as a whole number, signed or as one without a sign. -/
def integer (signed : Bool) (p : Printing) : Int × Printing :=
  match p.next with
  | (none, p) => (0, p)
  | (some a, p) =>
    match quotedCode? a with
    | some n => (n, p)
    | none =>
      match Arithmetic.readInteger none a with
      | none => (0, p.check a a true)
      | some (n, rest) =>
        if signed then
          let m := Arithmetic.clamp n
          (m, p.check a rest (m = n))
        else if n.natAbs < Nat.pow 2 64 then (n % Nat.pow 2 64, p.check a rest true)
        else (Nat.pow 2 64 - 1, p.check a rest false)

def fraction (p : Printing) : Fraction × Printing :=
  match p.next with
  | (none, p) => (.finite false 0 0, p)
  | (some a, p) =>
    match quotedCode? a with
    | some n => (.finite false n 0, p)
    | none =>
      match Fraction.read (a.dropWhile Arithmetic.isBlank) with
      | none => (.finite false 0 0, p.check a a true)
      | some (f, rest) =>
        let digits := a.any Char.isDigit
        let fits : Bool := match f with
          | .infinite _ => !digits
          | .finite _ m _ =>
            m ≠ 0 || !((a.takeWhile fun c => c.toLower ≠ 'e').any fun c => '1' ≤ c && c ≤ '9')
          | .nothing _ => true
        (f, p.check a rest fits)

end Printing

/-! ### Directives -/

/-- A directive: its flags, the least width, the precision, and the letter that ends it. -/
structure Directive where
  flags : Text
  width : Nat := 0
  precision : Option Nat := none
  letter : Char

namespace Directive

def has (d : Directive) (c : Char) : Bool := d.flags.contains c

/-- A text in its field. -/
def pad (d : Directive) (s : Text) : Text :=
  let blanks := List.replicate (d.width - s.length) ' '
  if d.has '-' then s ++ blanks else blanks ++ s

/-- A number in its field: a sign or the like, and digits. Zeros may fill up the field. -/
def padNumber (d : Directive) (zeros : Bool) (lead digits : Text) : Text :=
  if zeros && d.has '0' && !d.has '-' then
    lead ++ List.replicate (d.width - lead.length - digits.length) '0' ++ digits
  else d.pad (lead ++ digits)

/-- What stands before a number. -/
def sign (d : Directive) (negative : Bool) : Text :=
  if negative then ['-'] else if d.has '+' then ['+'] else if d.has ' ' then [' '] else []

/-- At least as many digits as the precision asks for; with none, zero has no digits. -/
def digits (d : Directive) (s : Text) (zero : Bool) : Text :=
  match d.precision with
  | some n => if zero && n = 0 then [] else List.replicate (n - s.length) '0' ++ s
  | none => s

def integer (d : Directive) (n : Int) : Text :=
  let s := d.digits (Text.decimal n.natAbs) (n = 0)
  d.padNumber d.precision.isNone (d.sign (n < 0)) s

def natural (d : Directive) (n : Nat) : Text :=
  let base := if d.letter = 'o' then 8 else if d.letter = 'u' then 10 else 16
  let s := d.digits (Nat.toDigits base n) (n = 0)
  let (lead, s) : Text × Text :=
    if !d.has '#' then ([], s)
    else if d.letter = 'o' then ([], if s.head? = some '0' then s else '0' :: s)
    else if base = 16 && n ≠ 0 then (['0', 'x'], s)
    else ([], s)
  let upper (s : Text) : Text := if d.letter = 'X' then s.map Char.toUpper else s
  d.padNumber d.precision.isNone (upper lead) (upper s)

def fraction (d : Directive) (f : Fraction) : Text :=
  let upper (s : Text) : Text := if d.letter.isUpper then s.map Char.toUpper else s
  let places := d.precision.getD 6
  match f with
  | .infinite negative => d.padNumber false (d.sign negative) (upper "inf".toList)
  | .nothing negative => d.padNumber false (d.sign negative) (upper "nan".toList)
  | .finite negative m e =>
    let (lead, s) : Text × Text := match d.letter.toLower with
      | 'a' => (['0', 'x'], Fraction.hexadecimal m e d.precision (d.has '#'))
      | 'f' => ([], Fraction.fixed m e places (d.has '#'))
      | 'e' => ([], Fraction.scientific 'e' m e places (d.has '#'))
      | _ => ([], Fraction.general 'e' m e places (d.has '#'))
    d.padNumber true (d.sign negative ++ upper lead) (upper s)

def text (d : Directive) (s : Text) : Text :=
  d.pad (match d.precision with
    | some n => s.take n
    | none => s)

/-- Prints the next argument. -/
def print (d : Directive) (p : Printing) : Printing :=
  match d.letter with
  | 'd' | 'i' =>
    let (n, p) := p.integer true
    p.put (d.integer n)
  | 'o' | 'u' | 'x' | 'X' =>
    let (n, p) := p.integer false
    p.put (d.natural n.toNat)
  | 'c' =>
    let (a, p) := p.next
    p.put (d.pad [(a.bind List.head?).getD '\x00'])
  | 's' =>
    let (a, p) := p.next
    p.put (d.text (a.getD []))
  | 'b' =>
    let (a, p) := p.next
    let (s, stop) := unescape ((a.getD []).length + 1) (a.getD [])
    { p.put (d.text s) with stopped := stop }
  | _ =>
    let (f, p) := p.fraction
    p.put (d.fraction f)

end Directive

def letters : Text := "diouxXcsbaAeEfFgG".toList

/-- The number that a directive asks for: digits, or an argument. -/
def readCount (s : Text) (p : Printing) : Option Int × Text × Printing :=
  match s with
  | '*' :: s =>
    let (n, p) := p.integer true
    (some (n.bmod (Nat.pow 2 32)), s, p)
  | s =>
    let ds := s.takeWhile Char.isDigit
    (if ds.isEmpty then none else some (Text.readDigits ds), s.drop ds.length, p)

/-- Reads the directive behind a per cent sign and prints it. -/
def directive (s : Text) (p : Printing) : Text × Printing :=
  let flags := s.takeWhile fun c => "#-+ 0".toList.contains c
  let (width, rest, p) := readCount (s.drop flags.length) p
  let (precision, rest, p) : Option Int × Text × Printing := match rest with
    | '.' :: rest =>
      let (n, rest, p) := readCount rest p
      (some (n.getD 0), rest, p)
    | rest => (none, rest, p)
  match rest with
  | [] => ([], { p with failure := some "missing format character".toList })
  | letter :: rest =>
    if letters.contains letter then
      let width := width.getD 0
      let d : Directive := {
        flags := if width < 0 then '-' :: flags else flags
        width := width.natAbs
        precision := precision.bind fun n => if n < 0 then none else some n.toNat
        letter }
      (rest, d.print p)
    else
      let spelled := s.take (s.length - rest.length)
      ([], { p with failure := some ('%' :: spelled ++ ": invalid directive".toList) })

/-- Prints a format of at most `n` parts once. -/
def once : (n : Nat) → Text → Printing → Printing
  | 0, _, p | _, [], p => p
  | n + 1, '\\' :: s, p =>
    let (c, rest) := readEscape s
    once n rest (p.put [c])
  | n + 1, '%' :: '%' :: s, p => once n s (p.put ['%'])
  | n + 1, '%' :: s, p =>
    let (rest, p) := directive s p
    if p.failure.isSome || p.stopped then p else once n rest p
  | n + 1, c :: s, p =>
    let plain := s.takeWhile fun c => c ≠ '\\' && c ≠ '%'
    once n (s.drop plain.length) (p.put (c :: plain))

/-- Prints a format again and again, at most `n` times. -/
def again (format : Text) : (n : Nat) → Printing → Printing
  | 0, p => p
  | n + 1, p =>
    let q := once (format.length + 1) format p
    if q.failure.isSome || q.stopped || q.arguments.isEmpty ||
      q.arguments.length = p.arguments.length then q
    else again format n q

def print (format : Text) (arguments : List Text) : Printing :=
  again format (arguments.length + 1) { arguments }

end Scriptorium.Shell.Format
