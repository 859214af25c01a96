import Scriptorium.Text.Numeral

/-! Signals: their numbers and names, what the system says about a process that one has ended, and
what a signal does to a process that has made no arrangements. -/

namespace Scriptorium

abbrev Signal : Type := Nat

namespace Signal

/-- The usual signals, from number one on, with what the system says about each. One of them is
known by its number only. -/
def usual : List (String × String) := [
  ("HUP", "Hangup"), ("INT", "Interrupt"), ("QUIT", "Quit"), ("ILL", "Illegal instruction"),
  ("TRAP", "Trace/breakpoint trap"), ("ABRT", "Aborted"), ("BUS", "Bus error"),
  ("FPE", "Floating point exception"), ("KILL", "Killed"), ("USR1", "User defined signal 1"),
  ("SEGV", "Segmentation fault"), ("USR2", "User defined signal 2"), ("PIPE", "Broken pipe"),
  ("ALRM", "Alarm clock"), ("TERM", "Terminated"), ("", "Stack fault"),
  ("CHLD", "Child exited"), ("CONT", "Continued"), ("STOP", "Stopped (signal)"),
  ("TSTP", "Stopped"), ("TTIN", "Stopped (tty input)"), ("TTOU", "Stopped (tty output)"),
  ("URG", "Urgent I/O condition"), ("XCPU", "CPU time limit exceeded"),
  ("XFSZ", "File size limit exceeded"), ("VTALRM", "Virtual timer expired"),
  ("PROF", "Profiling timer expired"), ("WINCH", "Window changed"), ("IO", "I/O possible"),
  ("PWR", "Power failure"), ("SYS", "Bad system call")]

/-- There are signals up to this number. -/
def last : Signal := 64

/-- The name of a signal, without what all names begin with. Those behind the usual ones are counted
from the nearer end of their range. -/
def name (s : Signal) : Text :=
  if s = 0 then "EXIT".toList
  else
    match usual[s - 1]? with
    | some (name, _) => if name.isEmpty then Text.decimal s else name.toList
    | none =>
      if s < 34 then Text.decimal s
      else if s = 34 then "RTMIN".toList
      else if s < 50 then "RTMIN+".toList ++ Text.decimal (s - 34)
      else if s < last then "RTMAX-".toList ++ Text.decimal (last - s)
      else "RTMAX".toList

/-- The signal of a name, in any case of letters. -/
def ofName? (name : Text) : Option Signal :=
  let upper (s : Text) : Text := s.map Char.toUpper
  (List.range (last + 1)).find? fun s => upper s.name = upper name

def description (s : Signal) : Text :=
  match usual[s - 1]? with
  | some (_, description) => description.toList
  | none => "Real-time signal ".toList ++ Text.decimal (s - 34)

def interrupt : Signal := 2
def quit : Signal := 3
def kill : Signal := 9
def pipe : Signal := 13
def terminate : Signal := 15
def child : Signal := 17
def resume : Signal := 18
def stop : Signal := 19

/-- What a signal does to a process that has made no arrangements. -/
inductive Effect
  | ends
  | stops
  | resumes
  | nothing
  deriving DecidableEq

def effect (s : Signal) : Effect :=
  if s = resume then .resumes
  else if [stop, 20, 21, 22].contains s then .stops
  else if [0, child, 23, 28].contains s then .nothing
  else .ends

end Signal

end Scriptorium
