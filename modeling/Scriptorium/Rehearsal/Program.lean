import Scriptorium.FileTree.Operations
import Scriptorium.Process.ExitStatus

/-! Programs as the system sees them: trees of calls. A program asks for one thing after the other,
and what it does next depends on the reply. A child begins as a copy of its parent that got another
reply. -/

namespace Scriptorium

/-- Why the system refuses a call. -/
inductive Refusal
  | file (cause : IoError)
  | badDescriptor
  | brokenPipe
  | noSpace
  | noDevice
  /-- A signal came first. -/
  | interrupted
  | noProcess
  deriving DecidableEq

/-- The words of the system for a refusal. -/
def Refusal.reason : Refusal → Text
  | file cause => Text.trimEnd (cause.message.takeWhile (· ≠ '('))
  | badDescriptor => "Bad file descriptor".toList
  | brokenPipe => "Broken pipe".toList
  | noSpace => "No space left on device".toList
  | noDevice => "No such device or address".toList
  | interrupted => "Interrupted system call".toList
  | noProcess => "No such process".toList

/-- How a file is opened. -/
structure Opening where
  reads : Bool := false
  writes : Bool := false
  creates : Bool := false
  empties : Bool := false
  appends : Bool := false
  /-- Only a file that is not there yet. -/
  fresh : Bool := false

/-- What a process does about a signal. -/
inductive Handling
  | usual
  | ignored
  | caught
  deriving DecidableEq

/-- What waiting for a child comes to. -/
inductive Waiting
  | child (id : Nat) (status : ExitStatus)
  | childless
  /-- A signal came first. -/
  | interrupted
  | running

inductive Call
  /-- Works for a while, and tells which caught signals have come. -/
  | work
  /-- Makes a copy of the process, which gets no number. -/
  | fork
  /-- Begins another program in the same process. -/
  | become
  /-- Asks for a child that has ended, and may wait for one, with or without heed to signals. -/
  | wait (patient heedful : Bool)
  | send (target : Int) (signal : Signal)
  | handle (signal : Signal) (handling : Handling)
  | read (descriptor count : Nat)
  | write (descriptor : Nat) (content : Bytes)
  | openFile (path : Text) (opening : Opening)
  | close (descriptor : Nat)
  /-- Leads a descriptor to where another one leads. -/
  | lead (descriptor source : Nat)
  /-- Copies a descriptor to one that other programs do not get. -/
  | keep (descriptor : Nat)
  | pipe
  | sleep (nanoseconds : Nat)
  | look
  | change (f : FileTree → Except IoError FileTree)
  | enter (l : Location)
  | ownNumber

/-- What the system replies. -/
def Call.Reply : Call → Type
  | .work => List Signal
  | .fork => Option Nat
  | .wait .. => Waiting
  | .send .. | .write .. | .close .. | .lead .. | .change .. => Except Refusal Unit
  | .become | .handle .. | .sleep .. | .enter .. => Unit
  | .read .. => Except Refusal Bytes
  | .openFile .. | .keep .. => Except Refusal Nat
  | .pipe => Nat × Nat
  | .look => FileTree
  | .ownNumber => Nat

inductive Program
  | ended (status : Nat)
  | call (c : Call) (next : c.Reply → Program)

end Scriptorium
