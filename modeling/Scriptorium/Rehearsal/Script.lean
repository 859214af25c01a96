import Scriptorium.Toolchain.Backend
import Scriptorium.Unit.Loader

/-! Compilers and loaders that play a script, for rehearsing a service. They write down each call,
and then do to the world what the script says: cancel a token, tamper with the scratch files, and
panic, fail or answer. No law of the service rests on them; it works with any backend and loader. -/

namespace Scriptorium.Rehearsal

/-! ### Tampering -/

inductive Tampering
  | writeOutput (content : Text)
  | makeOutputDirectory
  | removeSource
  /-- The source, if it is there, gives way to a directory. -/
  | makeSourceDirectory
  | writeSource (content : Text)

namespace Tampering

/-- What cannot be done is left undone. -/
def apply (source : Text) (output : Option Text) (t : FileTree) : Tampering → FileTree
  | writeOutput content =>
    match output with
    | some path => (t.write path (Text.encode content)).2
    | none => t
  | makeOutputDirectory =>
    match output with
    | some path => (t.makeDirectory path).toOption.getD t
    | none => t
  | removeSource => (t.remove source).toOption.getD t
  | makeSourceDirectory => (t.remove source >>= (·.makeDirectory source)).toOption.getD t
  | writeSource content => (t.write source (Text.encode content)).2

end Tampering

/-! ### Compilers -/

/-- How a scripted call ends. -/
inductive Ending (α : Type)
  | panic (message : Text)
  | fail (f : Fault)
  | answer (a : α)

structure Reply where
  cancel : Option TokenId
  tampering : List Tampering
  ending : Ending (Option Text → CompilerRun)

def tamper (source : Text) (output : Option Text) (ts : List Tampering) (w : World) : World :=
  { w with files := ts.foldl (Tampering.apply source output) w.files }

def cancelToken (token : Option TokenId) (w : World) : World :=
  match token with
  | some t => { w with signals := w.signals.cancel t }
  | none => w

def Reply.play (r : Reply) (job : Job) : Act CompilerRun := do
  modify fun w => w.note (.compilerCalled job.arguments (w.textOf? job.source) job.output)
  modify (cancelToken r.cancel)
  modify (tamper job.source job.output r.tampering)
  match r.ending with
  | .panic m => Act.panic m
  | .fail f => Act.fail f
  | .answer run => pure (run job.output)

/-- A backend that plays a reply and never looks at the interrupt. -/
def backend (writesOutput reentrant : Bool) (r : Reply) : Backend where
  writesOutput := writesOutput
  reentrant := reentrant
  invoke job _ := r.play job

/-- What the operating system would have answered. -/
def asIoError : Fault → IoError
  | .notRun _ cause => cause
  | f => .other f.message

/-- A compiler in the host that plays a reply. -/
def entryPoint (name : Text) (reentrant : Bool) (r : Reply) : EntryPoint where
  name := name
  reentrant := reentrant
  call job := fun w =>
    match r.play job w with
    | (.error (.fault f), w) => (.ok (.error (asIoError f)), w)
    | (.error (.panic m), w) => (.error (.panic m), w)
    | (.ok run, w) => (.ok (.ok run), w)

/-! ### Loaders -/

structure Load where
  cancel : Option TokenId
  ending : Ending Unit
  types : List Text
  broken : List Text
  object : Text

def Load.loader (l : Load) : Loader where
  load u := do
    modify fun w => w.note (.unitLoaded u <|
      match u with
      | .file path => w.textOf? path
      | .image _ => none)
    modify (cancelToken l.cancel)
    match l.ending with
    | .panic m => Act.panic m
    | .fail f => Act.fail f
    | .answer () =>
      pure {
        types := l.types
        instantiate := fun name => do
          modify (·.note (.typeConstructed name))
          if l.broken.contains name then
            Act.fail (.notConstructed name "constructor threw".toList)
          else pure ⟨name, .text l.object⟩ }

end Scriptorium.Rehearsal
