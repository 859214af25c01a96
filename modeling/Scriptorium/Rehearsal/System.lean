import Scriptorium.Rehearsal.Program

/-! A system of processes: one that was started from outside, and those that it started itself. They
share the files, the pipes and the clock. What they write to the two streams of the first one is
kept, and so is what the files were at each change, because processes that are killed leave them as
they were then. Time passes only in calls; of the processes that can go on, the one that has waited
longest does. The system is for rehearsals: a service works with any `Launcher`, and its laws are
about all of them. -/

namespace Scriptorium

/-- Bytes on the way from those who write a pipe to those who read it. -/
structure Pipe where
  front : Bytes := []
  /-- What follows, backwards. -/
  back : Bytes := []
  size : Nat := 0

namespace Pipe

def capacity : Nat := 65536

/-- A write of at most so many bytes is never taken apart. -/
def atom : Nat := 4096

def put (p : Pipe) (bs : Bytes) : Pipe :=
  { p with back := bs.reverseAux p.back, size := p.size + bs.length }

def take (p : Pipe) (count : Nat) : Bytes × Pipe :=
  let all := if p.front.isEmpty then p.back.reverse else p.front
  let back := if p.front.isEmpty then [] else p.back
  let taken := all.take count
  (taken, ⟨all.drop count, back, p.size - taken.length⟩)

end Pipe

/-- Where an open descriptor leads. -/
inductive Channel
  /-- Nothing comes from it, and what goes to it is gone. -/
  | void
  /-- Zeros come from it; what goes to it is gone, or does not fit. -/
  | zeros (full : Bool)
  | output
  | errors
  | source (pipe : Nat)
  | sink (pipe : Nat)
  | file (l : Location) (position : Nat) (opening : Opening)
  /-- A file that has no name any more. -/
  | nameless (content : Bytes) (position : Nat)
  | directory

structure Descriptor where
  channel : Nat
  /-- Other programs do not get it. -/
  own : Bool := false

structure Process where
  id : Nat
  parent : Nat
  program : Program
  /-- When it can go on. -/
  ready : Nat
  here : Location
  descriptors : List (Nat × Descriptor)
  handlings : List (Signal × Handling) := []
  /-- Caught signals that have come. -/
  arrived : List Signal := []
  stopped : Bool := false

structure System where
  files : FileTree
  processes : List Process := []
  /-- Processes that have ended, with their parents, which have not asked yet. -/
  remains : List (Nat × Nat × ExitStatus) := []
  channels : List (Nat × Channel) := []
  pipes : List (Nat × Pipe) := []
  /-- What was written to the two streams, backwards. -/
  output : Bytes := []
  errors : Bytes := []
  /-- Nanoseconds since the first process started. -/
  clock : Nat := 0
  /-- Earlier states of the files, the last one first, each with the time it began. -/
  history : List (Nat × FileTree) := []
  /-- The next number for a process, a channel or a pipe. -/
  fresh : Nat
  first : Nat
  /-- When and how the first process ended. -/
  outcome : Option (Nat × ExitStatus) := none

namespace System

/-! ### Time -/

def callTime : Nat := 1000

def forkTime : Nat := 100000

/-- The time until a child begins. -/
def birthTime : Nat := 300000

def startTime : Nat := 600000

/-- The time until a process that waits heeds a signal. -/
def wakingTime : Nat := 100000

/-! ### Look-up -/

def process? (s : System) (id : Nat) : Option Process := s.processes.find? (·.id = id)

def put (s : System) (p : Process) : System :=
  { s with processes := s.processes.map fun q => if q.id = p.id then p else q }

/-- The process goes on with another program after some time. -/
def resume (s : System) (p : Process) (program : Program) (time : Nat) : System :=
  s.put { p with program, ready := s.clock + time }

def channel? (s : System) (p : Process) (descriptor : Nat) : Option (Nat × Channel) :=
  (p.descriptors.lookup descriptor).bind fun d => (s.channels.lookup d.channel).map (d.channel, ·)

def setChannel (s : System) (id : Nat) (c : Channel) : System :=
  { s with channels := (id, c) :: s.channels.filter (·.1 ≠ id) }

def pipe (s : System) (id : Nat) : Pipe := (s.pipes.lookup id).getD {}

def setPipe (s : System) (id : Nat) (p : Pipe) : System :=
  { s with pipes := (id, p) :: s.pipes.filter (·.1 ≠ id) }

/-- Some process has a descriptor of that kind. -/
def isHeld (s : System) (kind : Channel → Bool) : Bool :=
  s.processes.any fun p => p.descriptors.any fun (_, d) => (s.channels.lookup d.channel).any kind

def hasWriters (s : System) (pipe : Nat) : Bool := s.isHeld fun
  | .sink q => q = pipe
  | _ => false

def hasReaders (s : System) (pipe : Nat) : Bool := s.isHeld fun
  | .source q => q = pipe
  | _ => false

/-- Some process can still write to the streams of the first one. -/
def isHeard (s : System) : Bool := s.isHeld fun
  | .output | .errors => true
  | _ => false

/-! ### Files -/

/-- The files as a process sees them. -/
def filesFor (s : System) (p : Process) : FileTree := { s.files with here := p.here }

/-- Open files that have lost their name keep their content. -/
def detach (s : System) (t : FileTree) : System :=
  { s with channels := s.channels.map fun (id, c) =>
      match c with
      | .file l position _ =>
        match s.files.get? l, t.get? l with
        | some (.file _), some (.file _) => (id, c)
        | some (.file content), _ => (id, .nameless content position)
        | _, _ => (id, c)
      | c => (id, c) }

def setFiles (s : System) (t : FileTree) : System :=
  { s.detach t with files := t, history := (s.clock, t) :: s.history }

/-! ### Descriptors -/

/-- Forgets the channels that nobody holds. -/
def sweep (s : System) : System :=
  { s with channels := s.channels.filter fun (id, _) =>
      s.processes.any fun p => p.descriptors.any fun (_, d) => d.channel = id }

/-- The lowest descriptor from `least` on that is free. -/
def freeDescriptor (p : Process) (least : Nat) : Nat :=
  ((List.range (p.descriptors.length + 1)).map (· + least)).find?
    (fun n => (p.descriptors.lookup n).isNone) |>.getD least

def setDescriptor (p : Process) (n : Nat) (d : Descriptor) : Process :=
  { p with descriptors := (n, d) :: p.descriptors.filter (·.1 ≠ n) }

def dropDescriptor (p : Process) (n : Nat) : Process :=
  { p with descriptors := p.descriptors.filter (·.1 ≠ n) }

/-- Opens a channel for a process. -/
def openChannel (s : System) (p : Process) (c : Channel) : Nat × Process × System :=
  let n := freeDescriptor p 0
  let p := setDescriptor p n ⟨s.fresh, false⟩
  let s := { s with channels := (s.fresh, c) :: s.channels, fresh := s.fresh + 1 }
  (n, p, s.put p)

/-- The descriptor of the process that a path stands for. -/
def descriptorOf? (path : Text) : Option Nat :=
  let name := String.ofList path
  if name = "/dev/stdin" then some 0
  else if name = "/dev/stdout" then some 1
  else if name = "/dev/stderr" then some 2
  else
    ["/dev/fd/", "/proc/self/fd/"].findSome? fun place =>
      (place.toList.isPrefixOf? path).bind Text.readNat?

/-- Makes room for a file that is opened. -/
def openPlace (t : FileTree) (path : Text) (o : Opening) :
    Except Refusal (Channel × Option FileTree) :=
  let slash := Path.endsInSlash path
  match t.find true path with
  | .error e => .error (.file e)
  | .ok (.free l) =>
    if !o.creates then .error (.file .notFound)
    else if slash then .error (.file .isADirectory)
    else .ok (.file l 0 o, some (t.set l (.file [])))
  | .ok (.taken l e) =>
    if o.fresh then .error (.file .alreadyExists)
    else
      match e with
      | .directory => if o.writes then .error (.file .isADirectory) else .ok (.directory, none)
      | .device => .ok (.void, none)
      | .file _ => .ok (.file l 0 o, if o.empties then some (t.set l (.file [])) else none)
      | _ => if o.writes then .error (.file .permissionDenied) else .ok (.void, none)

/-- A channel opened once more. -/
def reopen (o : Opening) : Channel → Channel
  | .file l _ _ => .file l 0 o
  | c => c

def openFile (s : System) (p : Process) (path : Text) (o : Opening) :
    Except Refusal (Nat × Process × System) :=
  match descriptorOf? path with
  | some n =>
    match s.channel? p n with
    | none => .error (.file .notFound)
    | some (_, c) =>
      let s := match c with
        | .file l _ _ => if o.empties then s.setFiles (s.files.set l (.file [])) else s
        | _ => s
      .ok (s.openChannel p (reopen o c))
  | none =>
    match String.ofList path with
    | "/dev/tty" => .error .noDevice
    | "/dev/zero" => .ok (s.openChannel p (.zeros false))
    | "/dev/full" => .ok (s.openChannel p (.zeros true))
    | _ =>
      (openPlace (s.filesFor p) path o).map fun (c, t) =>
        ((t.elim s s.setFiles)).openChannel p c

/-! ### Signals and ends -/

/-- Ends a process. Its children lose their parent, and its parent may ask how it ended. -/
def finish (s : System) (p : Process) (status : ExitStatus) : System :=
  let orphaned (q : Process) : Process := if q.parent = p.id then { q with parent := 0 } else q
  let told (q : Process) : Process :=
    if q.id = p.parent && q.handlings.lookup Signal.child = some .caught then
      { q with arrived := q.arrived ++ [Signal.child] }
    else q
  let processes := (s.processes.filter (·.id ≠ p.id)).map (told ∘ orphaned)
  let remains := s.remains.filter (·.2.1 ≠ p.id)
  let asked := processes.any fun q =>
    q.id = p.parent && q.handlings.lookup Signal.child ≠ some .ignored
  sweep { s with
    processes
    remains := if asked then remains ++ [(p.id, p.parent, status)] else remains
    outcome := if p.id = s.first then some (s.clock, status) else s.outcome }

/-- A signal comes to a process. -/
def deliver (s : System) (signal : Signal) (p : Process) : System :=
  let handling := (p.handlings.lookup signal).getD .usual
  let p := if signal = Signal.resume then { p with stopped := false } else p
  let s := s.put p
  if signal = Signal.kill then s.finish p (.signal signal)
  else if signal = Signal.stop then s.put { p with stopped := true }
  else
    match handling with
    | .ignored => s
    | .caught =>
      if p.arrived.contains signal then s
      else
        let waits : Bool := match p.program with
          | .call (.wait ..) _ | .call (.read ..) _ => true
          | _ => false
        let ready := if waits then max p.ready (s.clock + wakingTime) else p.ready
        s.put { p with arrived := p.arrived ++ [signal], ready }
    | .usual =>
      match signal.effect with
      | .ends => s.finish p (.signal signal)
      | .stops => s.put { p with stopped := true }
      | .resumes | .nothing => s

/-- The processes that a number stands for; those that have ended but still remain count, too, as
does the first one. All processes are of one group, which has the number of the first. -/
def targets (s : System) (sender : Nat) (target : Int) : Option (List Nat) :=
  let all := s.processes.map (·.id)
  if target = 0 || target = -Int.ofNat s.first then some all
  else if target = -1 then some (all.filter (· ≠ sender))
  else if target < 0 then none
  else
    let id := target.toNat
    if id = s.first || all.contains id || s.remains.any (·.1 = id) then
      some (all.filter (· = id))
    else none

/-- Sends a signal, to the sender last. The process that began all others comes to no harm. -/
def send (s : System) (p : Process) (target : Int) (signal : Signal) :
    Except Refusal Unit × System :=
  if target = 1 then (.ok (), s)
  else
    match s.targets p.id target with
    | none => (.error .noProcess, s)
    | some ids =>
      let ids := ids.filter (· ≠ p.id) ++ ids.filter (· = p.id)
      let reach (s : System) (id : Nat) : System := ((s.process? id).elim s (s.deliver signal))
      (.ok (), if signal = 0 then s else ids.foldl reach s)

/-! ### Reading and writing -/

/-- Writes into the content of a file, which is filled up with zeros if it is too short. -/
def splice (content : Bytes) (position : Nat) (bs : Bytes) : Bytes :=
  let before := content.take position
  before ++ List.replicate (position - before.length) 0 ++ bs ++ content.drop (position + bs.length)

def contentAt (s : System) (l : Location) : Bytes :=
  match s.files.get? l with
  | some (.file content) => content
  | _ => []

/-- Reads at most `count` bytes from a channel that has some or never will. -/
def readChannel (s : System) (id : Nat) (c : Channel) (count : Nat) :
    Except Refusal Bytes × System :=
  match c with
  | .void => (.ok [], s)
  | .zeros _ => (.ok (List.replicate count 0), s)
  | .directory => (.error (.file .isADirectory), s)
  | .source pipe =>
    let (bs, p) := (s.pipe pipe).take count
    (.ok bs, s.setPipe pipe p)
  | .file l position o =>
    if !o.reads then (.error .badDescriptor, s)
    else
      let bs := ((s.contentAt l).drop position).take count
      (.ok bs, s.setChannel id (.file l (position + bs.length) o))
  | .nameless content position =>
    let bs := (content.drop position).take count
    (.ok bs, s.setChannel id (.nameless content (position + bs.length)))
  | .output | .errors | .sink _ => (.error .badDescriptor, s)

/-- Writes to a channel that takes everything at once. -/
def writeChannel (s : System) (id : Nat) (c : Channel) (bs : Bytes) :
    Except Refusal Unit × System :=
  match c with
  | .void | .zeros false => (.ok (), s)
  | .zeros true => (.error .noSpace, s)
  | .output => (.ok (), { s with output := bs.reverseAux s.output })
  | .errors => (.ok (), { s with errors := bs.reverseAux s.errors })
  | .sink pipe => (.ok (), s.setPipe pipe ((s.pipe pipe).put bs))
  | .file l position o =>
    if !o.writes then (.error .badDescriptor, s)
    else
      let content := s.contentAt l
      let position := if o.appends then content.length else position
      let s := s.setFiles (s.files.set l (.file (splice content position bs)))
      (.ok (), s.setChannel id (.file l (position + bs.length) o))
  | .nameless content position =>
    (.ok (), s.setChannel id (.nameless (splice content position bs) (position + bs.length)))
  | .source _ | .directory => (.error .badDescriptor, s)

/-- How much of a write a channel takes now. -/
def room (s : System) (c : Channel) (size : Nat) : Nat :=
  match c with
  | .sink pipe =>
    let free := Pipe.capacity - (s.pipe pipe).size
    if size ≤ Pipe.atom && free < size then 0 else min free size
  | _ => size

/-! ### Calls -/

/-- Whether a process can go on. -/
def isReady (s : System) (p : Process) : Bool :=
  !p.stopped &&
    match p.program with
    | .call (.wait patient heedful) _ =>
      !patient || (heedful && !p.arrived.isEmpty) || s.remains.any (·.2.1 = p.id) ||
        !s.processes.any (·.parent = p.id)
    | .call (.read descriptor _) _ =>
      match s.channel? p descriptor with
      | some (_, .source pipe) =>
        (s.pipe pipe).size ≠ 0 || !s.hasWriters pipe || !p.arrived.isEmpty
      | _ => true
    | .call (.write descriptor bs) _ =>
      match s.channel? p descriptor with
      | some (_, .sink pipe) =>
        !s.hasReaders pipe || s.room (.sink pipe) bs.length ≠ 0 || bs.isEmpty
      | _ => true
    | _ => true

/-- Waits for a child of a process. -/
def await (s : System) (p : Process) (heedful : Bool) : Waiting × System :=
  match s.remains.find? (·.2.1 = p.id) with
  | some (id, _, status) =>
    (.child id status, { s with remains := s.remains.filter (·.1 ≠ id) })
  | none =>
    if !s.processes.any (·.parent = p.id) then (.childless, s)
    else if heedful && !p.arrived.isEmpty then (.interrupted, s)
    else (.running, s)

/-- Reads for a process. -/
def readFor (s : System) (p : Process) (descriptor count : Nat) : Except Refusal Bytes × System :=
  match s.channel? p descriptor with
  | none => (.error .badDescriptor, s)
  | some (id, c) =>
    match c with
    | .source pipe =>
      if (s.pipe pipe).size = 0 && s.hasWriters pipe then (.error .interrupted, s)
      else s.readChannel id c count
    | c => s.readChannel id c count

/-- Writes for a process, as much as there is room for, and tells what is left. A pipe that nobody
reads brings a signal. -/
def writeFor (s : System) (p : Process) (descriptor : Nat) (bs : Bytes) :
    Except Refusal Bytes × System :=
  match s.channel? p descriptor with
  | none => (.error .badDescriptor, s)
  | some (id, c) =>
    let broken : Bool := match c with
      | .sink pipe => !s.hasReaders pipe
      | _ => false
    if broken && !bs.isEmpty then (.error .brokenPipe, s.deliver Signal.pipe p)
    else
      let n := s.room c bs.length
      let (r, s) := s.writeChannel id c (bs.take n)
      (r.map fun () => bs.drop n, s)

/-- Answers the call of a process. -/
def answer (s : System) (p : Process) (c : Call) (next : c.Reply → Program) : System :=
  let reply (r : c.Reply) (s : System) (time : Nat) : System :=
    (s.process? p.id).elim s fun p => s.resume p (next r) time
  match c, next, reply with
  | .work, _, reply => reply p.arrived (s.put { p with arrived := [] }) callTime
  | .fork, next, reply =>
    let child := { p with
      id := s.fresh
      parent := p.id
      program := next none
      ready := s.clock + birthTime
      arrived := [] }
    let s := { s with processes := s.processes ++ [child], fresh := s.fresh + 1 }
    reply (some child.id) s forkTime
  | .become, _, reply =>
    let p := { p with
      descriptors := p.descriptors.filter fun (_, d) => !d.own
      handlings := p.handlings.filter fun (_, h) => h ≠ .caught
      arrived := [] }
    reply () (s.put p).sweep startTime
  | .wait _ heedful, _, reply =>
    let (r, s) := s.await p heedful
    reply r s callTime
  | .send target signal, _, reply =>
    let (r, s) := s.send p target signal
    reply r s callTime
  | .handle signal handling, _, reply =>
    let handlings := (signal, handling) :: p.handlings.filter (·.1 ≠ signal)
    reply () (s.put { p with handlings }) 0
  | .read descriptor count, _, reply =>
    let (r, s) := s.readFor p descriptor count
    reply r s callTime
  | .write descriptor bs, next, reply =>
    match s.writeFor p descriptor bs with
    | (.ok [], s) => reply (.ok ()) s callTime
    | (.ok rest, s) => s.resume p (.call (.write descriptor rest) next) callTime
    | (.error e, s) => reply (.error e) s callTime
  | .openFile path opening, _, reply =>
    match s.openFile p path opening with
    | .ok (n, _, s) => reply (.ok n) s callTime
    | .error e => reply (.error e) s callTime
  | .close n, _, reply =>
    if (p.descriptors.lookup n).isSome then
      reply (.ok ()) (s.put (dropDescriptor p n)).sweep 0
    else reply (.error .badDescriptor) s 0
  | .lead n source, _, reply =>
    match p.descriptors.lookup source with
    | some d => reply (.ok ()) (s.put (setDescriptor p n ⟨d.channel, false⟩)).sweep 0
    | none => reply (.error .badDescriptor) s 0
  | .keep n, _, reply =>
    match p.descriptors.lookup n with
    | some d =>
      let free := freeDescriptor p 10
      reply (.ok free) (s.put (setDescriptor p free ⟨d.channel, true⟩)) 0
    | none => reply (.error .badDescriptor) s 0
  | .pipe, _, reply =>
    let pipe := s.fresh
    let (source, p, s) := { s with fresh := s.fresh + 1 }.openChannel p (.source pipe)
    let (sink, _, s) := s.openChannel p (.sink pipe)
    reply (source, sink) s callTime
  | .sleep nanoseconds, _, reply => reply () s nanoseconds
  | .look, _, reply => reply (s.filesFor p) s 0
  | .change f, _, reply =>
    match f (s.filesFor p) with
    | .ok t => reply (.ok ()) (s.setFiles t) callTime
    | .error e => reply (.error (.file e)) s callTime
  | .enter l, _, reply => reply () (s.put { p with here := l }) callTime
  | .ownNumber, _, reply => reply p.id s 0

/-! ### Running -/

/-- The process that goes on: of those that can, one that has been ready longest. -/
def next? (s : System) : Option Process :=
  (s.processes.filter s.isReady).foldl (fun best p =>
    match best with
    | some b => if p.ready < b.ready then some p else some b
    | none => some p) none

/-- Nothing that the starter of the first process can learn will change. -/
def isSettled (s : System) : Bool := s.outcome.isSome && !s.isHeard

/-- Runs for at most so many calls. -/
def run : (fuel : Nat) → System → System
  | 0, s => s
  | fuel + 1, s =>
    if s.isSettled then s
    else
      match s.next? with
      | none => s
      | some p =>
        let s := { s with clock := max s.clock p.ready }
        match p.program with
        | .ended status => run fuel (s.finish p (.code (status % 256)))
        | .call c next => run fuel (s.answer p c next)

/-- A system with one process, which reads nothing and whose two streams are kept. -/
def start (t : FileTree) (first : Nat) (program : Program) : System where
  files := t
  first
  fresh := first + 1
  channels := [(0, .void), (1, .output), (2, .errors)]
  processes := [{
    id := first
    parent := 1
    program
    ready := 0
    here := t.here
    descriptors := [(0, ⟨0, false⟩), (1, ⟨1, false⟩), (2, ⟨2, false⟩)] }]

/-- The files after so many nanoseconds. -/
def filesAt (s : System) (before : FileTree) (time : Nat) : FileTree :=
  match s.history.find? fun (began, _) => began ≤ time with
  | some (_, t) => { t with here := before.here }
  | none => before

end System

end Scriptorium
