import Scriptorium.Proofs.FileTree.Writing
import Scriptorium.Proofs.Reference.Missing
import Scriptorium.Proofs.Service.Silence
import Scriptorium.Proofs.Toolchain.Printed

/-! What a compiler is given. Its arguments are one flat list of texts that callers choose freely,
and still the list can be read back: every argument but the source begins with a dash, and an
absolute source does not, so the source shows where the flags end and the references begin. What is
read back of a path is how it is printed, so paths that are not text get lost; the source is found
under its argument if its path is text, and then the file there holds the source of the request. -/

namespace Scriptorium

namespace Job

variable {profile profile' : Text} {source source' : Path.Raw} {output output' : Option Path.Raw}
  {references references' : ReferenceSet}

/-- The layout of a job. -/
structure Laid (job : Job) (profile : Text) (writesOutput : Bool) (f : Staged)
    (references : ReferenceSet) : Prop where
  arguments : job.arguments =
    ["--target:library".toList, "--optimize+".toList, "--tailcalls+".toList, "--fullpaths".toList,
      "--noframework".toList, "--deterministic-".toList, "--targetprofile:".toList ++ profile] ++
      job.output.toList.map ("-o:".toList ++ ·) ++
        f.source :: references.entries.map ("-r:".toList ++ ·)
  /-- An output path that is reserved for a compiler that writes none is left out. -/
  output : ∀ path, job.output = some path ↔ writesOutput = true ∧ f.output = some path

theorem laid_ofStaged (profile : Text) (writesOutput : Bool) (f : Staged)
    (references : ReferenceSet) :
    (ofStaged profile writesOutput f references).Laid profile writesOutput f references := by
  constructor
  · rw [arguments_ofStaged]
    simp [ofStaged, flags]
  · intro path
    cases writesOutput <;> simp [ofStaged]

theorem argumentList_eq (profile : Text) (output : Option Path.Raw) (source : Path.Raw)
    (references : ReferenceSet) : argumentList profile output source references =
      flags ++ ("--targetprofile:".toList ++ profile) ::
        ((output.map Path.display).toList.map ("-o:".toList ++ ·) ++
          Path.display source :: references.entries.map ("-r:".toList ++ ·)) := by
  simp [argumentList, Option.toList_map]

/-- The source is the one argument that does not begin with a dash. -/
theorem filter_argumentList (profile : Text) (output : Option Path.Raw) (references : ReferenceSet)
    (hsource : Path.startsAtRoot source = true) :
    (argumentList profile output source references).filter (·.head? != some '-') =
      [Path.display source] := by
  have hhead : (Path.display source).head? = some '/' := by
    simpa [Path.isAbsolute] using Path.isAbsolute_display hsource
  have houtput : ((output.map Path.display).toList.map ("-o:".toList ++ ·)).filter
      (·.head? != some '-') = [] := by
    cases output <;> rfl
  have hreferences : (references.entries.map ("-r:".toList ++ ·)).filter (·.head? != some '-') =
      [] := by
    rw [List.filter_eq_nil_iff]
    intro r hr
    obtain ⟨path, -, rfl⟩ := List.mem_map.mp hr
    simp
  have hflags : flags.filter (·.head? != some '-') = [] := by decide
  rw [argumentList_eq, List.filter_append, hflags, List.nil_append,
    List.filter_cons_of_neg (by simp), List.filter_append, houtput, List.nil_append,
    List.filter_cons_of_pos (by simp [hhead]), hreferences]

/-- Of what follows the flags only the output can come before the source. -/
theorem output_of_rest {o o' : Option Text} {path : Text} {rs rs' : List Text}
    (habsolute : Path.isAbsolute path = true)
    (h : o.toList.map ("-o:".toList ++ ·) ++ path :: rs =
      o'.toList.map ("-o:".toList ++ ·) ++ path :: rs') : o = o' := by
  have hne (a : Text) : path ≠ "-o:".toList ++ a := by
    rintro rfl
    simp [Path.isAbsolute] at habsolute
  cases o with
  | none =>
    cases o' with
    | none => rfl
    | some a' => exact absurd (List.cons.inj h).1 (hne a')
  | some a =>
    cases o' with
    | none => exact absurd (List.cons.inj h).1.symm (hne a)
    | some a' => exact congrArg some (List.append_cancel_left (List.cons.inj h).1)

/-- Whatever the texts in it, a list of arguments tells what it was made from, and of the paths how
they are printed. -/
theorem argumentList_inj_iff (h : Path.startsAtRoot source = true)
    (h' : Path.startsAtRoot source' = true) :
    argumentList profile output source references =
        argumentList profile' output' source' references' ↔
      profile = profile' ∧ output.map Path.display = output'.map Path.display ∧
        Path.display source = Path.display source' ∧ references = references' := by
  constructor
  · intro heq
    have hsource : Path.display source = Path.display source' := by
      have hfilter := congrArg (List.filter (·.head? != some '-')) heq
      rw [filter_argumentList _ _ _ h, filter_argumentList _ _ _ h'] at hfilter
      exact (List.cons.inj hfilter).1
    rw [argumentList_eq, argumentList_eq, ← hsource] at heq
    obtain ⟨hprofile, hrest⟩ := List.cons.inj (List.append_cancel_left heq)
    have houtput := output_of_rest (Path.isAbsolute_display h) hrest
    rw [houtput] at hrest
    have hentries := (List.cons.inj (List.append_cancel_left hrest)).2
    have hflag : Function.Injective fun r : Text => "-r:".toList ++ r := fun _ _ =>
      List.append_cancel_left
    exact ⟨List.append_cancel_left hprofile, houtput, hsource,
      ReferenceSet.eq_of_entries (List.map_injective_iff.2 hflag hentries)⟩
  · rintro ⟨rfl, houtput, hsource, rfl⟩
    rw [argumentList_eq, argumentList_eq, houtput, hsource]

/-- Two directories whose names are one byte each, which is no text: a source in the one and a source
in the other are handed over by the same list, and what it calls them is the name of neither. -/
theorem stray_bytes_printed_alike :
    let source (b : UInt8) : Path.Raw := Path.raw "/tmp/".toList ++
      b :: Path.raw "/t1-0123456789abcdef0123456789abcdef.fsx".toList
    let printed : Text := "/tmp/\ufffd/t1-0123456789abcdef0123456789abcdef.fsx".toList
    let arguments (b : UInt8) := argumentList "netcore".toList none (source b) .empty
    Path.startsAtRoot (source 0xff) = true ∧ Path.startsAtRoot (source 0xfe) = true ∧
      source 0xff ≠ source 0xfe ∧ arguments 0xff = arguments 0xfe ∧
      (arguments 0xff).filter (·.head? != some '-') = [printed] ∧
      Path.raw printed ≠ source 0xff ∧ Path.raw printed ≠ source 0xfe := by
  decide +kernel

end Job

namespace Invoker

variable {v : Invoker} {f : Staged} {references : ReferenceSet} {i : Interrupt} {c : Course}
  {job : Job}

theorem job_of_invoked (h : .invoked job ∈ (v.invoke f references i c).2.events) :
    .invoked job ∈ c.events ∨
      job = Job.ofStaged v.profile v.backend.writesOutput f references := by
  have hcall (c : Course) {j : Job}
      (h : .invoked job ∈ (v.call j i c).2.events) : .invoked job ∈ c.events ∨ job = j := by
    rw [call_apply] at h
    rcases hinvoke : v.backend.invoke j i c.world with ⟨e | run, w⟩ <;> rw [hinvoke] at h <;>
      simpa using h
  rw [invoke_apply] at h
  dsimp only at h
  split at h
  · split at h
    · exact .inl (by simpa [Course.looked] using h)
    · rw [Step.throughGate_events] at h
      simpa [Course.looked] using hcall _ h
  · exact hcall _ h

end Invoker

namespace Service

variable {s : Service} {q : Request} {o : Options} {w v : World} {i : Interrupt} {f : Staged}

/-- When the compiler is called, the file that the job names holds the source. -/
theorem Reaches.read_source (h : s.Reaches q o w i f v)
    (hdevice : ∀ l, w.files.find true f.source ≠ .ok (.taken l .device)) :
    v.files.isFile f.source = true ∧ v.files.read f.source = .ok (Text.encode q.source) := by
  obtain ⟨u, hstage, hfiles⟩ := h.staged_files
  obtain ⟨-, hwrite⟩ := Stager.stage_ok hstage
  obtain ⟨l, hfind⟩ := FileTree.find_write hwrite hdevice
  rw [hfiles]
  constructor
  · rw [FileTree.isFile, hfind]
  · rw [FileTree.read, hfind]

/-- What a request that gets to its compiler gives to it. The compiler finds the world `v`. -/
structure Handed (s : Service) (x : Session) (q : Request) (o : Options) (w : World) (i : Interrupt)
    (f : Staged) (v : World) : Prop where
  reached : s.Reaches q o w i f v
  /-- This job in this world is all that the compiler is asked for. -/
  called : ∀ b : Backend, b.writesOutput = s.invoker.backend.writesOutput →
    b.reentrant = s.invoker.backend.reentrant →
    b.invoke (s.job q w f) i v = s.invoker.backend.invoke (s.job q w f) i v →
      (s.replace b s.loader).compile x w q o = s.compile x w q o
  /-- What the compiler makes of it is what the request goes on with. -/
  failed : ∀ h v', s.invoker.backend.invoke (s.job q w f) i v = (.error h, v') →
    (s.compile x w q o).result = .error h
  returned : ∀ run v', s.invoker.backend.invoke (s.job q w f) i v = (.ok run, v') →
    .returned run ∈ (s.compile x w q o).events
  laid : (s.job q w f).Laid s.invoker.profile s.invoker.backend.writesOutput f
    (s.catalog.merge w.files q.references)
  /-- An output path is reserved for every compiler that writes its unit, and for no other. -/
  reserved : f.output.isSome = s.invoker.backend.writesOutput
  unmistakable : (s.job q w f).arguments.filter (·.head? != some '-') = [f.source]
  /-- The compiler finds the source at its path, bytes and all; only a device, which takes
  everything and gives nothing back, could have stood there. -/
  content : (∀ l, w.files.find true f.source ≠ .ok (.taken l .device)) →
    v.files.isFile f.source = true ∧ v.files.read f.source = .ok (Text.encode q.source)

theorem reaches_of_invoked (x : Session) {job : Job}
    (h : .invoked job ∈ (s.compile x w q o).events) :
    ∃ i f v, s.Reaches q o w i f v ∧ job = s.job q w f := by
  obtain ⟨before, after, hevents⟩ := List.append_of_mem h
  obtain ⟨-, i, f, v, hreach, -, hjob⟩ := (s.compile_passage x w q o).invoked hevents
  exact ⟨i, f, v, hreach, hjob⟩

theorem invoked_of_reaches (x : Session) (h : s.Reaches q o w i f v) :
    .invoked (s.job q w f) ∈ (s.compile x w q o).events := by
  obtain ⟨rest, w₂, -, -, hevents⟩ := (s.compile_passage x w q o).remainder h
  rw [hevents]
  simp

theorem Remainder.returned_mem {job : Job} {es : List Event} {r : Except Halt (Option Instance)}
    {w₁ w₂ : World} {run : CompilerRun} (h : s.Remainder q job i w es r w₁)
    (hcall : s.invoker.backend.invoke job i w = (.ok run, w₂)) : .returned run ∈ es := by
  cases h with
  | failed hcall' => exact absurd hcall' (Act.ok_ne_error hcall)
  | rejected hcall' _ | stopped hcall' _ _ | loaded hcall' _ _ =>
    obtain ⟨rfl, -⟩ := Act.ok_unique hcall hcall'
    exact List.mem_cons_self

theorem handed_of_reaches (x : Session) (hdirectory : Path.isAbsolute s.stager.directory = true)
    (h : s.Reaches q o w i f v) : s.Handed x q o w i f v := by
  obtain ⟨u, hstage, -⟩ := h.staged_files
  obtain ⟨hpaths, -⟩ := Stager.stage_ok hstage
  have habsolute : Path.isAbsolute f.source = true := by
    rw [hpaths, Stager.paths, Path.isAbsolute_join _ (Scratch.isAbsolute_fileName ..), hdirectory]
  obtain ⟨rest, w₂, hrest, -, hevents⟩ := (s.compile_passage x w q o).remainder h
  refine ⟨h, fun b hwrites hreentrant hsame => ?_, fun e v' hcall => hrest.result_of_halt hcall,
    fun run v' hcall => ?_, Job.laid_ofStaged .., ?_, ?_, h.read_source⟩
  · refine s.compile_replace x w q o hwrites hreentrant (fun i' f' v' h' => ?_) fun _ _ _ _ _ => rfl
    obtain ⟨rfl, rfl, rfl⟩ := h.unique h'
    exact hsame
  · rw [hevents]
    simp [hrest.returned_mem hcall]
  · rw [hpaths, Stager.paths]
    cases s.invoker.backend.writesOutput <;> rfl
  · have hroot := (Path.startsAtRoot_raw f.source).trans habsolute
    exact (Job.filter_argumentList _ _ _ hroot).trans (by rw [Path.display_raw])

/-- Every request that gets to its compiler hands over a job whose arguments can be told apart,
whatever unit name, profile and references are, and an invoker lays out a job in the same way for any
staged files. Arguments with absolute sources are equal exactly if they were made from the same
profile and references and from paths that are printed alike. Paths that are text are printed alike
only if they are the same. A path that is not text is not the one that its argument names, and shares
every list of arguments with another path; all files in a directory whose path is not text are of this
kind. -/
theorem compile_hands_over (s : Service) (hdirectory : Path.isAbsolute s.stager.directory = true) :
    (∀ x w q o job, .invoked job ∈ (s.compile x w q o).events ↔
      ∃ i f v, job = s.job q w f ∧ s.Handed x q o w i f v) ∧
    (∀ f references i c job, .invoked job ∈ (s.invoker.invoke f references i c).2.events →
      .invoked job ∈ c.events ∨
        job.Laid s.invoker.profile s.invoker.backend.writesOutput f references) ∧
    (∀ profile profile' output output' source source' references references',
      Path.startsAtRoot source = true → Path.startsAtRoot source' = true →
        (Job.argumentList profile output source references =
            Job.argumentList profile' output' source' references' ↔
          profile = profile' ∧ output.map Path.display = output'.map Path.display ∧
            Path.display source = Path.display source' ∧ references = references')) ∧
    (∀ p q, Path.IsText p → Path.IsText q → (Path.display p = Path.display q ↔ p = q)) ∧
    (∀ p, Path.raw (Path.display p) = p ↔ Path.IsText p) ∧
    (∀ directory name,
      Path.display (Path.below directory name) = Path.display directory ++ '/' :: name ∧
        (Path.IsText (Path.below directory name) ↔ Path.IsText directory)) ∧
    ∀ source, ¬Path.IsText source → Path.startsAtRoot source = true →
      ∃ other, other ≠ source ∧ Path.IsText other ∧ Path.startsAtRoot other = true ∧
        ∀ profile output references, Job.argumentList profile output other references =
          Job.argumentList profile output source references := by
  refine ⟨fun x w q o job => ⟨fun h => ?_, ?_⟩, fun f references i c job h => ?_,
    fun _ _ _ _ _ _ _ _ h h' => Job.argumentList_inj_iff h h', fun _ _ => Path.IsText.display_inj,
    fun _ => Path.raw_display_iff,
    fun directory name => ⟨Path.display_below directory name, Path.isText_below_iff⟩,
    fun source hsource hroot => ?_⟩
  · obtain ⟨i, f, v, hreach, rfl⟩ := reaches_of_invoked x h
    exact ⟨i, f, v, rfl, handed_of_reaches x hdirectory hreach⟩
  · rintro ⟨i, f, v, rfl, h⟩
    exact invoked_of_reaches x h.reached
  · rcases Invoker.job_of_invoked h with hbefore | rfl
    · exact .inl hbefore
    · exact .inr (Job.laid_ofStaged ..)
  · obtain ⟨other, hne, htext, hother, hdisplay⟩ := Path.exists_isText_of_not_isText hsource hroot
    exact ⟨other, hne, htext, hother, fun profile output references => by
      rw [Job.argumentList, Job.argumentList, hdisplay]⟩

/-- A service in which as much as possible looks like a flag. -/
def dashed : Service where
  catalog := .ofReferences ["-o:/x".toList]
  stager := ⟨"/t".toList, "-r".toList, "-o".toList, false⟩
  invoker := {
    profile := "-r:/y".toList
    backend := ⟨true, true, fun _ _ => Act.fail .cancelled⟩ }
  loader := ⟨fun _ => pure ⟨[], fun _ => Act.panic []⟩⟩

theorem compile_dashed :
    let q : Request := ⟨"s".toList, "--help".toList, ["-r:/z".toList]⟩
    let source := "/t/--help-0123456789abcdef0123456789abcdef.-r".toList
    ∃ i f v, dashed.Handed {} q {} idleWorld i f v ∧ f.source = source ∧
      (dashed.job q idleWorld f).arguments = ["--target:library".toList, "--optimize+".toList,
        "--tailcalls+".toList, "--fullpaths".toList, "--noframework".toList,
        "--deterministic-".toList, "--targetprofile:-r:/y".toList, "-o:/t/--help-0123456789abcdef0123456789abcdef.-o".toList,
        source, "-r:-o:/x".toList] ∧
      v.files.read source = .ok (Text.encode "s".toList) := by
  intro q source
  let files : Staged := ⟨source, some "/t/--help-0123456789abcdef0123456789abcdef.-o".toList⟩
  have hinvoked : .invoked (dashed.job q idleWorld files) ∈
      (dashed.compile {} idleWorld q {}).events := by decide +kernel
  obtain ⟨i, f, v, hjob, h⟩ := ((compile_hands_over dashed rfl).1 {} idleWorld q {} _).mp hinvoked
  have harguments : (dashed.job q idleWorld files).arguments = ["--target:library".toList,
      "--optimize+".toList, "--tailcalls+".toList, "--fullpaths".toList, "--noframework".toList,
      "--deterministic-".toList, "--targetprofile:-r:/y".toList,
      "-o:/t/--help-0123456789abcdef0123456789abcdef.-o".toList, source,
      "-r:-o:/x".toList] := by decide +kernel
  have hsource : f.source = source := by
    have hfilter := h.unmistakable
    rw [← hjob, harguments] at hfilter
    have hsame : [f.source] = [source] := hfilter.symm.trans (by decide)
    exact (List.cons.inj hsame).1
  refine ⟨i, f, v, h, hsource, hjob ▸ harguments, ?_⟩
  have hread := (h.content fun l hdevice => ?_).2
  · rwa [hsource] at hread
  · rw [hsource] at hdevice
    have hfree : (idleWorld.files.find true source).toOption.all
        (· matches .free _) = true := by decide +kernel
    rw [hdevice] at hfree
    simp [Except.toOption] at hfree

end Service

end Scriptorium
