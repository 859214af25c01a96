import Scriptorium.CompilerRun
import Scriptorium.Proofs.Diagnostic.Position
import Scriptorium.Proofs.Diagnostic.Transcript
import Scriptorium.Scratch.Stager

/-! Errors at a staged source. A compiler names the path of the source in front of an error, and that
path is the host's and may hold any text. The error is read back as one at that path, whatever was
read before it, exactly if the path does not itself read like the front of a headline. -/

namespace Scriptorium

open Text

/-! ### Misleading paths -/

/-- The end of a path that the location behind it turns into a body: it has all of a severity, a
code and a colon, or it breaks off within the code. -/
inductive OpensBody : Text → Prop
  | whole {b : Text} {v : Severity} {code : Option Text} {m : Text}
      (h : Diagnostic.Body b v code m) : OpensBody b
  | part {w : Text} {v : Severity} {code : Text} (hw : Severity.ofWord? w = some v)
      (hcolon : ':' ∉ code) (hblank : ∀ c ∈ trimStart code, isBlank c = false) :
      OpensBody (w ++ ' ' :: code)

/-- A path that holds the end of one range and the beginning of another, or a location with the
opening of a body behind it. -/
def Misleading (path : Text) : Prop :=
  [')', '-', '('] <:+: path ∨
    ∃ a b, path = a ++ ':' :: ' ' :: b ∧ (Position.read? a).isSome ∧ OpensBody b

namespace Diagnostic

variable {r : Text}

/-- What opens a body is completed by a text without blanks in front of the next colon. -/
theorem exists_body_iff (b rest : Text) (hr : ':' ∉ r) (hblank : ∀ c ∈ r, isBlank c = false) :
    (∃ v code m, Body (b ++ '(' :: (r ++ ':' :: rest)) v code m) ↔ OpensBody b := by
  constructor
  · rintro ⟨v, code, m, h⟩
    generalize hs : b ++ '(' :: (r ++ ':' :: rest) = s at h
    cases h with
    | plain m hw =>
      rcases Severity.word_in_front hw (by decide) hs.symm with ⟨n, rfl, -⟩ | ⟨-, hparen, -⟩
      · exact .whole (.plain n hw)
      · simp at hparen
    | @coded w _ code m hw hcolon hne hcode =>
      rcases Severity.word_in_front hw (by decide) hs.symm with ⟨n, rfl, htail⟩ | ⟨-, hparen, -⟩
      · by_cases hn : ':' ∈ n
        · obtain ⟨n₁, n₂, rfl, hfirst⟩ := List.eq_append_cons_of_mem hn
          rw [List.append_assoc, List.cons_append] at htail
          obtain ⟨rfl, -⟩ := append_cons_inj_of_first htail hcolon hfirst
          exact .whole (.coded n₂ hw hcolon hne hcode)
        · have hnr : ':' ∉ n ++ '(' :: r := by simp [hn, hr]
          rw [← List.cons_append, ← List.append_assoc] at htail
          obtain ⟨rfl, -⟩ := append_cons_inj_of_first htail hcolon hnr
          refine .part hw hn fun c hc => hcode c ?_
          rw [trim, trimStart_append_cons (by decide), trimEnd_append_cons (by decide)]
          exact List.mem_append_left _ hc
      · simp at hparen
  · rintro (⟨h⟩ | @⟨w, v, code, hw, hcolon, hcode⟩)
    · cases h with
      | plain m hw =>
        have hbody := Body.plain (m ++ '(' :: (r ++ ':' :: rest)) hw
        exact ⟨_, _, _, by simpa using hbody⟩
      | coded m hw hcolon hne hcode =>
        have hbody := Body.coded (m ++ '(' :: (r ++ ':' :: rest)) hw hcolon hne hcode
        exact ⟨_, _, _, by simpa using hbody⟩
    · have hend : trimEnd r = r :=
        trimEnd_eq_self_iff.mpr fun c hc => hblank c (List.mem_of_getLast? hc)
      have htrim : trim (code ++ '(' :: r) = trimStart code ++ '(' :: r := by
        rw [trim, trimStart_append_cons (by decide), trimEnd_append_cons (by decide), hend]
      have hfree : ∀ c ∈ trim (code ++ '(' :: r), isBlank c = false := by
        intro c hc
        rw [htrim, List.mem_append, List.mem_cons] at hc
        rcases hc with hc | rfl | hc
        · exact hcode c hc
        · decide
        · exact hblank c hc
      have hbody := Body.coded rest hw (by simp [hcolon, hr]) (by simp [htrim]) hfree
      exact ⟨_, _, _, by simpa using hbody⟩

end Diagnostic

/-! ### Source paths -/

/-- What every path of a source has: it is absolute and ends in the letters of an extension. -/
structure SourcePath (path : Text) : Prop where
  absolute : Path.isAbsolute path = true
  letter : ∃ front c, path = front ++ [c] ∧ c.isAlpha = true

namespace SourcePath

variable {path : Text}

theorem exists_cons (h : SourcePath path) : ∃ s, path = '/' :: s :=
  List.head?_eq_some_iff.mp (by simpa [Path.isAbsolute] using h.absolute)

theorem not_blank_of_isAlpha {c : Char} (h : c.isAlpha = true) : isBlank c = false := by
  have hbounds : 65 ≤ c.toNat ∧ c.toNat ≤ 90 ∨ 97 ≤ c.toNat ∧ c.toNat ≤ 122 := by
    rcases Bool.or_eq_true_iff.mp h with hupper | hlower
    · exact .inl (of_decide_eq_true hupper)
    · have hbounds := Bool.and_eq_true_iff.mp hlower
      exact .inr ⟨of_decide_eq_true hbounds.1, of_decide_eq_true hbounds.2⟩
  simp [isBlank]
  omega

theorem fileName (h : SourcePath path) (hrange : ¬[')', '-', '('] <:+: path) :
    Position.FileName path := by
  obtain ⟨s, hs⟩ := h.exists_cons
  obtain ⟨front, c, hlast, hc⟩ := h.letter
  refine ⟨by simp [hs], trim_eq_self_iff.mpr ⟨?_, ?_⟩, hrange, ?_⟩
  · simp [hs, show isBlank '/' = false by decide]
  · simp [hlast, not_blank_of_isAlpha hc]
  · rintro ⟨front', hend⟩
    rw [hlast, show [')', '-'] = [')'] ++ ['-'] from rfl, ← List.append_assoc] at hend
    obtain ⟨-, hminus⟩ := List.append_inj' hend rfl
    obtain rfl : '-' = c := by simpa using hminus
    exact absurd hc (by decide)

theorem file_ne_of_range {n : Text} {p : Position} (h : SourcePath path)
    (hrange : [')', '-', '('] <:+: path) (hread : Position.read? (path ++ '(' :: n) = some p) :
    p.file ≠ some path := by
  intro hf
  obtain ⟨s, hs⟩ := h.exists_cons
  have htrim : trim (path ++ '(' :: n) = path ++ '(' :: trimEnd n := by
    rw [trim, hs, List.cons_append, trimStart_cons_of_not (by decide), ← List.cons_append,
      trimEnd_append_cons (by decide)]
  obtain ⟨x, y, hx, hcut⟩ := Position.cutRange_append hrange
  rcases Position.file_of_read? hread hf with ⟨file, inside, hfile, hpath⟩ | ⟨rest, hrest⟩
  · rw [htrim, hcut] at hfile
    have hshort : x.length + 1 = file.length + (inside.length + 1) := by
      simpa using congrArg List.length hfile
    have hlong : path.length = x.length + (y.length + 3) := by simp [hx]
    have hle := length_trim_le file
    rw [← hpath] at hle
    omega
  · rw [htrim] at hrest
    simp at hrest

end SourcePath

namespace Scratch

theorem exists_sanitize_cons (name : Text) : ∃ c s, sanitize name = c :: s ∧ isSafe c = true := by
  unfold sanitize
  dsimp only
  split
  · exact ⟨_, _, rfl, by decide⟩
  · next hne =>
    have hcut : name.take nameLimit ≠ [] := by simpa using hne
    obtain ⟨c, s, hname⟩ := List.exists_cons_of_ne_nil hcut
    refine ⟨_, _, by rw [hname, List.map_cons], ?_⟩
    split
    · next hsafe => exact hsafe
    · decide

end Scratch

theorem Stager.sourcePath (s : Stager) (unitName token : Text) (withOutput : Bool)
    (hdir : Path.isAbsolute s.directory = true) (hne : s.sourceExtension ≠ [])
    (hletters : ∀ c ∈ s.sourceExtension, c.isAlpha = true) :
    SourcePath (s.paths unitName token withOutput).source := by
  obtain ⟨c, name, hname, hsafe⟩ := Scratch.exists_sanitize_cons unitName
  obtain ⟨front, z, hlast⟩ := List.eq_nil_or_concat s.sourceExtension |>.resolve_left hne
  have hz : z.isAlpha = true := hletters z (by simp [hlast])
  have hc : (c == '/') = false := beq_eq_false_iff_ne.mpr fun he => absurd (he ▸ hsafe) (by decide)
  obtain ⟨dir, hslash⟩ : ∃ dir, s.directory = '/' :: dir :=
    List.head?_eq_some_iff.mp (by simpa [Path.isAbsolute] using hdir)
  have hfile : Path.isAbsolute (Scratch.fileName (Scratch.stem unitName token) s.sourceExtension) =
      false := by
    simpa [Path.isAbsolute, Scratch.fileName, Scratch.stem, hname] using hc
  obtain ⟨dir, hjoin⟩ : ∃ dir, (s.paths unitName token withOutput).source =
      '/' :: (dir ++ Scratch.fileName (Scratch.stem unitName token) s.sourceExtension) := by
    simp only [paths, Path.join, hfile, hslash]
    by_cases hend : Path.endsInSlash ('/' :: dir)
    · exact ⟨dir, by simp [hend]⟩
    · exact ⟨dir ++ ['/'], by simp [hend]⟩
  refine ⟨by simp [hjoin, Path.isAbsolute], ?_⟩
  exact ⟨'/' :: (dir ++ (Scratch.stem unitName token ++ '.' :: front)), z,
    by simp [hjoin, Scratch.fileName, hlast], hz⟩

/-! ### The line of an error -/

namespace Diagnostic

variable {path : Text} {d e : Diagnostic} {p : Position}

theorem headline?_render (t : Transcript) (h : SourcePath path) (hp : d.position = some p)
    (hf : p.file = some path) : t.headline? d.render =
      readLocated? [] (p.write .pair ++ ':' :: ' ' :: d.trimmedBody) := by
  obtain ⟨s, hs⟩ := h.exists_cons
  have hline : p.write .pair ++ ':' :: ' ' :: d.trimmedBody =
      '/' :: (s ++ p.numbers .pair ++ ':' :: ' ' :: d.trimmedBody) := by
    simp [Position.write, hf, hs]
  have hbare : readBody? none
      (trimStart ('/' :: (s ++ p.numbers .pair ++ ':' :: ' ' :: d.trimmedBody))) = none := by
    rw [trimStart_cons_of_not (by decide)]
    refine readBody?_of_not_announced fun hannounced => ?_
    have hslash := (Severity.announced_append_cons_iff (s := []) (by decide)).mp hannounced
    exact hslash.elim Severity.not_announced_nil fun hword => by simp at hword
  rw [Transcript.headline?, Position.trimEnd_render hp, hline, readHeadline?, hbare, ite_self]

theorem exists_body_numbers_iff (p : Position) (b rest : Text) :
    (∃ v code m, Body (b ++ p.numbers .pair ++ ':' :: ' ' :: rest) v code m) ↔ OpensBody b := by
  have hcolon : ':' ∉ commaSeparated [p.line, p.column] ++ [')'] := fun hmem => by
    rcases List.mem_append.mp hmem with hmem | hmem
    · exact absurd (mem_commaSeparated hmem) (by decide)
    · simp at hmem
  have hblank : ∀ c ∈ commaSeparated [p.line, p.column] ++ [')'], isBlank c = false := fun c hc =>
    Position.not_blank_of_mem_numbers (p := p) (y := .pair) (List.mem_cons_of_mem _ hc)
  simpa [Position.numbers, parenthesised] using exists_body_iff b (' ' :: rest) hcolon hblank

theorem readLocated?_of_not_misleading (h : SourcePath path) (hmisleading : ¬Misleading path)
    (hp : d.position = some p) (hf : p.file = some path)
    (hcode : ∀ c ∈ d.code, c ≠ [] ∧ ':' ∉ c ∧ ∀ x ∈ c, isBlank x = false) :
    readLocated? [] (p.write .pair ++ ':' :: ' ' :: d.trimmedBody) =
      some { d with message := trim d.message } := by
  have hfile : ∀ f ∈ p.file, Position.FileName f := fun f hf' => by
    obtain rfl : path = f := by simpa [hf] using hf'
    exact h.fileName fun hrange => hmisleading (.inl hrange)
  refine readLocated?_of_first (readCut?_eq_some_iff.mpr
    ⟨p, Position.read?_write hfile nofun, hp, body_trimmedBody hcode⟩) fun a b hcut hlt => ?_
  obtain ⟨c, hpath, rfl⟩ := Position.cut_in_file hcut hlt
  rw [hf, Option.getD_some] at hpath
  cases hread : readCut? a (c ++ p.numbers .pair ++ ':' :: ' ' :: d.trimmedBody) with
  | none => rfl
  | some e =>
    obtain ⟨p', hlocation, -, hbody⟩ := readCut?_eq_some_iff.mp hread
    exact absurd (.inr ⟨a, c, hpath, by simp [hlocation],
      (exists_body_numbers_iff p c _).mp ⟨_, _, _, hbody⟩⟩) hmisleading

theorem position_ne_of_misleading (h : SourcePath path) (hmisleading : Misleading path)
    (hf : p.file = some path)
    (hread : readLocated? [] (p.write .pair ++ ':' :: ' ' :: d.trimmedBody) = some e) :
    e.position ≠ some p := by
  intro hpos
  obtain ⟨a, b, heq, hcut, hfront⟩ := exists_readCut? hread
  simp only [List.reverse_nil, List.nil_append] at hcut hfront
  obtain ⟨p', hlocation, hp', -⟩ := readCut?_eq_some_iff.mp hcut
  obtain rfl : p' = p := by simpa [hpos] using hp'.symm
  have hlen : path.length < a.length := Position.length_file_lt hlocation hf
  rcases hmisleading with hrange | ⟨a₁, b₁, hpath, hisSome, hopens⟩
  · -- the location is the path with more behind it, so a range is cut within the path
    obtain ⟨n, rfl⟩ : ∃ n, a = path ++ '(' :: n := by
      simp only [Position.write, Position.numbers, parenthesised, hf, Option.getD_some,
        List.append_assoc] at heq
      rcases List.append_eq_append_iff.mp heq with ⟨m, rfl, hm⟩ | ⟨m, rfl, -⟩
      · cases m with
        | nil => simp at hlen
        | cons x m =>
          obtain ⟨rfl, -⟩ := List.cons.inj hm
          exact ⟨m, rfl⟩
      · rw [List.length_append] at hlen
        omega
    exact h.file_ne_of_range hrange hlocation hf
  · -- the cut within the path reads, and it lies in front of the one that was found
    obtain ⟨p₁, hp₁⟩ := Option.isSome_iff_exists.mp hisSome
    obtain ⟨v, code, m, hbody⟩ := (exists_body_numbers_iff p' b₁ d.trimmedBody).mpr hopens
    have hnone := hfront a₁ (b₁ ++ p'.numbers .pair ++ ':' :: ' ' :: d.trimmedBody)
      (by simp [Position.write, hf, hpath]) (by simp [hpath] at hlen; omega)
    have hsome := readCut?_eq_some_iff (d := ⟨v, code, m, some p₁⟩) |>.mpr ⟨p₁, hp₁, rfl, hbody⟩
    rw [hnone] at hsome
    simp at hsome

/-- An error that a compiler reports at a place in a source. -/
def complaint (path code message : Text) (line column : UInt32) : Diagnostic :=
  ⟨.error, some code, message, some ⟨some path, line, column⟩⟩

variable {code : Text}

/-- A complaint is read as an error at its place, whatever was read before it, exactly if the path
does not mislead. -/
theorem push_complaint_iff (t : Transcript) (message : Text) (line column : UInt32)
    (h : SourcePath path) (hcode : code ≠ [])
    (hcolon : ':' ∉ code) (hblank : ∀ c ∈ code, isBlank c = false) :
    (∃ e, t.push (complaint path code message line column).render = t ++ [e] ∧
      e.severity = .error ∧ e.code = some code ∧
      e.position = some ⟨some path, line, column⟩) ↔ ¬Misleading path := by
  set d := complaint path code message line column with hd
  have hline : allBlank d.render = false := by
    obtain ⟨s, hs⟩ := h.exists_cons
    simp [hd, complaint, render, locationPart, Position.render, hs, allBlank,
      show isBlank '/' = false by decide]
  have hread := headline?_render t h (d := d) rfl rfl
  constructor
  · rintro ⟨e, hpush, -, -, hpos⟩ hmisleading
    cases hfound : t.headline? d.render with
    | none =>
      rw [Transcript.push, hline, hfound] at hpush
      simp [Transcript.position_of_extend hpush] at hpos
    | some e' =>
      obtain rfl : e' = e := by
        simpa [Transcript.push_of_headline hline hfound] using hpush
      exact position_ne_of_misleading h hmisleading rfl (hread.symm.trans hfound) hpos
  · intro hmisleading
    have hfound := readLocated?_of_not_misleading (d := d) h hmisleading rfl rfl (by
      simpa [hd, complaint] using ⟨hcode, hcolon, hblank⟩)
    exact ⟨_, Transcript.push_of_headline hline (hread.trans hfound), rfl, rfl, rfl⟩

end Diagnostic

/-! ### Verdicts -/

theorem CompilerRun.rejected_of_error {r : CompilerRun}
    (h : ∃ d ∈ r.diagnostics, d.isError = true) :
    ∃ report, r.verdict = .rejected report := by
  have herrors : r.hasErrors = true := List.any_eq_true.mpr h
  unfold verdict
  cases r.unit with
  | none => exact ⟨_, rfl⟩
  | some u => exact ⟨_, by rw [herrors]; rfl⟩

/-- An error at a staged source is read as one at its place exactly if the path of the source does
not mislead. If it does not, a run that prints the error on a line of its own is rejected, whatever
else it prints and however it ends. -/
theorem Stager.complaint_read_iff (s : Stager) (unitName token : Text) (withOutput : Bool)
    (line column : UInt32) (code message : Text) (hdir : Path.isAbsolute s.directory = true)
    (hne : s.sourceExtension ≠ []) (hletters : ∀ c ∈ s.sourceExtension, c.isAlpha = true)
    (hcode : code ≠ []) (hcolon : ':' ∉ code) (hblank : ∀ c ∈ code, isBlank c = false) :
    let path := (s.paths unitName token withOutput).source
    let printed := (Diagnostic.complaint path code message line column).render
    (∀ t : Transcript, (∃ e, t.push printed = t ++ [e] ∧ e.severity = .error ∧
      e.code = some code ∧ e.position = some ⟨some path, line, column⟩) ↔ ¬Misleading path) ∧
    (¬Misleading path → ∀ output, printed ∈ lines output → ∀ run : CompilerRun,
      (∃ before after, run.diagnostics = before ++ Transcript.read output ++ after) →
        ∃ report, run.verdict = .rejected report) := by
  intro path printed
  have hpath : SourcePath path := s.sourcePath unitName token withOutput hdir hne hletters
  have hpush (t : Transcript) :=
    Diagnostic.push_complaint_iff t message line column hpath hcode hcolon hblank
  refine ⟨hpush, fun hmisleading output hline run ⟨before, after, hrun⟩ => ?_⟩
  have hopened (t : Transcript) : ∃ e, t.push printed = t ++ [e] ∧
      Transcript.heading e = (.error, some code, some ⟨some path, line, column⟩) := by
    obtain ⟨e, he, hseverity, hcode, hposition⟩ := (hpush t).mpr hmisleading
    exact ⟨e, he, by rw [Transcript.heading, hseverity, hcode, hposition]⟩
  obtain ⟨d, hd, hheading⟩ := Transcript.exists_mem_read hline hopened
  have herror : d.isError = true := by
    simp [Diagnostic.isError, show d.severity = .error from congrArg Prod.fst hheading]
  exact CompilerRun.rejected_of_error ⟨d, by simp [hrun, hd], herror⟩

/-- A stager that works in the directory `dir`. -/
def Stager.within (dir : Text) : Stager := ⟨dir, "fsx".toList, "so".toList, false⟩

/-- In `/tmp` the error is read. In `/tmp/a)-(b` it is not, and a run that prints nothing else and
exits with zero is accepted. -/
theorem Stager.complaint_lost_in_range :
    let path (dir : Text) := ((within dir).paths "calc".toList "0".toList true).source
    let printed (dir : Text) :=
      (Diagnostic.complaint (path dir) "FS0039".toList "unknown".toList 3 9).render
    let found (dir : Text) := ∃ e, Transcript.push [] (printed dir) = [] ++ [e] ∧
      e.severity = .error ∧ e.code = some "FS0039".toList ∧ e.position = some ⟨some (path dir), 3, 9⟩
    found "/tmp".toList ∧ ¬found "/tmp/a)-(b".toList ∧
      CompilerRun.verdict ⟨Transcript.read (printed "/tmp/a)-(b".toList), 0, some (.image [])⟩ =
        .accepted (.image []) := by
  intro path printed found
  have hfound (dir : Text) (hdir : Path.isAbsolute dir = true) :
      found dir ↔ ¬Misleading (path dir) :=
    have hne : "fsx".toList ≠ [] := by decide
    have hletters : ∀ c ∈ "fsx".toList, c.isAlpha = true := by simp
    have hcode : ∀ c ∈ "FS0039".toList, isBlank c = false := by simp [isBlank]
    (complaint_read_iff (within dir) "calc".toList "0".toList true 3 9 "FS0039".toList
      "unknown".toList hdir hne hletters (by decide) (by decide) hcode).1 []
  refine ⟨(hfound _ (by decide)).mpr ?_, fun h => (hfound _ (by decide)).mp h (.inl ?_), ?_⟩
  · rintro (hrange | ⟨a, b, hpath, -, -⟩)
    · exact absurd hrange (by decide +kernel)
    · have hseparator : [':', ' '] <:+: path "/tmp".toList := ⟨a, b, by rw [hpath]; simp⟩
      exact absurd hseparator (by decide +kernel)
  · exact ⟨"/tmp/a".toList, "b/calc-0.fsx".toList, by decide⟩
  · decide +kernel

end Scriptorium
