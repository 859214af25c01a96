import Scriptorium.Proofs.Diagnostic.Headline
import Scriptorium.Proofs.Service.Silence

/-! Rejection. Whether a run is a success hangs on its unit, its exit status and whether it reported
an error; the milder diagnostics do not count. The report on any other run is not blank. It renders
the diagnostics in their order and takes blanks away at its two ends only, so that nothing is lost of
any diagnostic, and nothing at all is taken from those in the middle. That report, with the source,
is the answer to the request. -/

namespace Scriptorium

open Text

/-! ### Trimming at one end -/

namespace Text

variable {c : Char} {a b : Text}

theorem trimStart_append_of_mem (hc : c ∈ a) (h : isBlank c = false) :
    trimStart (a ++ b) = trimStart a ++ b := by
  obtain ⟨x, y, rfl⟩ := List.append_of_mem hc
  rw [List.append_assoc, List.cons_append, trimStart_append_cons h, trimStart_append_cons h,
    List.append_assoc, List.cons_append]

theorem trimEnd_append_of_mem (hc : c ∈ b) (h : isBlank c = false) :
    trimEnd (a ++ b) = a ++ trimEnd b := by
  obtain ⟨x, y, rfl⟩ := List.append_of_mem hc
  rw [← List.append_assoc, trimEnd_append_cons h, trimEnd_append_cons h, List.append_assoc]

theorem exists_trim_ends (s : Text) : ∃ front back, (∀ c ∈ front ++ back, isBlank c = true) ∧
    s = front ++ trim s ++ back := by
  obtain ⟨front, hfront, hs⟩ := exists_indent s
  obtain ⟨back, hback, hrev⟩ := exists_indent (trimStart s).reverse
  have hsplit : trimStart s = trim s ++ back.reverse := by
    rw [trim, trimEnd_eq_reverse, ← List.reverse_append, ← hrev, List.reverse_reverse]
  refine ⟨front, back.reverse, fun c hc => ?_, ?_⟩
  · rcases List.mem_append.mp hc with hc | hc
    · exact hfront c hc
    · exact hback c (List.mem_reverse.mp hc)
  · rw [List.append_assoc, ← hsplit, ← hs]

/-! ### Numerals with a sign -/

/-- The decimal numeral of an integer: a minus sign if it is negative, and digits, of which the first
is no zero that could be left out. -/
def SignedNumeral (s : Text) (n : Int) : Prop :=
  ∃ digits, s = (if n < 0 then ['-'] else []) ++ digits ∧ digits ≠ [] ∧
    (digits.head? = some '0' → digits = ['0']) ∧ (∀ c ∈ digits, c.isDigit = true) ∧
    Nat.ofDigits 10 (digits.reverse.map digitValue) = n.natAbs

theorem head?_decimal_ne {n : Nat} (h : n ≠ 0) : (decimal n).head? ≠ some '0' := by
  have hdigit : ∀ k < 10, k ≠ 0 → Nat.digitChar k ≠ '0' := by decide
  induction n using Nat.strong_induction_on with
  | _ n ih =>
    rw [decimal, Nat.toDigits_eq_if (by decide)]
    split
    · next hn => simpa using hdigit n hn h
    · next hn =>
      rw [List.head?_append_of_ne_nil _ Nat.toDigits_ne_nil]
      exact ih (n / 10) (by omega) (by omega)

theorem signedDecimal_numeral (n : Int) : SignedNumeral (signedDecimal n) n := by
  obtain ⟨hne, hdigits, hvalue⟩ := readNat?_eq_some_iff.mp (readNat?_decimal n.natAbs)
  refine ⟨decimal n.natAbs, ?_, hne, fun hzero => ?_, hdigits, hvalue⟩
  · unfold signedDecimal
    split <;> rfl
  · have hn : n.natAbs = 0 := by
      by_contra hn
      exact head?_decimal_ne hn hzero
    rw [hn]
    rfl

theorem not_infix_of_signedNumeral {numeral s : Text} {n : Int} (h : SignedNumeral numeral n)
    (hs : ∀ c ∈ s, c.isDigit = false) : ¬ numeral <:+: s := by
  obtain ⟨digits, rfl, hne, -, hdigits, -⟩ := h
  intro hin
  obtain ⟨c, hc⟩ := List.exists_mem_of_ne_nil digits hne
  have hdigit := hs c (hin.subset (List.mem_append_right _ hc))
  rw [hdigits c hc] at hdigit
  exact Bool.noConfusion hdigit

end Text

/-! ### Reports -/

theorem Diagnostic.exists_mem_render (d : Diagnostic) : ∃ c ∈ d.render, isBlank c = false := by
  obtain ⟨c, s, hword, hc⟩ := d.severity.word_eq_cons
  exact ⟨c, by simp [render, hword], hc⟩

namespace Transcript

variable {ds : Transcript} {status : Int}

/-- What a report shows of some diagnostics and an exit status. -/
structure Reported (ds : Transcript) (status : Int) (report : Text) : Prop where
  first : ∃ c ∈ report.head?, isBlank c = false
  last : ∃ c ∈ report.getLast?, isBlank c = false
  /-- The diagnostics are rendered one below the other, and but for blanks at the two ends all of that
  is there. -/
  complete : ds ≠ [] → ∃ front back, (∀ c ∈ front ++ back, isBlank c = true) ∧
    unlines (ds.map Diagnostic.render) = front ++ report ++ back
  /-- The blanks at the two ends are those of the first and of the last diagnostic. -/
  joined : ∀ d middle e, ds = d :: middle ++ [e] → report =
    unlines (trimStart d.render :: middle.map Diagnostic.render ++ [trimEnd e.render])
  alone : ∀ d, ds = [d] → report = trim d.render
  failed : ds = [] → status ≠ 0 → ∃ numeral, SignedNumeral numeral status ∧
    report = "Compilation failed with exit code ".toList ++ numeral ++ ['.']
  silent : ds = [] → status = 0 → report = "Compilation produced no output unit.".toList
  /-- Without diagnostics it names the exit status exactly if that is not zero. -/
  named : ds = [] → ((∃ numeral, SignedNumeral numeral status ∧ numeral <:+: report) ↔ status ≠ 0)

theorem report_of_ne_nil (h : ds ≠ []) (status : Int) :
    report ds status = trim (unlines (ds.map Diagnostic.render)) := if_neg (by simpa using h)

/-- Only the first and the last of several diagnostics are trimmed, each at its own end. -/
theorem trim_unlines_render (d e : Diagnostic) (middle : List Diagnostic) :
    trim (unlines ((d :: middle ++ [e]).map Diagnostic.render)) =
      unlines (trimStart d.render :: middle.map Diagnostic.render ++ [trimEnd e.render]) := by
  obtain ⟨c, hc, hcblank⟩ := d.exists_mem_render
  obtain ⟨x, hx, hxblank⟩ := e.exists_mem_render
  have hjoin (s t : Text) (ls : List Text) :
      unlines (s :: ls ++ [t]) = s ++ (ls.flatMap ('\n' :: ·) ++ ['\n'] ++ t) := by
    rw [List.cons_append, unlines_cons, List.flatMap_append]
    simp
  rw [List.map_append, List.map_cons, List.map_singleton, hjoin, hjoin, trim,
    trimStart_append_of_mem hc hcblank, ← List.append_assoc, trimEnd_append_of_mem hx hxblank,
    List.append_assoc]

theorem report_of_nil (status : Int) : report [] status =
    if status = 0 then "Compilation produced no output unit.".toList
    else "Compilation failed with exit code ".toList ++ signedDecimal status ++ ['.'] := rfl

theorem report_ne_nil (ds : Transcript) (status : Int) : report ds status ≠ [] := by
  cases ds with
  | nil =>
    rw [report_of_nil]
    split <;> simp
  | cons d ds =>
    obtain ⟨c, hc, hblank⟩ := d.exists_mem_render
    rw [report_of_ne_nil (List.cons_ne_nil d ds), List.map_cons, unlines_cons]
    exact List.ne_nil_of_mem (mem_trim (List.mem_append_left _ hc) hblank)

theorem trim_report (ds : Transcript) (status : Int) :
    trim (report ds status) = report ds status := by
  cases ds with
  | nil =>
    rw [report_of_nil]
    split
    · decide
    · refine trim_eq_self_iff.mpr ⟨fun c hc => ?_, fun c hc => ?_⟩
      · obtain rfl : 'C' = c := by simpa using hc
        decide
      · rw [List.getLast?_concat] at hc
        obtain rfl : '.' = c := by simpa using hc
        decide
  | cons d ds => rw [report_of_ne_nil (List.cons_ne_nil d ds), trim_trim]

theorem report_reported (ds : Transcript) (status : Int) : Reported ds status (report ds status) := by
  obtain ⟨hhead, hlast⟩ := trim_eq_self_iff.mp (trim_report ds status)
  have hne := report_ne_nil ds status
  refine ⟨⟨_, List.head?_eq_some_head hne, hhead _ (List.head?_eq_some_head hne)⟩,
    ⟨_, List.getLast?_eq_some_getLast hne, hlast _ (List.getLast?_eq_some_getLast hne)⟩,
    fun hds => ?_, ?_, ?_, ?_, ?_, ?_⟩
  · rw [report_of_ne_nil hds]
    exact exists_trim_ends _
  · rintro d middle e rfl
    rw [report_of_ne_nil (by simp), trim_unlines_render]
  · rintro d rfl
    rw [report_of_ne_nil (by simp), List.map_singleton, unlines_cons, List.flatMap_nil,
      List.append_nil]
  · rintro rfl hstatus
    exact ⟨_, signedDecimal_numeral status, if_neg hstatus⟩
  · rintro rfl rfl
    rfl
  · rintro rfl
    refine ⟨?_, fun hstatus => ⟨_, signedDecimal_numeral status, ?_⟩⟩
    · rintro ⟨numeral, hnumeral, hin⟩ rfl
      have hdigits : "Compilation produced no output unit.".toList.all (!·.isDigit) = true := rfl
      refine not_infix_of_signedNumeral hnumeral (fun c hc => ?_) hin
      simpa using List.all_eq_true.mp hdigits c hc
    · rw [report_of_nil, if_neg hstatus, List.append_assoc]
      exact List.infix_append' ..

end Transcript

/-! ### Verdicts -/

namespace CompilerRun

variable {r r' : CompilerRun} {u : CompiledUnit}

theorem hasErrors_eq_false_iff :
    r.hasErrors = false ↔ ∀ d ∈ r.diagnostics, d.severity ≠ .error := by
  simp [hasErrors, Diagnostic.isError]

/-- Runs with the same errors, in whatever order and among whatever else, have them or have not. -/
theorem hasErrors_of_perm
    (h : (r.diagnostics.filter Diagnostic.isError).Perm (r'.diagnostics.filter Diagnostic.isError)) :
    r.hasErrors = r'.hasErrors := by
  have hany (s : CompilerRun) : s.hasErrors = true ↔ s.diagnostics.filter Diagnostic.isError ≠ [] := by
    simp [hasErrors, List.any_eq_true, List.filter_eq_nil_iff]
  rw [Bool.eq_iff_iff, hany, hany, not_iff_not]
  exact ⟨fun hnil => (hnil ▸ h).nil_eq.symm, fun hnil => (hnil ▸ h).eq_nil⟩

end CompilerRun

namespace Service

variable {s : Service} {q : Request} {o : Options} {w w₁ w₂ : World} {i : Interrupt} {f : Staged}
  {run : CompilerRun} {report : Text}

theorem compile_of_rejected (x : Session) (hreach : s.Reaches q o w i f w₁)
    (hcall : s.invoker.backend.invoke (s.job q w f) i w₁ = (.ok run, w₂))
    (hverdict : run.verdict = .rejected report) :
    (s.compile x w q o).result = .error (.fault (.rejected report q.source)) := by
  obtain ⟨rest, w₃, hrest, -, -⟩ := (s.compile_passage x w q o).remainder hreach
  exact hrest.result_of_rejected hcall hverdict

/-- A run is accepted exactly if it left a unit, exited with zero and reported no error, whatever
else it reported; any other run is rejected with a report of its diagnostics, or of its exit status,
and the request is answered with that report and its source. -/
theorem runs_rejected_with_report :
    (∀ r u, CompilerRun.verdict r = .accepted u ↔
      r.unit = some u ∧ r.exitStatus = 0 ∧ ∀ d ∈ r.diagnostics, d.severity ≠ .error) ∧
    (∀ r r' : CompilerRun, r.unit = r'.unit → r.exitStatus = r'.exitStatus →
      (r.diagnostics.filter Diagnostic.isError).Perm (r'.diagnostics.filter Diagnostic.isError) →
        ∀ u, r.verdict = .accepted u ↔ r'.verdict = .accepted u) ∧
    (∀ r : CompilerRun, (∀ u, r.verdict ≠ .accepted u) → ∃ report, r.verdict = .rejected report ∧
      Transcript.Reported r.diagnostics r.exitStatus report) ∧
    ∀ (s : Service) x w q o i f w₁ run w₂ report, s.Reaches q o w i f w₁ →
      s.invoker.backend.invoke (s.job q w f) i w₁ = (.ok run, w₂) → run.verdict = .rejected report →
        (s.compile x w q o).result = .error (.fault (.rejected report q.source)) := by
  refine ⟨fun r u => ?_, fun r r' hunit hstatus herrors u => ?_, fun r h => ?_,
    fun s x w q o i f w₁ run w₂ report => compile_of_rejected x⟩
  · rw [CompilerRun.verdict_eq_accepted_iff, CompilerRun.hasErrors_eq_false_iff]
  · rw [CompilerRun.verdict_eq_accepted_iff, CompilerRun.verdict_eq_accepted_iff, hunit, hstatus,
      CompilerRun.hasErrors_of_perm herrors]
  · exact ⟨_, CompilerRun.verdict_eq_rejected h, Transcript.report_reported _ _⟩

/-- A service whose compiler always ends in the same run. -/
def settled (run : CompilerRun) : Service :=
  { idle "dll".toList with invoker := ⟨⟨true, true, fun _ _ => pure run⟩, "netcore".toList⟩ }

/-- A killed compiler that printed nothing, and one that only warned, with a message that ends in a
blank line. -/
theorem settled_rejected_with_report :
    (¬ ∃ u, CompilerRun.verdict ⟨[], -1, none⟩ = .accepted u) ∧
    (∃ numeral, SignedNumeral numeral (-1) ∧
      numeral <:+: "Compilation failed with exit code -1.".toList) ∧
    (CompilerRun.verdict ⟨[⟨.warning, none, "w".toList, none⟩], 0, some (.image [])⟩ =
      .accepted (.image [])) ∧
    ((settled ⟨[⟨.warning, none, "w\n ".toList, none⟩], 0, none⟩).compile {} idleWorld
      idleRequest {}).result = .error (.fault (.rejected "warning: w".toList "s".toList)) := by
  obtain ⟨haccepted, hsame, hreport, hanswer⟩ := runs_rejected_with_report
  have hkilled : ¬ ∃ u, CompilerRun.verdict ⟨[], -1, none⟩ = .accepted u := by
    rintro ⟨u, hu⟩
    exact absurd ((haccepted _ u).mp hu).2.1 (by decide)
  refine ⟨hkilled, ?_, ?_, ?_⟩
  · obtain ⟨report, hverdict, hreported⟩ := hreport ⟨[], -1, none⟩ fun u hu => hkilled ⟨u, hu⟩
    obtain rfl : "Compilation failed with exit code -1.".toList = report :=
      Verdict.rejected.inj hverdict
    exact (hreported.named rfl).mpr (by decide)
  · exact (hsame ⟨[], 0, some (.image [])⟩ _ rfl rfl .rfl _).mp rfl
  · obtain ⟨f, w', -, hreach⟩ := idle_reaches "dll".toList
    exact hanswer (settled _) {} idleWorld idleRequest {} {} f w' _ w' _
      ⟨hreach.started, hreach.admitted, hreach.staged⟩ rfl rfl

end Service

end Scriptorium
