import Scriptorium.Proofs.FileTree.Naming
import Scriptorium.Proofs.Scratch.Token

/-! The scratch directory under the hands of a stager. What a stager adds are files whose names hold
a new token, so the directory keeps what it had, its path goes on leading to it, and staging and
removing are changes of entries of the directory that nothing else bears the names of. -/

namespace Scriptorium

open FileTree (linkLimit refusal?)
open Scratch (IsToken fileName stem)

variable {s : Stager} {w w' w₀ : World} {t t₀ : FileTree} {d l : Location} {path name : Text}
  {unitName source token ending : Text} {withOutput : Bool} {i n : Nat}

/-! ### Trees and their extensions -/

namespace FileTree

/-- A tree that has everything that `t₀` has, and the same working directory. -/
structure Extends (t₀ t : FileTree) : Prop where
  here : t.here = t₀.here
  keep : ∀ l e, t₀.get? l = some e → t.get? l = some e

theorem Extends.refl (t : FileTree) : t.Extends t := ⟨rfl, fun _ _ h => h⟩

/-- An entry in a place that was free takes nothing away. -/
theorem Extends.set {e : Entry} (h : t₀.Extends t) (hl : l ≠ []) (hnew : t₀.get? l = none) :
    t₀.Extends (t.set l e) := by
  refine ⟨h.here, fun m x hm => ?_⟩
  rw [get?_set t l e hl, if_neg]
  · exact h.keep m x hm
  · rintro rfl
    simp [hnew] at hm

theorem without_here (t : FileTree) (path : Text) : (t.without path).here = t.here := by
  rcases t.without_cases path with heq | ⟨l, e, -, -, heq⟩
  · rw [heq]
  · rw [heq]
    rfl

end FileTree

theorem World.discard_names (h : w.files.Names path d name) (hplain : w.files.Plain (name :: d))
    (hrefused : refusal? path name ≠ none → w.files.get? (name :: d) = none) (report : Bool) :
    (∀ l, (w.discard report path).files.get? l =
      if l = name :: d then none else w.files.get? l) ∧
    (w.discard report path).files.here = w.files.here ∧
    (w.discard report path).reports = w.reports ++
      if report then ((refusal? path name).map (path, ·)).toList else [] := by
  rw [World.discard_eq]
  exact ⟨h.get?_without hplain hrefused, w.files.without_here path, by rw [h.stuck?_eq hplain]⟩

namespace Stager

/-! ### Scratch files -/

/-- The endings of scratch files. -/
def endings (s : Stager) : List Text := [s.sourceExtension, s.unitExtension]

/-- The path of a scratch file. -/
def pathOf (s : Stager) (unitName token ending : Text) : Text :=
  Path.join s.directory (fileName (stem unitName token) ending)

/-- Why the system takes no scratch file of this name, if it does not. -/
def refusalOf? (s : Stager) (unitName token ending : Text) : Option IoError :=
  refusal? (s.pathOf unitName token ending) (fileName (stem unitName token) ending)

/-- The report on the removal of a scratch file, if the system does not take its name. -/
def refused (s : Stager) (unitName token ending : Text) : List (Text × IoError) :=
  ((s.refusalOf? unitName token ending).map (s.pathOf unitName token ending, ·)).toList

/-- A report on a path that the system does not take is about every name with that path. -/
theorem refusalOf?_of_refused {unitName' token' ending' : Text} {r : Text × IoError}
    (hr : r ∈ s.refused unitName token ending) (hpath : r.1 = s.pathOf unitName' token' ending') :
    s.refusalOf? unitName' token' ending' = some r.2 := by
  obtain ⟨e, he, rfl⟩ : ∃ e, s.refusalOf? unitName token ending = some e ∧
      (s.pathOf unitName token ending, e) = r := by simpa [refused] using hr
  have hname := (Path.join_inj (Scratch.isAbsolute_fileName ..) (Scratch.isAbsolute_fileName ..)).mp
    hpath
  rw [← he, refusalOf?, refusalOf?, ← hname, show s.pathOf unitName' token' ending' =
    s.pathOf unitName token ending from hpath.symm]

theorem parts_pathOf (hending : '/' ∉ ending) (htoken : '/' ∉ token) :
    Path.parts (s.pathOf unitName token ending) =
      Path.names s.directory ++ [fileName (stem unitName token) ending] := by
  obtain ⟨rest, hrest, hparts⟩ := parts_join s.directory ending
  have hparts := hparts unitName token (Scratch.slash_notMem_stem unitName htoken)
  rwa [hrest.mpr hending, Scratch.takeWhile_of_slash_notMem hending] at hparts

theorem names_of_leads {k : Nat} (hending : '/' ∉ ending) (htoken : '/' ∉ token)
    (h : t.Leads linkLimit (t.startOf s.directory) (Path.names s.directory) k d) :
    t.Names (s.pathOf unitName token ending) d (fileName (stem unitName token) ending) := by
  refine ⟨⟨Path.names s.directory, k, parts_pathOf hending htoken, ?_⟩, Scratch.fileName_ne ..⟩
  rwa [pathOf, startOf_join]

/-- A stager before its first turn: the path of its directory leads to `d`, and the names from the
next one to the `n`-th are tokens, different from each other and from all parts of names in `d`. -/
structure Ready (s : Stager) (w : World) (d : Location) (n : Nat) : Prop where
  directory : ∃ k,
    w.files.Leads linkLimit (w.files.startOf s.directory) (Path.names s.directory) k d
  token : ∀ i, w.drawn ≤ i → i < n → IsToken (w.freshName i)
  distinct : ∀ i j, w.drawn ≤ i → i < j → j < n → w.freshName i ≠ w.freshName j
  new : ∀ i, w.drawn ≤ i → i < n → ∀ name, w.freshName i <:+: name →
    w.files.get? (name :: d) = none

/-- Neither ending can be taken for a part of another name or of a path. -/
def Simple (s : Stager) : Prop := ∀ ending ∈ s.endings, '-' ∉ ending ∧ '/' ∉ ending

instance (s : Stager) : Decidable s.Simple :=
  inferInstanceAs (Decidable (∀ ending ∈ s.endings, '-' ∉ ending ∧ '/' ∉ ending))

namespace Ready

theorem not_there (h : s.Ready w₀ d n) (hi : w₀.drawn ≤ i ∧ i < n) (unitName ending : Text) :
    w₀.files.get? (fileName (stem unitName (w₀.freshName i)) ending :: d) = none :=
  h.new i hi.1 hi.2 _ ⟨Scratch.sanitize unitName ++ ['-'], '.' :: ending, by simp [fileName, stem]⟩

end Ready

/-- The paths of a stem lead to `d`, and nothing stands there under its names. -/
structure Vacant (s : Stager) (t : FileTree) (d : Location) (unitName token : Text) : Prop where
  names : ∀ ending ∈ s.endings, t.Names (s.pathOf unitName token ending) d
    (fileName (stem unitName token) ending)
  free : ∀ ending ∈ s.endings, t.get? (fileName (stem unitName token) ending :: d) = none

theorem Vacant.names_of_extends (h : s.Vacant t₀ d unitName token) (ht : t₀.Extends t)
    (hending : ending ∈ s.endings) : t.Names (s.pathOf unitName token ending) d
      (fileName (stem unitName token) ending) :=
  (h.names ending hending).mono ht.here ht.keep

theorem Ready.vacant (h : s.Ready w₀ d n) (hsimple : s.Simple) (hi : w₀.drawn ≤ i ∧ i < n)
    (unitName : Text) : s.Vacant w₀.files d unitName (w₀.freshName i) := by
  obtain ⟨k, hway⟩ := h.directory
  refine ⟨fun ending hending => names_of_leads (hsimple ending hending).2 ?_ hway,
    fun ending _ => h.not_there hi unitName ending⟩
  exact (h.token i hi.1 hi.2).notMem (by decide)

/-- What stands under the two names of a stem are files, and the system takes their paths. -/
def Tidy (s : Stager) (d : Location) (unitName token : Text) (t : FileTree) : Prop :=
  ∀ ending ∈ s.endings, ∀ e ∈ t.get? (fileName (stem unitName token) ending :: d),
    (∃ content, e = .file content) ∧ s.refusalOf? unitName token ending = none

theorem Vacant.tidy (h : s.Vacant t d unitName token) : s.Tidy d unitName token t := by
  intro ending hending e he
  simp [h.free ending hending] at he

theorem Vacant.plain (h : s.Vacant t d unitName token) (hending : ending ∈ s.endings) :
    t.Plain (fileName (stem unitName token) ending :: d) := by
  simp [FileTree.Plain, h.free ending hending]

theorem discard_pathOf (h : s.Vacant t₀ d unitName token) (hw : t₀.Extends w.files)
    (htidy : s.Tidy d unitName token w.files) (hending : ending ∈ s.endings) :
    let w' := w.discard s.reports (s.pathOf unitName token ending)
    (∀ l, w'.files.get? l =
      if l = fileName (stem unitName token) ending :: d then none else w.files.get? l) ∧
    w'.files.here = w.files.here ∧
    w'.reports = w.reports ++ if s.reports then s.refused unitName token ending else [] :=
  World.discard_names (h.names_of_extends hw hending) (fun e he => (htidy ending hending e he).1)
    (fun hrefused => Option.eq_none_iff_forall_not_mem.mpr fun e he =>
      hrefused (htidy ending hending e he).2) s.reports

/-- Removing the files of a stem takes away what stands under their names and nothing else. -/
theorem discard_paths (h : s.Vacant t₀ d unitName token) (hw : t₀.Extends w.files)
    (htidy : s.Tidy d unitName token w.files) (withOutput : Bool) :
    let name := fileName (stem unitName token)
    let w' := s.discard (s.paths unitName token withOutput) w
    (∀ l, w'.files.get? l =
      if l = name s.sourceExtension :: d ∨ withOutput = true ∧ l = name s.unitExtension :: d then none
      else w.files.get? l) ∧
    w'.files.here = w.files.here ∧
    w'.reports = w.reports ++
      if s.reports then s.refused unitName token s.sourceExtension ++
        if withOutput then s.refused unitName token s.unitExtension else []
      else [] := by
  intro name w'
  have hsource : s.sourceExtension ∈ s.endings := List.mem_cons_self
  obtain ⟨hget, hhere, hreports⟩ := discard_pathOf h hw htidy hsource
  cases withOutput with
  | false => exact ⟨fun l => (hget l).trans (by simp [name]), hhere, hreports.trans (by simp)⟩
  | true =>
    let w₁ := w.discard s.reports (s.pathOf unitName token s.sourceExtension)
    have hw₁ : t₀.Extends w₁.files := by
      refine ⟨hhere.trans hw.here, fun l e he => ?_⟩
      rw [hget, if_neg]
      · exact hw.keep l e he
      · rintro rfl
        simp [h.free _ hsource] at he
    have htidy₁ : s.Tidy d unitName token w₁.files := by
      intro ending hending e he
      rw [hget] at he
      split at he
      · simp at he
      · exact htidy ending hending e he
    obtain ⟨hget₁, hhere₁, hreports₁⟩ := discard_pathOf h hw₁ htidy₁
      (List.mem_cons_of_mem _ List.mem_cons_self)
    refine ⟨fun l => (hget₁ l).trans ?_, hhere₁.trans hhere, hreports₁.trans ?_⟩
    · rw [hget]
      by_cases hl : l = name s.unitExtension :: d
      · simp [name, hl]
      · simp [name, hl]
    · rw [hreports]
      cases s.reports <;> simp

/-- If nothing but the source came under the names of a stem, removing its files brings back what was
there before. -/
theorem discard_source (h : s.Vacant t d unitName token) (hw : t.Extends w.files)
    (htidy : s.Tidy d unitName token w.files)
    (hother : ∀ l, l ≠ fileName (stem unitName token) s.sourceExtension :: d →
      w.files.get? l = t.get? l)
    (withOutput : Bool) : ∃ t' rs,
    s.discard (s.paths unitName token withOutput) w =
      { w with files := t', reports := w.reports ++ rs } ∧
    t'.here = w.files.here ∧ (∀ l, t'.get? l = t.get? l) ∧
    ∀ r ∈ rs, ∃ ending ∈ s.endings, r ∈ s.refused unitName token ending := by
  obtain ⟨hget, hhere, hreports⟩ := discard_paths h hw htidy withOutput
  obtain ⟨t', rs, hrest⟩ := (s.discard_swept (s.paths unitName token withOutput) w).rest
  rw [hrest] at hget hhere hreports
  dsimp only at hget hhere hreports
  refine ⟨t', _, hrest.trans (by rw [hreports]), hhere, fun l => (hget l).trans ?_, fun r hr => ?_⟩
  · split
    · next hl =>
      rcases hl with rfl | ⟨-, rfl⟩
      · exact (h.free _ (by simp [endings])).symm
      · exact (h.free _ (by simp [endings])).symm
    · next hl => exact hother l fun heq => hl (.inl heq)
  · split at hr
    · rcases List.mem_append.mp hr with hr | hr
      · exact ⟨_, by simp [endings], hr⟩
      · split at hr
        · exact ⟨_, by simp [endings], hr⟩
        · simp at hr
    · simp at hr

/-! ### Staging -/

theorem stage_of_written (htoken : w.freshName w.drawn = token) (h : w.files.write
    (s.paths unitName token withOutput).source (Text.encode source) = (.ok (), t)) :
    s.stage unitName source withOutput w = (.ok (s.paths unitName token withOutput),
      { w with files := t, drawn := w.drawn + 1 }) := by
  subst htoken
  rw [stage_apply]
  unfold Act.write
  dsimp only
  rw [h]

theorem stage_of_unwritten {e : IoError} (htoken : w.freshName w.drawn = token)
    (h : w.files.write (s.paths unitName token withOutput).source (Text.encode source) =
      (.error e, t)) :
    s.stage unitName source withOutput w =
      (.error (.fault (.notStaged (s.paths unitName token withOutput).source e)),
        s.discard (s.paths unitName token withOutput)
          { w with files := t, drawn := w.drawn + 1 }) := by
  subst htoken
  rw [stage_apply]
  unfold Act.write
  dsimp only
  rw [h]

theorem discard_drawn (s : Stager) (f : Staged) (w : World) :
    (s.discard f w).drawn = w.drawn := by
  obtain ⟨t, rs, hrest⟩ := (s.discard_swept f w).rest
  rw [hrest]

theorem drawn_of_stage {r : Except Halt Staged}
    (h : s.stage unitName source withOutput w = (r, w')) : w'.drawn = w.drawn + 1 := by
  let f := s.paths unitName (w.freshName w.drawn) withOutput
  rcases hwrite : w.files.write f.source (Text.encode source) with ⟨e | _, t⟩
  · obtain rfl := (Prod.mk.inj ((stage_of_unwritten rfl hwrite).symm.trans h)).2
    exact s.discard_drawn f _
  · obtain rfl := (Prod.mk.inj ((stage_of_written rfl hwrite).symm.trans h)).2
    rfl

/-- A stage fails and leaves the files as they were. It reports no more than paths that the system
does not take. -/
def Fails (s : Stager) (unitName token source : Text) (withOutput : Bool) (w : World) : Prop :=
  ∃ e t rs, s.stage unitName source withOutput w =
    (.error (.fault (.notStaged (s.pathOf unitName token s.sourceExtension) e)),
      { w with files := t, drawn := w.drawn + 1, reports := w.reports ++ rs }) ∧
    t.here = w.files.here ∧ (∀ l, t.get? l = w.files.get? l) ∧
    ∀ r ∈ rs, ∃ ending ∈ s.endings, r ∈ s.refused unitName token ending

/-- A failure removes whatever has come under the name of the source. -/
theorem fails_of_unwritten {e : IoError} (h : s.Vacant w.files d unitName token)
    (htoken : w.freshName w.drawn = token)
    (hwrite : w.files.write (s.pathOf unitName token s.sourceExtension) (Text.encode source) =
      (.error e, t))
    (ht : w.files.Extends t) (htidy : s.Tidy d unitName token t)
    (hother : ∀ l, l ≠ fileName (stem unitName token) s.sourceExtension :: d →
      t.get? l = w.files.get? l) : s.Fails unitName token source withOutput w := by
  obtain ⟨t', rs, hdiscard, hhere, hget, hrs⟩ := discard_source
    (w := { w with files := t, drawn := w.drawn + 1 }) h ht htidy hother withOutput
  exact ⟨e, t', rs, (stage_of_unwritten htoken hwrite).trans (by rw [hdiscard]; rfl),
    hhere.trans ht.here, hget, hrs⟩

theorem fails_of_refused {e : IoError} (h : s.Vacant w.files d unitName token)
    (htoken : w.freshName w.drawn = token)
    (hrefused : s.refusalOf? unitName token s.sourceExtension = some e) :
    s.Fails unitName token source withOutput w := by
  have hsource : s.sourceExtension ∈ s.endings := List.mem_cons_self
  have hwrite := (h.names _ hsource).write_eq (h.plain hsource) (Text.encode source)
  rw [show refusal? _ _ = some e from hrefused] at hwrite
  exact fails_of_unwritten h htoken hwrite (.refl _) h.tidy fun _ _ => rfl

theorem fails_of_cut {e : IoError} {cut : Bytes} (h : s.Vacant w.files d unitName token)
    (htoken : w.freshName w.drawn = token)
    (hrefused : s.refusalOf? unitName token s.sourceExtension = none)
    (hwrite : w.files.write (s.pathOf unitName token s.sourceExtension) (Text.encode source) =
      (.error e, w.files.set (fileName (stem unitName token) s.sourceExtension :: d) (.file cut))) :
    s.Fails unitName token source withOutput w := by
  have hget := FileTree.get?_set w.files (fileName (stem unitName token) s.sourceExtension :: d)
    (.file cut) (List.cons_ne_nil _ _)
  refine fails_of_unwritten h htoken hwrite
    (.set (.refl _) (List.cons_ne_nil _ _) (h.free _ List.mem_cons_self))
    (fun ending hending x hx => ?_) fun l hl => (hget l).trans (if_neg hl)
  rw [hget] at hx
  split at hx
  · next hname =>
    obtain rfl := Scratch.fileName_inj.mp (List.cons.inj hname).1
    exact ⟨⟨cut, (Option.some.inj hx).symm⟩, hrefused⟩
  · simp [h.free ending hending] at hx

/-- Staging puts the source under its name, or it leaves the directory as it was. -/
theorem Vacant.stage_cases (h : s.Vacant w.files d unitName token) (htoken : w.freshName w.drawn = token)
    (source : Text) (withOutput : Bool) :
    (s.refusalOf? unitName token s.sourceExtension = none ∧ ∃ t,
      s.stage unitName source withOutput w =
        (.ok (s.paths unitName token withOutput), { w with files := t, drawn := w.drawn + 1 }) ∧
      t.here = w.files.here ∧ ∀ l, t.get? l =
        if l = fileName (stem unitName token) s.sourceExtension :: d then
          some (.file (Text.encode source))
        else w.files.get? l) ∨
    s.Fails unitName token source withOutput w := by
  have hsource : s.sourceExtension ∈ s.endings := List.mem_cons_self
  have hwrite := (h.names _ hsource).write_eq (h.plain hsource) (Text.encode source)
  cases hrefused : s.refusalOf? unitName token s.sourceExtension with
  | some e => exact .inr (fails_of_refused h htoken hrefused)
  | none =>
    rw [show refusal? _ _ = none from hrefused] at hwrite
    dsimp only at hwrite
    rcases w.files.store_cases (fileName (stem unitName token) s.sourceExtension :: d)
      (Text.encode source) with hstore | ⟨e, cut, hstore⟩
    · exact .inl ⟨rfl, _, stage_of_written htoken (hwrite.trans hstore), rfl,
        FileTree.get?_set w.files _ _ (List.cons_ne_nil _ _)⟩
    · exact .inr (fails_of_cut h htoken hrefused (hwrite.trans hstore))

end Stager

end Scriptorium
