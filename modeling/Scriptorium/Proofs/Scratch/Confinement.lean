import Scriptorium.Proofs.Scratch.Staging

/-! The names of scratch files are confined. Whatever a unit is called, its part of a file name is cut
to a fixed length and made of a few characters of one byte each, so that the paths lead to entries of
the scratch directory and to nothing else. A dash and a dot may be anywhere in that part; still the
token can be read off a name, and stagings with different tokens share no path. -/

namespace Scriptorium

open FileTree (linkLimit)
open Scratch (fileName sanitize stem)

namespace Scratch

variable {c : Char} {k : Nat} {name unitName token token' ending : Text}

/-! ### Characters -/

/-- A letter or digit of ASCII, an underscore, a dash or a dot. -/
def Tame (c : Char) : Prop :=
  'A' ≤ c ∧ c ≤ 'Z' ∨ 'a' ≤ c ∧ c ≤ 'z' ∨ '0' ≤ c ∧ c ≤ '9' ∨ c = '_' ∨ c = '-' ∨ c = '.'

theorem isSafe_iff_tame : isSafe c = true ↔ Tame c := by
  have hupper : c.isUpper = true ↔ 'A' ≤ c ∧ c ≤ 'Z' := decide_eq_true_iff
  have hlower : c.isLower = true ↔ 'a' ≤ c ∧ c ≤ 'z' :=
    Bool.and_eq_true_iff.trans (and_congr decide_eq_true_iff decide_eq_true_iff)
  have hdigit : c.isDigit = true ↔ '0' ≤ c ∧ c ≤ '9' :=
    Bool.and_eq_true_iff.trans (and_congr decide_eq_true_iff decide_eq_true_iff)
  have halphanum : c.isAlphanum = true ↔ (c.isUpper = true ∨ c.isLower = true) ∨ c.isDigit = true :=
    Bool.or_eq_true_iff.trans (or_congr_left Bool.or_eq_true_iff)
  simp only [isSafe, Bool.or_eq_true, decide_eq_true_iff, halphanum, hupper, hlower, hdigit, Tame,
    or_assoc]

theorem Tame.utf8Size (h : Tame c) : c.utf8Size = 1 := by
  rw [Char.utf8Size_eq_one_iff]
  have hle : ∀ d : Char, c ≤ d → d.val ≤ 127 → c.val ≤ 127 := fun d hc hd => UInt32.le_trans hc hd
  rcases h with ⟨-, h⟩ | ⟨-, h⟩ | ⟨-, h⟩ | rfl | rfl | rfl
  · exact hle _ h (by decide)
  · exact hle _ h (by decide)
  · exact hle _ h (by decide)
  · decide
  · decide
  · decide

/-- A word of 32 hexadecimal digits. A token is one in lower case. -/
structure IsHexadecimal (token : Text) : Prop where
  length : token.length = 32
  digits : token ⊆ "0123456789abcdefABCDEF".toList

namespace IsHexadecimal

theorem isAlphanum (h : IsHexadecimal token) : ∀ c ∈ token, c.isAlphanum = true := by
  intro c hc
  have hdigits : "0123456789abcdefABCDEF".toList.all Char.isAlphanum = true := rfl
  exact List.all_eq_true.mp hdigits c (h.digits hc)

theorem tame (h : IsHexadecimal token) : ∀ c ∈ token, Tame c := by
  intro c hc
  rw [← isSafe_iff_tame, isSafe, h.isAlphanum c hc]
  rfl

theorem notMem (h : IsHexadecimal token) (hc : c.isAlphanum = false) : c ∉ token :=
  notMem_of_isAlphanum h.isAlphanum hc

end IsHexadecimal

/-! ### Sanitized names -/

theorem sanitize_of_ne_nil (h : name ≠ []) :
    sanitize name = (name.take nameLimit).map fun c => if isSafe c then c else '_' := by
  have hsome : name.take nameLimit ≠ [] := by simp [h, nameLimit]
  rw [sanitize, if_neg]
  simpa using hsome

theorem tame_of_mem_sanitize (h : c ∈ sanitize name) : Tame c :=
  isSafe_iff_tame.mp (isSafe_of_mem_sanitize h)

theorem length_sanitize (h : name ≠ []) : (sanitize name).length = min name.length 128 := by
  rw [sanitize_of_ne_nil h, List.length_map, List.length_take, Nat.min_comm]
  rfl

theorem length_sanitize_le (name : Text) : (sanitize name).length ≤ 128 := by
  by_cases h : name = []
  · rw [h]
    decide
  · rw [length_sanitize h]
    exact Nat.min_le_right _ _

theorem sanitize_ne_nil (name : Text) : sanitize name ≠ [] := by
  by_cases h : name = []
  · rw [h]
    decide
  · have hlength := length_sanitize h
    have hpos := List.length_pos_iff.mpr h
    exact List.length_pos_iff.mp (by omega)

theorem sanitize_eq_self (hne : name ≠ []) (hlength : name.length ≤ nameLimit)
    (hsafe : ∀ c ∈ name, isSafe c = true) : sanitize name = name := by
  rw [sanitize_of_ne_nil hne, List.take_of_length_le hlength]
  refine (List.map_congr_left fun c hc => ?_).trans (List.map_id _)
  rw [if_pos (hsafe c hc)]
  rfl

theorem getElem?_sanitize (hk : k < nameLimit) (hc : name[k]? = some c) :
    (sanitize name)[k]? = some (if isSafe c then c else '_') := by
  have hne : name ≠ [] := by
    rintro rfl
    simp at hc
  rw [sanitize_of_ne_nil hne, List.getElem?_map, List.getElem?_take_of_lt hk, hc]
  rfl

/-- `part` is what `name` becomes as a part of a file name: the first 128 characters, each in its
place, or an underscore where a character is not fit for it. -/
structure Sanitizes (name part : Text) : Prop where
  ne_nil : part ≠ []
  tame : ∀ c ∈ part, Tame c
  length_eq : name ≠ [] → part.length = min name.length 128
  kept : ∀ k < 128, ∀ c, name[k]? = some c → Tame c → part[k]? = some c
  replaced : ∀ k < 128, ∀ c, name[k]? = some c → ¬Tame c → part[k]? = some '_'
  of_nil : name = [] → part = "script".toList
  again : sanitize part = part

theorem sanitize_sanitizes (name : Text) : Sanitizes name (sanitize name) := by
  refine ⟨sanitize_ne_nil name, fun c => tame_of_mem_sanitize, length_sanitize,
    fun k hk c hc htame => ?_, fun k hk c hc hwild => ?_, ?_, ?_⟩
  · rw [getElem?_sanitize hk hc, if_pos (isSafe_iff_tame.mpr htame)]
  · rw [getElem?_sanitize hk hc, if_neg (mt isSafe_iff_tame.mp hwild)]
  · rintro rfl
    rfl
  · exact sanitize_eq_self (sanitize_ne_nil name) (length_sanitize_le name)
      fun c => isSafe_of_mem_sanitize

/-! ### File names -/

theorem tame_of_mem_stem (h : IsHexadecimal token) (hc : c ∈ stem unitName token) : Tame c := by
  rcases List.mem_append.mp hc with hc | hc
  · exact tame_of_mem_sanitize hc
  · rcases List.mem_cons.mp hc with rfl | hc
    · exact isSafe_iff_tame.mp rfl
    · exact h.tame c hc

/-- As the part of the unit is of ASCII, the limit on its characters is one on its bytes. -/
theorem byteLength_fileName_le (h : IsHexadecimal token) (unitName ending : Text) :
    Text.byteLength (fileName (stem unitName token) ending) ≤ 162 + Text.byteLength ending := by
  have hstem : Text.byteLength (stem unitName token) = (sanitize unitName).length + 33 := by
    rw [Text.byteLength_of_small fun c hc => (tame_of_mem_stem h hc).utf8Size, stem, List.length_append,
      List.length_cons, h.length]
  have hdot : Text.byteLength ('.' :: ending) = 1 + Text.byteLength ending := rfl
  have hsanitized := length_sanitize_le unitName
  rw [fileName, Text.byteLength_append, hstem, hdot]
  omega

theorem notMem_fileName (h : IsHexadecimal token) (hwild : ¬Tame c) (hc : c ∉ ending) :
    c ∉ fileName (stem unitName token) ending := by
  have hdot : c ≠ '.' := by
    rintro rfl
    exact hwild (isSafe_iff_tame.mp rfl)
  simp [fileName, hdot, hc, mt (tame_of_mem_stem h) hwild]

end Scratch

/-! ### Paths -/

/-- The scratch files of a request. -/
def Staged.all (f : Staged) : List Text := f.source :: f.output.toList

/-- `path` leads to an entry of the directory `dir`, whatever the directory is: behind the names in
`dir` it has one more, which means neither a directory above nor the directory itself. The name is
made of fit characters up to its ending, and no longer than the system allows. -/
structure Confined (dir stem ending path : Text) : Prop where
  parts_eq : Path.parts path = Path.names dir ++ [fileName stem ending]
  isAbsolute_eq : Path.isAbsolute path = Path.isAbsolute dir
  names : ∀ t k d, FileTree.Leads t linkLimit (t.startOf dir) (Path.names dir) k d →
    t.Names path d (fileName stem ending)
  whole : '/' ∉ fileName stem ending ∧ '\x00' ∉ fileName stem ending
  tame : ∀ c ∈ stem, Scratch.Tame c
  byteLength_le : Text.byteLength (fileName stem ending) ≤ 162 + Text.byteLength ending
  byteLength_lt : Text.byteLength ending ≤ 92 → Text.byteLength (fileName stem ending) < 255

namespace Stager

variable {s s' : Stager} {unitName unitName' token token' ending path path' : Text}
  {withOutput withOutput' : Bool} {w : World}

theorem pathOf_confined (h : Scratch.IsHexadecimal token) (hslash : '/' ∉ ending)
    (hnul : '\x00' ∉ ending) :
    Confined s.directory (stem unitName token) ending (s.pathOf unitName token ending) := by
  have htoken : '/' ∉ token := h.notMem (by decide)
  have hbytes := Scratch.byteLength_fileName_le h unitName ending
  refine ⟨parts_pathOf hslash htoken, Path.isAbsolute_join _ (Scratch.isAbsolute_fileName ..),
    fun t k d => names_of_leads hslash htoken, ⟨?_, ?_⟩, fun c => Scratch.tame_of_mem_stem h, hbytes,
    fun hending => by omega⟩
  · exact Scratch.notMem_fileName h (by simp [← Scratch.isSafe_iff_tame]; decide) hslash
  · exact Scratch.notMem_fileName h (by simp [← Scratch.isSafe_iff_tame]; decide) hnul

theorem mem_all_paths (h : path ∈ (s.paths unitName token withOutput).all) :
    ∃ ending ∈ s.endings, path = s.pathOf unitName token ending := by
  rcases List.mem_cons.mp h with rfl | h
  · exact ⟨s.sourceExtension, by simp [endings], rfl⟩
  · cases withOutput with
    | false => simp [paths] at h
    | true =>
      obtain rfl := List.mem_singleton.mp h
      exact ⟨s.unitExtension, by simp [endings], rfl⟩

theorem getLast?_parts_ne (h : Scratch.IsHexadecimal token) (h' : Scratch.IsHexadecimal token')
    (hne : token ≠ token') (hs : s.Simple) (hs' : s'.Simple)
    (hpath : path ∈ (s.paths unitName token withOutput).all)
    (hpath' : path' ∈ (s'.paths unitName' token' withOutput').all) :
    (Path.parts path).getLast? ≠ (Path.parts path').getLast? := by
  obtain ⟨a, ha, rfl⟩ := mem_all_paths hpath
  obtain ⟨b, hb, rfl⟩ := mem_all_paths hpath'
  rw [parts_pathOf (hs a ha).2 (h.notMem (by decide)), parts_pathOf (hs' b hb).2 (h'.notMem (by decide)),
    List.getLast?_concat, List.getLast?_concat]
  intro heq
  exact hne (Scratch.word_of_fileName h.isAlphanum h'.isAlphanum (hs a ha).1 (hs' b hb).1
    (Option.some.inj heq))

theorem paths_front (s : Stager) (unitName token : Text) (withOutput : Bool) :
    ∃ front, (s.paths unitName token withOutput).source = front ++ '.' :: s.sourceExtension ∧
      ∀ path ∈ (s.paths unitName token withOutput).output,
        path = front ++ '.' :: s.unitExtension := by
  obtain ⟨front, hfront⟩ := s.exists_front unitName
  have hpathOf (ending : Text) :
      s.pathOf unitName token ending = (front ++ token) ++ '.' :: ending := by
    rw [hfront, List.append_assoc]
  refine ⟨front ++ token, hpathOf s.sourceExtension, fun path hpath => ?_⟩
  cases withOutput with
  | false => simp [paths] at hpath
  | true =>
    obtain rfl := Option.some.inj hpath
    exact hpathOf s.unitExtension

/-- Staging works on the paths of the next token, and names the source if it fails. -/
theorem stage_paths (s : Stager) (unitName source : Text) (withOutput : Bool) (w : World) :
    let f := s.paths unitName (w.freshName w.drawn) withOutput
    (s.stage unitName source withOutput w).1 = .ok f ∨
      ∃ e, (s.stage unitName source withOutput w).1 = .error (.fault (.notStaged f.source e)) := by
  intro f
  rcases hwrite : w.files.write f.source (Text.encode source) with ⟨e | _, t⟩
  · exact .inr ⟨e, by rw [stage_of_unwritten rfl hwrite]⟩
  · exact .inl (by rw [stage_of_written rfl hwrite])

theorem stage_of_not_leads (unitName source : Text) (withOutput : Bool)
    (hslash : ∀ ending ∈ s.endings, '/' ∉ ending) (htoken : '/' ∉ token) (hdraw : w.freshName w.drawn = token)
    (h : ∀ k d,
      ¬w.files.Leads linkLimit (w.files.startOf s.directory) (Path.names s.directory) k d) :
    let f := s.paths unitName token withOutput
    ∃ e w', s.stage unitName source withOutput w = (.error (.fault (.notStaged f.source e)), w') ∧
      ∀ l, w'.files.get? l = w.files.get? l := by
  intro f
  have hlost {path : Text} (hpath : path ∈ f.all) (last : Bool) (p : FileTree.Place) :
      w.files.find last path ≠ .ok p := by
    intro hfind
    obtain ⟨ending, hending, rfl⟩ := mem_all_paths hpath
    have hwalk := FileTree.walk_of_find hfind
    rw [parts_pathOf (hslash ending hending) htoken] at hwalk
    obtain ⟨k, d, hleads⟩ := FileTree.exists_leads (List.cons_ne_nil _ _) hwalk
    rw [pathOf, startOf_join] at hleads
    exact h k d hleads
  have hparts : Path.parts f.source = _ :=
    parts_pathOf (hslash s.sourceExtension List.mem_cons_self) htoken
  rcases w.files.names_or_unwritable hparts (Scratch.fileName_ne ..) with ⟨d, hnames⟩ | ⟨e, hwrite⟩
  · obtain ⟨⟨ds, k, hds, hleads⟩, -⟩ := hnames
    obtain rfl := (List.append_inj' (hparts.symm.trans hds) rfl).1
    exact absurd (startOf_join .. ▸ hleads) (h k d)
  · refine ⟨e, _, stage_of_unwritten hdraw (hwrite _), fun l => ?_⟩
    refine (s.discard_swept f _).untouched l (fun x => hlost List.mem_cons_self _ _)
      fun path hpath x => ?_
    have hnothing : ¬w.files.Holds f.source := by
      rintro ⟨m, y, hfind⟩
      exact hlost List.mem_cons_self _ _ hfind
    rw [FileTree.without_of_not_holds hnothing]
    exact hlost (List.mem_cons_of_mem _ (Option.mem_toList.mpr hpath)) _ _

/-- Where a stage puts the source, if nothing bears its new names: under its name in the directory
that the path of the scratch directory leads to. Nothing else changes, and nothing at all if the stage
fails. -/
theorem stage_confined (source : Text) (hslash : ∀ ending ∈ s.endings, '/' ∉ ending)
    (htoken : '/' ∉ token) (hdraw : w.freshName w.drawn = token)
    (hfree : ∀ ending ∈ s.endings, ∀ d,
      w.files.get? (fileName (stem unitName token) ending :: d) = none) :
    let f := s.paths unitName token withOutput
    let x := s.stage unitName source withOutput w
    (x.1 = .ok f ∧ ∃ k d,
      w.files.Leads linkLimit (w.files.startOf s.directory) (Path.names s.directory) k d ∧
      ∀ l, x.2.files.get? l =
        if l = fileName (stem unitName token) s.sourceExtension :: d then
          some (.file (Text.encode source))
        else w.files.get? l) ∨
    (∃ e, x.1 = .error (.fault (.notStaged f.source e))) ∧
      ∀ l, x.2.files.get? l = w.files.get? l := by
  intro f x
  by_cases h : ∃ k d,
    w.files.Leads linkLimit (w.files.startOf s.directory) (Path.names s.directory) k d
  · obtain ⟨k, d, hleads⟩ := h
    have hvacant : s.Vacant w.files d unitName token :=
      ⟨fun ending hending => names_of_leads (hslash ending hending) htoken hleads,
        fun ending hending => hfree ending hending d⟩
    rcases hvacant.stage_cases hdraw source withOutput with
      ⟨-, t, hstage, -, hget⟩ | ⟨e, t, rs, hstage, -, hget, -⟩
    · rw [show x = _ from hstage]
      exact .inl ⟨rfl, k, d, hleads, hget⟩
    · rw [show x = _ from hstage]
      exact .inr ⟨⟨e, rfl⟩, hget⟩
  · obtain ⟨e, w', hstage, hget⟩ := stage_of_not_leads unitName source withOutput hslash
      htoken hdraw fun k d hleads => h ⟨k, d, hleads⟩
    rw [show x = _ from hstage]
    exact .inr ⟨⟨e, rfl⟩, hget⟩

/-- Whatever a unit is called, its source and its output are entries of the scratch directory, with
names of few characters and of bounded length that only the endings keep apart. If nothing bears these
names, staging puts the source in the scratch directory and changes nothing else. If no ending holds a
dash, stagings with different tokens have no path in common, and not even a name. -/
theorem staged_paths_confined (hs : ∀ ending ∈ s.endings, '/' ∉ ending ∧ '\x00' ∉ ending)
    (h : Scratch.IsHexadecimal token) (unitName : Text) (withOutput : Bool) :
    let f := s.paths unitName token withOutput
    let stem := stem unitName token
    Scratch.Sanitizes unitName (sanitize unitName) ∧
      (∀ source w, w.freshName w.drawn = token →
        (s.stage unitName source withOutput w).1 = .ok f ∨
          ∃ e, (s.stage unitName source withOutput w).1 =
            .error (.fault (.notStaged f.source e))) ∧
      (∀ source w, w.freshName w.drawn = token →
        (∀ ending ∈ s.endings, ∀ d, w.files.get? (fileName stem ending :: d) = none) →
        let x := s.stage unitName source withOutput w
        (x.1 = .ok f ∧ ∃ k d,
          w.files.Leads linkLimit (w.files.startOf s.directory) (Path.names s.directory) k d ∧
          ∀ l, x.2.files.get? l =
            if l = fileName stem s.sourceExtension :: d then some (.file (Text.encode source))
            else w.files.get? l) ∨
        (∃ e, x.1 = .error (.fault (.notStaged f.source e))) ∧
          ∀ l, x.2.files.get? l = w.files.get? l) ∧
      Confined s.directory stem s.sourceExtension f.source ∧
      (f.output.isSome = withOutput ∧
        ∀ path ∈ f.output, Confined s.directory stem s.unitExtension path) ∧
      (∃ front, f.source = front ++ '.' :: s.sourceExtension ∧
        ∀ path ∈ f.output, path = front ++ '.' :: s.unitExtension) ∧
      ∀ (s' : Stager) (unitName' token' : Text) (withOutput' : Bool),
        Scratch.IsHexadecimal token' → token ≠ token' → (∀ ending ∈ s'.endings, '/' ∉ ending) →
        (∀ ending ∈ s.endings ++ s'.endings, '-' ∉ ending) →
        ∀ path ∈ f.all, ∀ path' ∈ (s'.paths unitName' token' withOutput').all,
          path ≠ path' ∧ (Path.parts path).getLast? ≠ (Path.parts path').getLast? := by
  intro f stem
  have htoken : '/' ∉ token := h.notMem (by decide)
  refine ⟨Scratch.sanitize_sanitizes unitName, ?_, fun source w hdraw hfree => ?_, ?_, ⟨?_, ?_⟩,
    s.paths_front unitName token withOutput, ?_⟩
  · rintro source w rfl
    exact s.stage_paths unitName source withOutput w
  · exact stage_confined source (fun ending hending => (hs ending hending).1) htoken hdraw hfree
  · have hending := hs s.sourceExtension (by simp [endings])
    exact pathOf_confined h hending.1 hending.2
  · cases withOutput <;> rfl
  · intro path hpath
    cases withOutput with
    | false => simp [f, paths] at hpath
    | true =>
      obtain rfl := Option.some.inj hpath
      have hending := hs s.unitExtension (by simp [endings])
      exact pathOf_confined h hending.1 hending.2
  · intro s' unitName' token' withOutput' h' hne hslash hdash path hpath path' hpath'
    have hsimple : s.Simple := fun a ha => ⟨hdash a (List.mem_append_left _ ha), (hs a ha).1⟩
    have hsimple' : s'.Simple := fun b hb => ⟨hdash b (List.mem_append_right _ hb), hslash b hb⟩
    have hlast := getLast?_parts_ne h h' hne hsimple hsimple' hpath hpath'
    exact ⟨fun heq => hlast (by rw [heq]), hlast⟩

/-- A name of everything that a path must not have, and one that looks like a file name with a token
in it. -/
theorem hostile_names_confined :
    let s : Stager := ⟨"/t".toList, "fsx".toList, "so".toList, false⟩
    let token : Text := "0123456789abcdef0123456789abcdef".toList
    let token' : Text := "0123456789abcdef0123456789abcdeF".toList
    let hostile : Text := "../\x00é-".toList
    let f := s.paths hostile token true
    let w : World :=
      { files := { entries := [(["t".toList], .directory)] }, freshName := fun _ => token }
    f.source = "/t/..___--0123456789abcdef0123456789abcdef.fsx".toList ∧
      f.output = some "/t/..___--0123456789abcdef0123456789abcdef.so".toList ∧
      Scratch.Sanitizes hostile "..___-".toList ∧
      Confined "/t".toList (stem hostile token) "fsx".toList f.source ∧
      (s.stage hostile "x".toList true w).2.files.get?
        ["..___--0123456789abcdef0123456789abcdef.fsx".toList, "t".toList] =
          some (.file (Text.encode "x".toList)) ∧
      f.source ∉ (s.paths ("..___--".toList ++ token ++ ".fsx".toList) token' true).all := by
  intro s token token' hostile f w
  have hs : ∀ ending ∈ s.endings, '/' ∉ ending ∧ '\x00' ∉ ending := by decide
  have htoken : Scratch.IsHexadecimal token := ⟨by decide, by decide⟩
  have htoken' : Scratch.IsHexadecimal token' := ⟨by decide, by decide⟩
  have hne : token ≠ token' := by decide
  obtain ⟨hsanitizes, -, hplaced, hconfined, -, -, hapart⟩ := staged_paths_confined hs htoken hostile true
  have hfree : ∀ ending ∈ s.endings, ∀ d,
      w.files.get? (fileName (stem hostile token) ending :: d) = none := by
    intro ending hending d
    have hlong : (fileName (stem hostile token) ending == ['t']) = false := by
      revert ending
      decide +kernel
    simp [FileTree.get?, w, List.lookup_cons, hlong]
  refine ⟨by decide +kernel, by decide +kernel, hsanitizes, hconfined, ?_, fun hmem => ?_⟩
  · rcases hplaced "x".toList w rfl hfree with ⟨-, k, d, hleads, hget⟩ | ⟨⟨e, herror⟩, -⟩
    · obtain rfl : d = ["t".toList] := by
        have hnames : Path.names s.directory = ["t".toList] := by decide +kernel
        have hdirectory : w.files.get? ["t".toList] = some .directory := rfl
        rw [hnames] at hleads
        rcases hleads with _ | _ | _ | ⟨-, -, ⟨⟩⟩ | ⟨-, hlink, -⟩
        · rfl
        · exact absurd (hdirectory.symm.trans hlink) nofun
      exact (hget _).trans (if_pos (by decide +kernel))
    · have hok : (s.stage hostile "x".toList true w).1.toOption.isSome = true := by decide +kernel
      rw [herror] at hok
      simp [Except.toOption] at hok
  · exact (hapart s _ token' true htoken' hne (by decide) (by decide) f.source List.mem_cons_self
      f.source hmem).1 rfl

end Stager

end Scriptorium
