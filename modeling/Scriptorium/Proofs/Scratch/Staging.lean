import Scriptorium.Proofs.Scratch.Directory
import Scriptorium.Proofs.Text.Utf8

/-! Staging under one fresh token and under another. All tokens have one length and no character
that a path gives a meaning to, and nothing stands at a new name, so what the system says to the
path with one token it says to the path with any other. -/

namespace Scriptorium

open FileTree (linkLimit nameLimit pathLimit)
open Scratch (IsToken fileName stem)

variable {s : Stager} {w : World} {t : FileTree} {token unitName : Text}

/-! ### Paths with a token in them -/

theorem Text.byteLength_of_small {a : Text} (ha : ∀ c ∈ a, c.utf8Size = 1) :
    Text.byteLength a = a.length := by
  induction a with
  | nil => rfl
  | cons c a ih =>
    rw [List.length_cons, ← ih fun x hx => ha x (List.mem_cons_of_mem c hx), Nat.add_comm,
      ← ha c List.mem_cons_self]
    rfl

namespace Path

/-- A directory puts one text in front of all paths that are joined to it. -/
theorem exists_front (dir : Text) : ∃ front, ∀ p, isAbsolute p = false → join dir p = front ++ p := by
  refine ⟨if dir.isEmpty then [] else if endsInSlash dir then dir else dir ++ ['/'], fun p hp => ?_⟩
  rw [join, hp, Bool.false_or]
  split
  · rfl
  · split
    · rfl
    · simp

theorem endsInSlash_append_cons (a : Text) (c : Char) (b : Text) :
    endsInSlash (a ++ c :: b) = endsInSlash (c :: b) := by
  rw [endsInSlash, endsInSlash, List.getLast?_append_of_ne_nil _ (List.cons_ne_nil _ _)]

theorem dropSlashes_append_dot (a b : Text) :
    dropSlashes (a ++ '.' :: b) = a ++ '.' :: dropSlashes b := by
  rw [dropSlashes, dropSlashes, List.reverse_append, List.reverse_cons, List.append_assoc,
    List.singleton_append, List.dropWhile_append]
  split
  · next hempty =>
    rw [List.isEmpty_iff.mp hempty]
    simp
  · simp

end Path

namespace Scratch.IsToken

theorem byteLength (h : IsToken token) : Text.byteLength token = 32 := by
  have hsmall : ∀ c ∈ token, c.utf8Size = 1 := by
    intro c hc
    have hdigits : "0123456789abcdef".toList.all (·.utf8Size == 1) = true := rfl
    simpa using List.all_eq_true.mp hdigits c (h.hexadecimal hc)
  rw [Text.byteLength_of_small hsmall, h.length]

end Scratch.IsToken

namespace Stager

/-- All scratch paths of a unit are the same up to the token and the ending. -/
theorem exists_front (s : Stager) (unitName : Text) : ∃ front, ∀ token ending,
    s.pathOf unitName token ending = front ++ (token ++ '.' :: ending) := by
  obtain ⟨front, hfront⟩ := Path.exists_front s.directory
  refine ⟨front ++ Scratch.sanitize unitName ++ ['-'], fun token ending => ?_⟩
  rw [pathOf, hfront _ (Scratch.isAbsolute_fileName ..), fileName, stem]
  simp

/-! ### What the system says to them -/

/-- A token that is new to the tree as part of the file names of a unit. -/
structure New (t : FileTree) (unitName token : Text) : Prop where
  isToken : IsToken token
  unused : t.Unused (stem unitName token)

theorem byteLength_name_new (h : New t unitName token) (ending : Text) :
    Text.byteLength (fileName (stem unitName token) ending) =
      Text.byteLength (Scratch.sanitize unitName ++ ['-']) +
        (32 + Text.byteLength ('.' :: ending)) := by
  have hname : fileName (stem unitName token) ending =
      (Scratch.sanitize unitName ++ ['-']) ++ (token ++ '.' :: ending) := by
    simp [fileName, stem]
  rw [hname, Text.byteLength_append (_ ++ _), Text.byteLength_append token, h.isToken.byteLength]

/-- From a directory on, walking to a name with a new token comes to the same for all of them. -/
theorem walk_new (t : FileTree) (last : Bool) (k : Nat) (d : Location) (unitName ending : Text)
    (rest : List Text) : ∃ r : Except IoError Unit, ∀ token, New t unitName token →
      t.walk last k d (fileName (stem unitName token) ending :: rest) =
        r.map fun _ => .free (fileName (stem unitName token) ending :: d) := by
  let nameLength := Text.byteLength (Scratch.sanitize unitName ++ ['-']) +
    (32 + Text.byteLength ('.' :: ending))
  refine ⟨if nameLimit < nameLength then .error .nameTooLong
    else if rest.isEmpty then .ok () else .error .notFound, fun token h => ?_⟩
  obtain ⟨hdot, hup⟩ := Scratch.fileName_ne unitName token ending
  rw [FileTree.walk_cons, if_neg hdot, if_neg hup, byteLength_name_new h,
    h.unused (fileName (stem unitName token) ending) d (List.prefix_append _ _)]
  dsimp only
  split
  · rfl
  · split <;> rfl

/-- The path of a file with a new token is walked unless it is too long or has a NUL in it, and that
is so for all tokens or for none. -/
theorem find_eq_walk_new (s : Stager) (t : FileTree) (last : Bool) (unitName ending : Text) :
    (∃ e, ∀ token, New t unitName token →
      t.find last (s.pathOf unitName token ending) = .error e) ∨
    ∀ token, New t unitName token → t.find last (s.pathOf unitName token ending) =
      t.walk last linkLimit (t.startOf s.directory)
        (Path.parts (s.pathOf unitName token ending)) := by
  obtain ⟨front, hfront⟩ := s.exists_front unitName
  let pathLength := Text.byteLength front + (32 + Text.byteLength ('.' :: ending))
  let nul := (front ++ '.' :: ending).contains '\x00'
  have hfind {token : Text} (h : New t unitName token) :
      t.find last (s.pathOf unitName token ending) =
        if !nul && pathLimit ≤ pathLength then .error .nameTooLong
        else if nul then .error .nulInPath
        else t.walk last linkLimit (t.startOf s.directory)
          (Path.parts (s.pathOf unitName token ending)) := by
    have hnul : (s.pathOf unitName token ending).contains '\x00' = nul := by
      rw [hfront, Bool.eq_iff_iff, List.contains_iff_mem, List.contains_iff_mem]
      simp [h.isToken.notMem (c := '\x00') (by decide)]
    have hlength : Text.byteLength (s.pathOf unitName token ending) = pathLength := by
      rw [hfront, Text.byteLength_append, Text.byteLength_append, h.isToken.byteLength]
    have hempty : (s.pathOf unitName token ending).isEmpty = false := by
      rw [hfront]
      simp
    have hstart : (if Path.isAbsolute (s.pathOf unitName token ending) then [] else t.here) =
        t.startOf s.directory := startOf_join t s.directory unitName token ending
    rw [FileTree.find, FileTree.follow, hnul, hlength, hempty, hstart]
    rfl
  by_cases hlong : (!nul && pathLimit ≤ pathLength) = true
  · exact .inl ⟨.nameTooLong, fun token h => by rw [hfind h, if_pos hlong]⟩
  · by_cases hnul : nul = true
    · exact .inl ⟨.nulInPath, fun token h => by rw [hfind h, if_neg hlong, if_pos hnul]⟩
    · exact .inr fun token h => by rw [hfind h, if_neg hlong, if_neg hnul]

/-- What finding the path of a file with a new token comes to is the same for all of them. -/
theorem find_new (s : Stager) (t : FileTree) (last : Bool) (unitName ending : Text) :
    ∃ r : Except IoError Location, ∀ token, New t unitName token →
      t.find last (s.pathOf unitName token ending) =
        r.map fun d => .free (fileName (stem unitName token) (ending.takeWhile (· ≠ '/')) :: d) := by
  obtain ⟨rest, -, hjoined⟩ := parts_join s.directory ending
  have hparts {token : Text} (h : New t unitName token) :
      Path.parts (s.pathOf unitName token ending) = Path.names s.directory ++
        fileName (stem unitName token) (ending.takeWhile (· ≠ '/')) :: rest :=
    hjoined unitName token
      (Scratch.slash_notMem_stem unitName (h.isToken.notMem (c := '/') (by decide)))
  rcases s.find_eq_walk_new t last unitName ending with ⟨e, hfind⟩ | hfind
  · exact ⟨.error e, fun token h => (hfind token h).trans rfl⟩
  rcases t.leads_or_blocked last linkLimit (t.startOf s.directory) (Path.names s.directory) with
    ⟨k, d, hleads⟩ | ⟨e, hblocked⟩
  · obtain ⟨r, hr⟩ := walk_new t last k d unitName (ending.takeWhile (· ≠ '/')) rest
    refine ⟨r.map fun _ => d, fun token h => ?_⟩
    rw [hfind token h, hparts h, hleads.walk (List.cons_ne_nil _ _), hr token h]
    cases r <;> rfl
  · refine ⟨.error e, fun token h => ?_⟩
    rw [hfind token h, hparts h, hblocked _ (List.cons_ne_nil _ _)]
    rfl

/-- So is what writing there comes to. -/
theorem write_new (s : Stager) (t : FileTree) (unitName ending : Text) (content : Bytes) :
    ∃ r : Except IoError Unit, ∀ token, New t unitName token →
      (t.write (s.pathOf unitName token ending) content).1 = r := by
  obtain ⟨front, hfront⟩ := s.exists_front unitName
  have hend (token : Text) : Path.endsInSlash (s.pathOf unitName token ending) =
      Path.endsInSlash ('.' :: ending) := by
    rw [hfront, ← List.append_assoc, Path.endsInSlash_append_cons]
  have hstore (l : Location) : (t.store l content).1 = (t.store [] content).1 := by
    unfold FileTree.store
    split
    · split <;> rfl
    · rfl
  by_cases hslash : Path.endsInSlash ('.' :: ending) = true
  · -- without its slashes the path is one with another ending
    have hdrop (token : Text) : Path.dropSlashes (s.pathOf unitName token ending) =
        s.pathOf unitName token (Path.dropSlashes ending) := by
      rw [hfront, hfront, ← List.append_assoc, Path.dropSlashes_append_dot, List.append_assoc]
    obtain ⟨r, hr⟩ := s.find_new t true unitName (Path.dropSlashes ending)
    refine ⟨r.bind fun _ => .error .isADirectory, fun token h => ?_⟩
    rw [FileTree.write, hend, if_pos hslash, hdrop, hr token h]
    cases r <;> rfl
  · obtain ⟨r, hr⟩ := s.find_new t true unitName ending
    refine ⟨r.bind fun _ => (t.store [] content).1, fun token h => ?_⟩
    rw [FileTree.write, hend, if_neg hslash, hr token h]
    cases r with
    | error e => rfl
    | ok d => exact hstore _

/-- And so is what staging comes to, apart from the paths. -/
theorem stage_new (s : Stager) (t : FileTree) (unitName source : Text) (withOutput : Bool) :
    ∃ r : Except IoError Unit, ∀ w, w.files = t → New t unitName (w.freshName w.drawn) →
      (s.stage unitName source withOutput w).1 = match r with
        | .ok () => .ok (s.paths unitName (w.freshName w.drawn) withOutput)
        | .error e => .error (.fault (.notStaged
            (s.pathOf unitName (w.freshName w.drawn) s.sourceExtension) e)) := by
  obtain ⟨r, hr⟩ := s.write_new t unitName s.sourceExtension (Text.encode source)
  refine ⟨r, fun w hw h => ?_⟩
  subst hw
  have hresult := hr _ h
  rcases hwrite : w.files.write (s.pathOf unitName (w.freshName w.drawn) s.sourceExtension)
    (Text.encode source) with ⟨e | _, t⟩
  · obtain rfl : Except.error e = r := by rw [← hresult, hwrite]
    rw [stage_of_unwritten rfl hwrite]
    rfl
  · obtain rfl : Except.ok () = r := by rw [← hresult, hwrite]
    rw [stage_of_written rfl hwrite]

theorem signals_of_stage (s : Stager) (unitName source : Text) (withOutput : Bool) (w : World) :
    (s.stage unitName source withOutput w).2.signals = w.signals := by
  let f := s.paths unitName (w.freshName w.drawn) withOutput
  rcases hwrite : w.files.write f.source (Text.encode source) with ⟨e | _, t⟩
  · obtain ⟨t', rs, hrest⟩ := (s.discard_swept f { w with files := t, drawn := w.drawn + 1 }).rest
    rw [stage_of_unwritten rfl hwrite, hrest]
  · rw [stage_of_written rfl hwrite]

end Stager

end Scriptorium
