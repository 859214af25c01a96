import Mathlib.Data.List.DropRight
import Scriptorium.Proofs.Text.Lines
import Scriptorium.Proofs.Text.Trim
import Scriptorium.Reference.LoadedModules

/-! Tables of memory mappings, written and read back. A mapping is written as five words and, behind
some blanks, the name of what is mapped, which may hold blanks of its own. What is read back are the
distinct paths among the names, each where it first occurs. -/

namespace Scriptorium

open Text

namespace HostModule

variable {m : HostModule} {ms : List HostModule} {seen : List Text} {name : Text}

/-! ### Names -/

theorem ofMapping?_of_deleted (path : Text) :
    ofMapping? (path ++ deletedMark) = some ⟨path, true⟩ := by
  rw [ofMapping?, dropSuffix?_eq_some_iff.mpr rfl]

theorem ofMapping?_of_not_deleted (h : ¬deletedMark <:+ name) :
    ofMapping? name =
      if "/memfd:".toList <+: name then some ⟨name, true⟩
      else if name.head? = some '/' then some ⟨name, false⟩ else none := by
  have hroot : ['/'].isPrefixOf name = true ↔ name.head? = some '/' := by
    cases name <;> simp [eq_comm (a := '/')]
  simp only [ofMapping?, dropSuffix?_eq_none_iff.mpr h, hroot, List.isPrefixOf_iff_prefix]

/-! ### First occurrences -/

theorem firstOfEach_cons_of_mem (h : m.path ∈ seen) (ms : List HostModule) :
    firstOfEach seen (m :: ms) = firstOfEach seen ms :=
  if_pos (List.contains_iff_mem.mpr h)

theorem firstOfEach_cons_of_notMem (h : m.path ∉ seen) (ms : List HostModule) :
    firstOfEach seen (m :: ms) = m :: firstOfEach (m.path :: seen) ms :=
  if_neg (mt List.contains_iff_mem.mp h)

theorem map_path_firstOfEach (seen : List Text) (ms : List HostModule) :
    (firstOfEach seen ms).map path =
      ((ms.map path).filter fun p => decide (p ∉ seen)).eraseDups := by
  induction ms generalizing seen with
  | nil => rfl
  | cons m ms ih =>
    rw [List.map_cons]
    by_cases hm : m.path ∈ seen
    · rw [firstOfEach_cons_of_mem hm, ih, List.filter_cons_of_neg (by simpa using hm)]
    · have hseen (p : Text) : decide (p ∉ m.path :: seen) = (!p == m.path && decide (p ∉ seen)) := by
        rw [Bool.eq_iff_iff]
        simp
      rw [firstOfEach_cons_of_notMem hm, List.map_cons, ih, List.filter_cons_of_pos (by simpa using hm),
        List.eraseDups_cons, List.filter_filter]
      simp only [hseen]

theorem mem_firstOfEach_iff :
    m ∈ firstOfEach seen ms ↔ m.path ∉ seen ∧ ms.find? (·.path = m.path) = some m := by
  induction ms generalizing seen with
  | nil => simp [firstOfEach]
  | cons x ms ih =>
    by_cases hx : x.path ∈ seen
    · rw [firstOfEach_cons_of_mem hx, ih]
      refine and_congr_right fun hm => ?_
      have hne : x.path ≠ m.path := fun h => hm (h ▸ hx)
      rw [List.find?_cons_of_neg (by simpa using hne)]
    · rw [firstOfEach_cons_of_notMem hx, List.mem_cons, ih, List.mem_cons, not_or]
      by_cases hpath : x.path = m.path
      · rw [List.find?_cons_of_pos (by simpa using hpath), Option.some.injEq, ← hpath]
        simp [hx, eq_comm]
      · have hne : m ≠ x := fun h => hpath (h ▸ rfl)
        rw [List.find?_cons_of_neg (by simpa using hpath)]
        simp [hne, Ne.symm hpath]

end HostModule

/-! ### Written tables -/

/-- What stands between two blanks. -/
def IsField (w : Text) : Prop := w ≠ [] ∧ ∀ c ∈ w, isBlank c = false

-- Only the characters of the field are looked at, not all that there are.
instance (w : Text) : Decidable (IsField w) :=
  @instDecidableAnd _ _ inferInstance (List.decidableBAll _ w)

/-- A mapping as the system writes it down. -/
structure Mapping where
  addresses : Text
  rights : Text
  offset : Text
  device : Text
  inode : Text
  /-- How many blanks stand behind these words. -/
  gap : Nat
  name : Option Text
  words : ∀ w ∈ [addresses, rights, offset, device, inode], IsField w := by decide
  gap_pos : name.isSome = true → 0 < gap := by decide
  name_trimmed : ∀ n ∈ name, trim n = n := by decide
  name_oneLine : ∀ n ∈ name, '\n' ∉ n := by decide

namespace Mapping

variable {c : Char}

def fields (m : Mapping) : Text :=
  [' '].intercalate [m.addresses, m.rights, m.offset, m.device, m.inode]

def print (m : Mapping) : Text := m.fields ++ (List.replicate m.gap ' ' ++ m.name.getD [])

/-- A table with one line for each mapping. -/
def table (ms : List Mapping) : Text := (ms.map print).flatMap (· ++ ['\n'])

/-- The path that a mapping shows: that of a file that was deleted, or a name that is a path. -/
def path? (m : Mapping) : Option Text :=
  m.name.bind fun n =>
    if HostModule.deletedMark <:+ n then some (n.rdrop HostModule.deletedMark.length)
    else if n.head? = some '/' then some n
    else none

theorem fields_eq (m : Mapping) : m.fields =
    m.addresses ++ ' ' :: (m.rights ++ ' ' :: (m.offset ++ ' ' :: (m.device ++ ' ' :: m.inode))) := by
  simp [fields, List.intercalate_cons_cons]

theorem mem_fields {m : Mapping} {c : Char} (h : c ∈ m.fields) : c = ' ' ∨ isBlank c = false :=
  (mem_intercalate h).imp_right fun ⟨w, hw, hc⟩ => (m.words w hw).2 c hc

theorem newline_notMem_print (m : Mapping) : '\n' ∉ m.print := by
  intro h
  rw [print, List.mem_append, List.mem_append] at h
  rcases h with h | h | h
  · exact absurd (mem_fields h) (by decide)
  · exact absurd (List.eq_of_mem_replicate h) (by decide)
  · cases hn : m.name with
    | none => simp [hn] at h
    | some n => exact m.name_oneLine n hn (by simpa [hn] using h)

theorem getLast?_print (m : Mapping) : m.print.getLast? ≠ some '\r' := by
  intro h
  rw [print, List.getLast?_append, List.getLast?_append, Option.or_eq_some_iff,
    Option.or_eq_some_iff] at h
  rcases h with (h | ⟨-, h⟩) | ⟨-, h⟩
  · cases hn : m.name with
    | none => simp [hn] at h
    | some n =>
      rw [hn, Option.getD_some] at h
      exact absurd ((trim_eq_self_iff.mp (m.name_trimmed n hn)).2 '\r' h) (by decide)
  · exact absurd (List.eq_of_mem_replicate (List.mem_of_getLast? h)) (by decide)
  · exact absurd (mem_fields (List.mem_of_getLast? h)) (by decide)

theorem print_ne_nil (m : Mapping) : m.print ≠ [] := by
  have hword := (m.words m.addresses (by simp)).1
  simp [print, fields_eq, hword]

/-- The name is what follows the words, without the blanks around it. -/
theorem ofLine?_print (m : Mapping) :
    HostModule.ofLine? m.print = m.name.bind HostModule.ofMapping? := by
  have hfree (w : Text) (hw : w ∈ [m.addresses, m.rights, m.offset, m.device, m.inode]) :
      ∀ c ∈ w, isBlank c = false := (m.words w hw).2
  have hfields (rest : Text) : afterSeparators? isBlank 5 (m.fields ++ rest) =
      afterSeparators? isBlank 1 (m.inode ++ rest) := by
    simp only [fields_eq, List.append_assoc, List.cons_append]
    rw [afterSeparators?_append (hfree _ (by simp)) (by decide),
      afterSeparators?_append (hfree _ (by simp)) (by decide),
      afterSeparators?_append (hfree _ (by simp)) (by decide),
      afterSeparators?_append (hfree _ (by simp)) (by decide)]
  have hinode := hfree m.inode (by simp)
  rw [HostModule.ofLine?, print, hfields]
  cases hgap : m.gap with
  | zero =>
    -- without a blank there is no name
    have hname : m.name = none := by
      have hpos := m.gap_pos
      rw [hgap] at hpos
      simpa using hpos
    rw [hname, List.replicate_zero, List.nil_append, Option.getD_none, List.append_nil,
      afterSeparators?_of_free hinode]
    rfl
  | succ k =>
    have hblanks : ∀ c ∈ List.replicate k ' ', isBlank c = true := by
      intro c hc
      rw [List.eq_of_mem_replicate hc]
      decide
    rw [List.replicate_succ, List.cons_append, afterSeparators?_append hinode (by decide),
      afterSeparators?, Option.bind_some, trim_append_of_blank hblanks]
    cases hn : m.name with
    | none => rfl
    | some n => rw [Option.getD_some, Option.bind_some, m.name_trimmed n hn]

theorem map_path_ofLine?_print (m : Mapping) :
    (HostModule.ofLine? m.print).map HostModule.path = m.path? := by
  rw [ofLine?_print, path?]
  cases m.name with
  | none => rfl
  | some n =>
    rw [Option.bind_some, Option.bind_some]
    by_cases hdeleted : HostModule.deletedMark <:+ n
    · obtain ⟨path, rfl⟩ := hdeleted
      rw [HostModule.ofMapping?_of_deleted, if_pos (List.suffix_append _ _), List.rdrop_append_length]
      rfl
    · rw [HostModule.ofMapping?_of_not_deleted hdeleted, if_neg hdeleted]
      by_cases hmemory : "/memfd:".toList <+: n
      · obtain ⟨rest, rfl⟩ := hmemory
        rw [if_pos (List.prefix_append _ _), if_pos (by simp)]
        rfl
      · rw [if_neg hmemory]
        split <;> rfl

/-- What is read of lines that show mappings are the paths that they show, without repetitions. -/
theorem map_path_ofMappings {ms : List Mapping} {s : Text} (h : lines s = ms.map print) :
    (HostModule.ofMappings s).map HostModule.path = (ms.filterMap path?).eraseDups := by
  have hpaths : (ms.filterMap (HostModule.ofLine? ∘ print)).map HostModule.path =
      ms.filterMap path? := by
    rw [List.map_filterMap]
    simp only [Function.comp_apply, map_path_ofLine?_print]
  have hall (ps : List Text) : (ps.filter fun p => decide (p ∉ ([] : List Text))) = ps :=
    List.filter_eq_self.mpr (by simp)
  rw [HostModule.ofMappings, h, List.filterMap_map, HostModule.map_path_firstOfEach, hall, hpaths]

/-- A table that was written down, with or without a line feed behind its last line, is read back as
the paths of the files that were deleted and of the names that are paths, each path once and where
it occurs first. -/
theorem written_table_lists_paths (ms : List Mapping) :
    (HostModule.ofMappings (table ms)).map HostModule.path = (ms.filterMap path?).eraseDups ∧
      (HostModule.ofMappings (unlines (ms.map print))).map HostModule.path =
        (ms.filterMap path?).eraseDups := by
  have hline : ∀ l ∈ ms.map print, '\n' ∉ l ∧ l.getLast? ≠ some '\r' ∧ l ≠ [] := by
    intro l hl
    obtain ⟨m, -, rfl⟩ := List.mem_map.mp hl
    exact ⟨m.newline_notMem_print, m.getLast?_print, m.print_ne_nil⟩
  constructor
  · refine map_path_ofMappings ?_
    rw [table, lines_flatMap fun l hl => (hline l hl).1]
    exact (List.map_congr_left fun l hl => dropReturn_of_not (hline l hl).2.1).trans (List.map_id _)
  · exact map_path_ofMappings
      (lines_unlines (fun l hl => (hline l hl).1) (fun l hl => (hline l hl).2.1)
        fun l hl => (hline l hl).2.2)

/-- A library with a blank in its name, memory of the process itself, memory without a name, and the
library once more, which was deleted in the meantime. -/
def libraryMappings : List Mapping := [
  { addresses := "1000-2000".toList, rights := "r--p".toList, offset := "0000".toList
    device := "08:01".toList, inode := "7".toList, gap := 4, name := "/lib/a b.so".toList },
  { addresses := "2000-3000".toList, rights := "rw-p".toList, offset := "0000".toList
    device := "00:00".toList, inode := "0".toList, gap := 2, name := "[heap]".toList },
  { addresses := "3000-4000".toList, rights := "rw-p".toList, offset := "0000".toList
    device := "00:00".toList, inode := "0".toList, gap := 0, name := none },
  { addresses := "4000-5000".toList, rights := "r-xp".toList, offset := "0000".toList
    device := "08:01".toList, inode := "7".toList, gap := 1
    name := "/lib/a b.so (deleted)".toList }]

theorem written_library_listed_once :
    (HostModule.ofMappings (table libraryMappings)).map HostModule.path = ["/lib/a b.so".toList] :=
  (written_table_lists_paths libraryMappings).1.trans (by decide +kernel)

end Mapping

end Scriptorium
