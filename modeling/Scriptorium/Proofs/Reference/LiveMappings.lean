import Mathlib.Data.List.Perm.Basic
import Scriptorium.Proofs.Reference.Baseline
import Scriptorium.Proofs.Reference.Mappings

/-! Live mappings beside deleted ones. A table is listed by the first line for each path, whatever
that line says of the file, so a file that is still there is listed as such unless a line in front
of all its mappings says that a file was deleted from its path. Then the catalog does not see it,
and what is listed depends on the order of the lines. -/

namespace Scriptorium

open Text

namespace HostModule

variable {m : HostModule} {s line name path : Text} {lines' : List Text}

/-! ### What a line says -/

/-- The name of what a line maps. -/
def mappingName? (line : Text) : Option Text := (afterSeparators? isBlank 5 line).map trim

/-- The name of a file that is on disk. -/
structure IsLive (name : Text) : Prop where
  isPath : name.head? = some '/'
  onDisk : ¬"/memfd:".toList <+: name
  notDeleted : ¬deletedMark <:+ name

/-- The line maps the file that is now at `path`. -/
def MapsLive (line path : Text) : Prop := mappingName? line = some path ∧ IsLive path

/-- The line maps a file that was deleted from `path`. -/
def MapsDeleted (line path : Text) : Prop := mappingName? line = some (path ++ deletedMark)

instance (line path : Text) : Decidable (MapsDeleted line path) :=
  inferInstanceAs (Decidable (_ = _))

theorem ofLine?_eq_bind (line : Text) : ofLine? line = (mappingName? line).bind ofMapping? := by
  rw [mappingName?, Option.bind_map]
  rfl

theorem ofMapping?_of_isLive (h : IsLive name) : ofMapping? name = some ⟨name, false⟩ := by
  rw [ofMapping?_of_not_deleted h.notDeleted, if_neg h.onDisk, if_pos h.isPath]

theorem isLive_of_ofMapping? (h : ofMapping? name = some ⟨path, false⟩) :
    name = path ∧ IsLive path := by
  by_cases hdeleted : deletedMark <:+ name
  · obtain ⟨old, rfl⟩ := hdeleted
    simp [ofMapping?_of_deleted] at h
  · rw [ofMapping?_of_not_deleted hdeleted] at h
    split at h
    · simp at h
    · next hdisk =>
      split at h
      · next hpath =>
        obtain rfl : name = path := by simpa using h
        exact ⟨rfl, hpath, hdisk, hdeleted⟩
      · simp at h

theorem ofLine?_eq_live_iff : ofLine? line = some ⟨path, false⟩ ↔ MapsLive line path := by
  rw [ofLine?_eq_bind, Option.bind_eq_some_iff, MapsLive]
  constructor
  · rintro ⟨name, hname, h⟩
    obtain ⟨rfl, hlive⟩ := isLive_of_ofMapping? h
    exact ⟨hname, hlive⟩
  · rintro ⟨hname, hlive⟩
    exact ⟨path, hname, ofMapping?_of_isLive hlive⟩

theorem ofLine?_of_mapsDeleted (h : MapsDeleted line path) : ofLine? line = some ⟨path, true⟩ := by
  rw [ofLine?_eq_bind, h, Option.bind_some, ofMapping?_of_deleted]

theorem not_mapsDeleted_of_mapsLive (h : MapsLive line path) : ¬MapsDeleted line path := by
  intro hdeleted
  have hsame := (ofLine?_eq_live_iff.mpr h).symm.trans (ofLine?_of_mapsDeleted hdeleted)
  simp at hsame

theorem name_of_ofMapping? (h : ofMapping? name = some m) :
    name = m.path ++ deletedMark ∨ name = m.path := by
  by_cases hdeleted : deletedMark <:+ name
  · obtain ⟨old, rfl⟩ := hdeleted
    rw [ofMapping?_of_deleted, Option.some.injEq] at h
    exact .inl (h ▸ rfl)
  · rw [ofMapping?_of_not_deleted hdeleted] at h
    right
    split at h
    · exact Option.some.inj h ▸ rfl
    · split at h
      · exact Option.some.inj h ▸ rfl
      · simp at h

/-- What a line says of the path of a live file is that it is live or that it was deleted. -/
theorem mapsLive_or_mapsDeleted (hlive : IsLive path) (h : ofLine? line = some m)
    (hm : m.path = path) : MapsLive line path ∨ MapsDeleted line path := by
  rw [ofLine?_eq_bind, Option.bind_eq_some_iff] at h
  obtain ⟨name, hname, h⟩ := h
  rcases name_of_ofMapping? h with rfl | rfl
  · exact .inr (hm ▸ hname)
  · exact .inl ⟨hm ▸ hname, hlive⟩

/-! ### What a table says -/

/-- A line of the table maps the file at `path`, and none in front of it a file deleted from there. -/
def ShowsLive (s path : Text) : Prop :=
  ∃ before line after, lines s = before ++ line :: after ∧ MapsLive line path ∧
    ∀ l ∈ before, ¬MapsDeleted l path

theorem mem_ofMappings_iff :
    m ∈ ofMappings s ↔
      ((lines s).find? fun l => (ofLine? l).any (·.path = m.path)).bind ofLine? = some m := by
  rw [ofMappings, mem_firstOfEach_iff, List.find?_filterMap]
  simp

theorem mem_ofMappings_live_iff : ⟨path, false⟩ ∈ ofMappings s ↔ ShowsLive s path := by
  rw [mem_ofMappings_iff, Option.bind_eq_some_iff]
  dsimp only
  constructor
  · rintro ⟨line, hfind, hline⟩
    obtain ⟨-, before, after, hlines, hbefore⟩ := List.find?_eq_some_iff_append.mp hfind
    refine ⟨before, line, after, hlines, ofLine?_eq_live_iff.mp hline, fun l hl hdeleted => ?_⟩
    have hother := hbefore l hl
    rw [ofLine?_of_mapsDeleted hdeleted] at hother
    simp at hother
  · rintro ⟨before, line, after, hlines, hlive, hbefore⟩
    have hline := ofLine?_eq_live_iff.mpr hlive
    -- the line that counts is the first for this path, which may be in front of the live one
    rw [hlines, List.find?_append]
    cases hfront : before.find? fun l => (ofLine? l).any (·.path = path) with
    | none => exact ⟨line, by simp [hline], hline⟩
    | some first =>
      refine ⟨first, rfl, ?_⟩
      obtain ⟨m, hfirst, hm⟩ : ∃ m, ofLine? first = some m ∧ m.path = path := by
        simpa [Option.any_eq_true] using List.find?_some hfront
      have hfree := hbefore first (List.mem_of_find?_eq_some hfront)
      exact ofLine?_eq_live_iff.mpr
        ((mapsLive_or_mapsDeleted hlive.2 hfirst hm).resolve_right hfree)

theorem ShowsLive.exists_mapsLive (h : ShowsLive s path) : ∃ l ∈ lines s, MapsLive l path := by
  obtain ⟨before, line, after, hlines, hlive, -⟩ := h
  exact ⟨line, by simp [hlines], hlive⟩

theorem showsLive_of_mem (hline : line ∈ lines s) (h : MapsLive line path)
    (hfree : ∀ l ∈ lines s, ¬MapsDeleted l path) : ShowsLive s path := by
  obtain ⟨before, after, hlines⟩ := List.append_of_mem hline
  exact ⟨before, line, after, hlines, h, fun l hl => hfree l (by simp [hlines, hl])⟩

theorem not_showsLive_of_first (hlines : lines s = line :: lines') (h : MapsDeleted line path) :
    ¬ShowsLive s path := by
  rintro ⟨before, live, after, hsplit, hlive, hbefore⟩
  rw [hlines] at hsplit
  cases before with
  | nil =>
    obtain ⟨rfl, -⟩ := List.cons.inj hsplit
    exact not_mapsDeleted_of_mapsLive hlive h
  | cons first before =>
    obtain ⟨rfl, -⟩ := List.cons.inj hsplit
    exact hbefore line List.mem_cons_self h

/-- The lines of a table may be written down in any order. -/
theorem exists_lines_perm (hline : line ∈ lines s) :
    ∃ s' rest, lines s' = line :: rest ∧ (lines s').Perm (lines s) := by
  obtain ⟨before, after, hlines⟩ := List.append_of_mem hline
  have hperm : (line :: (before ++ after)).Perm (lines s) := hlines ▸ List.perm_middle.symm
  have hfree : ∀ l ∈ line :: (before ++ after), '\n' ∉ l := fun l hl =>
    newline_notMem_of_mem_lines (hperm.subset hl)
  obtain ⟨s', hs'⟩ := exists_lines_eq hfree
  exact ⟨s', before ++ after, hs', hs' ▸ hperm⟩

end HostModule

namespace Catalog

/-- The candidate leads to a file whose path has the lower case of `r`. -/
def LeadsTo (t : FileTree) (candidate r : Text) : Prop :=
  ∃ path, t.reference? candidate = some path ∧ Text.lower path = Text.lower r

theorem contains_build_iff {t : FileTree} {layout : Layout} {loaded : List HostModule} {r : Text} :
    (build t layout loaded).baseline.contains r = true ↔
      (∃ c ∈ layout.candidates, LeadsTo t c r) ∨
        ∃ path, ⟨path, false⟩ ∈ loaded ∧ LeadsTo t path r := by
  rw [build_eq, ReferenceSet.ofList, ReferenceSet.contains_insertAll, ReferenceSet.contains_empty]
  simp only [Bool.false_eq_true, false_or, List.mem_append, or_and_right, exists_or, List.mem_filterMap]
  refine or_congr ?_ ?_
  · constructor
    · rintro ⟨p, ⟨c, hc, hp⟩, hlower⟩
      exact ⟨c, hc, p, hp, hlower⟩
    · rintro ⟨c, hc, p, hp, hlower⟩
      exact ⟨p, ⟨c, hc, hp⟩, hlower⟩
  · constructor
    · rintro ⟨p, ⟨⟨path, dynamic⟩, hm, hp⟩, hlower⟩
      cases dynamic with
      | true => simp [contribution?] at hp
      | false => exact ⟨path, hm, p, hp, hlower⟩
    · rintro ⟨path, hm, p, hp, hlower⟩
      exact ⟨p, ⟨⟨path, false⟩, hm, hp⟩, hlower⟩

end Catalog

namespace HostModule

/-- A table shows the file at a path exactly if a line maps it and no line in front of that one maps
a file that was deleted from the path; the catalog has what these files and the libraries of the
layout lead to. So what a table shows is the same in whatever order its lines are if and only if it
says of no path both. -/
theorem live_shown_iff (s : Text) :
    (∀ path, ⟨path, false⟩ ∈ ofMappings s ↔ ShowsLive s path) ∧
      (∀ t layout r, (Catalog.build t layout (ofMappings s)).baseline.contains r = true ↔
        (∃ c ∈ layout.candidates, Catalog.LeadsTo t c r) ∨
          ∃ path, ShowsLive s path ∧ Catalog.LeadsTo t path r) ∧
      ((∀ s', (lines s').Perm (lines s) →
          ∀ path, ⟨path, false⟩ ∈ ofMappings s' ↔ ⟨path, false⟩ ∈ ofMappings s) ↔
        ∀ path, (∃ l ∈ lines s, MapsLive l path) → ∀ l ∈ lines s, ¬MapsDeleted l path) := by
  refine ⟨fun path => mem_ofMappings_live_iff, fun t layout r => ?_, ?_⟩
  · simp only [Catalog.contains_build_iff, mem_ofMappings_live_iff]
  simp only [mem_ofMappings_live_iff]
  constructor
  · rintro hsame path ⟨live, hmem, hlive⟩ old hold hdeleted
    obtain ⟨s₁, rest₁, hfirst₁, hperm₁⟩ := exists_lines_perm hmem
    obtain ⟨s₂, rest₂, hfirst₂, hperm₂⟩ := exists_lines_perm hold
    have hshown : ShowsLive s₁ path := ⟨[], live, rest₁, hfirst₁, hlive, by simp⟩
    have hhidden := not_showsLive_of_first hfirst₂ hdeleted
    exact hhidden ((hsame s₂ hperm₂ path).mpr ((hsame s₁ hperm₁ path).mp hshown))
  · intro hfree s' hperm path
    have hmem {l : Text} : l ∈ lines s' ↔ l ∈ lines s := hperm.mem_iff
    constructor
    · intro h
      obtain ⟨live, hlive, hmaps⟩ := h.exists_mapsLive
      exact showsLive_of_mem (hmem.mp hlive) hmaps (hfree path ⟨live, hmem.mp hlive, hmaps⟩)
    · intro h
      obtain ⟨live, hlive, hmaps⟩ := h.exists_mapsLive
      refine showsLive_of_mem (hmem.mpr hlive) hmaps fun l hl => ?_
      exact hfree path ⟨live, hlive, hmaps⟩ l (hmem.mp hl)

/-- A library that was replaced while the host was running: its old file is still mapped, at lower
addresses than the new one. -/
def replacedLibrary : List Text := [
  "1000-2000 r-xp 00000000 08:01 7 /lib/a (deleted)".toList,
  "3000-4000 r-xp 00000000 08:01 8 /lib/a".toList]

/-- The new file is on disk and mapped, and in the catalog if its line comes first. Behind the line of
the old file it is listed as dynamic and missing from the catalog. -/
theorem replaced_library_hidden :
    let s := unlines replacedLibrary
    let s' := unlines replacedLibrary.reverse
    MapsLive replacedLibrary[1] "/lib/a".toList ∧
      ofMappings s = [⟨"/lib/a".toList, true⟩] ∧ ofMappings s' = [⟨"/lib/a".toList, false⟩] ∧
      (Catalog.build Catalog.linkedLibrary {} (ofMappings s)).baseline.contains "/lib/a".toList = false ∧
      (Catalog.build Catalog.linkedLibrary {} (ofMappings s')).baseline.contains "/lib/a".toList = true ∧
      ¬∀ s', (lines s').Perm (lines s) →
        ∀ path, ⟨path, false⟩ ∈ ofMappings s' ↔ ⟨path, false⟩ ∈ ofMappings s := by
  intro s s'
  have hlive : MapsLive replacedLibrary[1] "/lib/a".toList :=
    ⟨by decide, by decide, by decide, by decide⟩
  refine ⟨hlive, by decide, by decide, by decide +kernel, by decide +kernel, fun hsame => ?_⟩
  have hfree := (live_shown_iff s).2.2.mp hsame "/lib/a".toList
  exact hfree ⟨replacedLibrary[1], by decide, hlive⟩ replacedLibrary[0] (by decide) (by decide)

end HostModule

end Scriptorium
