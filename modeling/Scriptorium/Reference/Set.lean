import Scriptorium.Text.Lowercase

/-! An ordered set of references, unique up to case: of two that have the same lower case the first
one stays, in its own spelling and place. -/

namespace Scriptorium

structure ReferenceSet where
  entries : List Text
  /-- The entries in lower case, which decide membership. -/
  keys : List Text
  keys_eq : keys = entries.map Text.lower
  distinct : keys.Nodup

namespace ReferenceSet

def empty : ReferenceSet := ⟨[], [], rfl, List.nodup_nil⟩

def contains (s : ReferenceSet) (r : Text) : Bool := s.keys.contains (Text.lower r)

/-- Adds `r` at the end, unless the set contains it already, and tells whether it was added. -/
def add (s : ReferenceSet) (r : Text) : Bool × ReferenceSet :=
  if h : s.contains r then (false, s)
  else
    (true,
      { entries := s.entries ++ [r]
        keys := s.keys ++ [Text.lower r]
        keys_eq := by simp [s.keys_eq]
        distinct := by
          have hr : Text.lower r ∉ s.keys := by simpa [contains] using h
          refine List.nodup_append.2 ⟨s.distinct, by simp, ?_⟩
          intro a ha b hb
          simp only [List.mem_singleton] at hb
          rintro rfl
          exact hr (hb ▸ ha) })

def insert (s : ReferenceSet) (r : Text) : ReferenceSet := (s.add r).2

def insertAll (s : ReferenceSet) (rs : List Text) : ReferenceSet := rs.foldl insert s

def ofList (rs : List Text) : ReferenceSet := empty.insertAll rs

def size (s : ReferenceSet) : Nat := s.entries.length

def isEmpty (s : ReferenceSet) : Bool := s.entries.isEmpty

/-- Equal sets have the same entries in the same order, and the same keys in any order. -/
instance : BEq ReferenceSet where
  beq s t := s.entries == t.entries &&
    (s.keys.length == t.keys.length && s.keys.all t.keys.contains)

end ReferenceSet

end Scriptorium
