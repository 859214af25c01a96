import Scriptorium.Text.Lowercase

/-! A request to compile one script: its source, the name its files are derived from, and the
references it adds to those every script sees. -/

namespace Scriptorium

structure Request where
  source : Text
  unitName : Text
  references : List Text
  deriving DecidableEq

namespace Request

/-- Keeps the references whose lower case is not in `seen` and that no earlier one shares. -/
def fresh (seen : List Text) : List Text → List Text
  | [] => []
  | r :: rs =>
    if seen.contains (Text.lower r) then fresh seen rs
    else r :: fresh (Text.lower r :: seen) rs

/-- Adds references; one that differs only in case from an earlier one is left out. -/
def withReferences (q : Request) (rs : List Text) : Request :=
  { q with references := q.references ++ fresh (q.references.map Text.lower) rs }

end Request

end Scriptorium
