import Scriptorium.Reference.Catalog

/-! The configuration of a service. The defaults suit a compiler of `.fsx` scripts into shared
libraries; two environment variables replace the scratch directory and the target profile, unless
their value is blank. -/

namespace Scriptorium

/-- Variables and their values. -/
abbrev Environment := List (Text × Text)

structure Config where
  scratchDirectory : Text
  sourceExtension : Text
  unitExtension : Text
  targetProfile : Text
  layout : Layout
  deriving DecidableEq

namespace Config

def scratchDirectoryVariable : Text := "SCRIPTC_SCRATCH_DIR".toList

def targetProfileVariable : Text := "SCRIPTC_TARGET_PROFILE".toList

/-- Where temporary files go if nothing else is said. -/
def temporaryDirectory (env : Environment) : Text := (env.lookup "TMPDIR".toList).getD "/tmp".toList

def standard (env : Environment) (host : Option Text) : Config where
  scratchDirectory := temporaryDirectory env
  sourceExtension := "fsx".toList
  unitExtension := "so".toList
  targetProfile := "netcore".toList
  layout := { hostUnit := host }

/-- The value of a variable, unless it is blank. -/
def override? (env : Environment) (name : Text) : Option Text :=
  (env.lookup name).filter fun v => !Text.allBlank v

def withOverrides (c : Config) (env : Environment) : Config :=
  { c with
    scratchDirectory := (override? env scratchDirectoryVariable).getD c.scratchDirectory
    targetProfile := (override? env targetProfileVariable).getD c.targetProfile }

/-- The defaults with the overrides of the same environment. -/
def ofEnvironment (env : Environment) (host : Option Text) : Config :=
  (standard env host).withOverrides env

end Config

end Scriptorium
