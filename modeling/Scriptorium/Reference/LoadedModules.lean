import Scriptorium.Reference.Catalog

/-! The table of memory mappings that the system keeps of a process: one mapping a line, with five
fields, each ended by one blank, and then the name of what is mapped. Each file is listed once,
where it first occurs. A mapping is dynamic if its file is deleted or lives in memory only. -/

namespace Scriptorium.HostModule

open Text

def deletedMark : Text := " (deleted)".toList

/-- The module behind the name of a mapping; the heap, the stack and the like are none. -/
def ofMapping? (name : Text) : Option HostModule :=
  match dropSuffix? deletedMark name with
  | some path => some ⟨path, true⟩
  | none =>
    if "/memfd:".toList.isPrefixOf name then some ⟨name, true⟩
    else if ['/'].isPrefixOf name then some ⟨name, false⟩
    else none

/-- The module of one line, if the line has six fields. -/
def ofLine? (line : Text) : Option HostModule :=
  (afterSeparators? isBlank 5 line).bind fun name => ofMapping? (trim name)

/-- Keeps the modules whose path is not in `seen` and that no earlier one shares. -/
def firstOfEach (seen : List Text) : List HostModule → List HostModule
  | [] => []
  | m :: ms =>
    if seen.contains m.path then firstOfEach seen ms else m :: firstOfEach (m.path :: seen) ms

/-- The modules of a table of mappings. -/
def ofMappings (table : Text) : List HostModule := firstOfEach [] ((lines table).filterMap ofLine?)

end Scriptorium.HostModule
