/-! File contents, process output and object images are lists of bytes. -/

namespace Scriptorium

abbrev Bytes := List UInt8

end Scriptorium
