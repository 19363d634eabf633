import Guiying.Foundation.Base64
import Guiying.Foundation.Utf8

/-!
# Paths

Native Unix paths as bytes, and `PathRef`, the form in which a path leaves the
session.
-/

namespace Guiying.Core

open Guiying.Foundation

abbrev Path := List UInt8

/-- A path as it leaves the session: a lossy display text and the exact bytes in Base64. -/
structure PathRef where
  display : List UInt8
  rawBase64 : List UInt8
  deriving DecidableEq

def PathRef.fromPath (path : Path) : PathRef := ⟨Utf8.lossy path, Base64.encode path⟩

end Guiying.Core
