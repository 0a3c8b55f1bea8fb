import Cadastre.Plan

/-!
# Storage

Files and directories whose answers depend on the path alone. A plan that runs over a storage finds
it the same from the first request to the last: what it writes is kept apart, in order, and is not
read back.
-/

namespace Cadastre

/-- Answers about files and directories, for each path. -/
structure Storage where
  /-- Whether something is at a path. -/
  probe : String → Bool
  /-- Whether a file is at a path. -/
  isFile : String → Bool
  /-- The text of a file, or why it cannot be read. -/
  read : String → Except String String
  /-- The names in a directory, or why they cannot be listed. -/
  list : String → Except String (List String)
  /-- Whether a text can be put into a file, or why not. -/
  write : String → String → Except String Unit

/-- Texts that were written, each with its path, in order. -/
abbrev Written := List (String × String)

/-- The world of a storage and a time. -/
def Storage.world (storage : Storage) (time : Instant) : Plan.World Written
  | .probe path, w => (.ok (storage.probe path), w)
  | .isFile path, w => (.ok (storage.isFile path), w)
  | .read path, w => (.ok (storage.read path), w)
  | .readStart path, w => (.ok (storage.read path), w)
  | .list path, w => (.ok (storage.list path), w)
  | .write path text, w =>
    match storage.write path text with
    | .ok () => (.ok (.ok ()), w ++ [(path, text)])
    | .error message => (.ok (.error message), w)
  | .now, w => (.ok time, w)
  | .log _, w => (.ok (), w)
  | .print _, w => (.ok (), w)
  | .abort message, w => (.error message, w)

end Cadastre
