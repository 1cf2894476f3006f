/-!
# Paths and errors

`TateruError` and what it carries: a path, an I/O error, a message.
-/

namespace Tateru

/-- A path is a string of bytes; nothing requires it to be UTF-8. -/
structure PathBuf where
  bytes : List UInt8
deriving DecidableEq, Repr

/-- The slash between the components of a path. -/
def PathBuf.sep : UInt8 := 0x2F

/-- The path that a string spells. -/
def PathBuf.ofString (s : String) : PathBuf :=
  ⟨s.toByteArray.data.toList⟩

/-- `Path::join`. -/
def PathBuf.join (dir name : PathBuf) : PathBuf :=
  if name.bytes.head? = some sep then name
  else if dir.bytes = [] ∨ dir.bytes.getLast? = some sep then ⟨dir.bytes ++ name.bytes⟩
  else ⟨dir.bytes ++ sep :: name.bytes⟩

/-- The kinds of I/O error that the file operations report. -/
inductive IoErrorKind where
  | notFound
  | permissionDenied
  | alreadyExists
  | notADirectory
  | isADirectory
  | filesystemLoop
  | invalidFilename
  | invalidInput
  | other
deriving DecidableEq, Repr

/-- `std::io::Error`. -/
structure IoError where
  kind : IoErrorKind
  message : String
deriving DecidableEq, Repr

/-- Errors produced by VM operations. -/
inductive TateruError where
  | ffi (function : String) (code : Int32)
  | invalidPath (path : PathBuf)
  | invalidConfig (message : String)
  | notRunning
  | alreadyRunning
  | vmThreadPanicked
  | bridgeIo (e : IoError)
  | invalidMemory (spec : String)
deriving DecidableEq, Repr

end Tateru
