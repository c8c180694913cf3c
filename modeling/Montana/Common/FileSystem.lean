import Mathlib.Logic.Function.Basic
import Montana.Common.Primitives

/-! Files as a map from their paths to their contents. -/

namespace Montana

/-- `std::path::Path` of a file, by the components before its name and its name. -/
structure Path where
  parent : List String
  fileName : String
  deriving DecidableEq, Repr

namespace Path

/-- `Path::file_stem`: what stands before the last dot, unless nothing does. -/
def fileStem (self : Path) : String :=
  if self.fileName = ".." then self.fileName
  else
    match self.fileName.toList.reverse.dropWhile (· ≠ '.') with
    | [] => self.fileName
    | [_] => self.fileName
    | _ :: before => String.ofList before.reverse

/-- `Path::with_extension`. -/
def withExtension (self : Path) (extension : String) : Path :=
  if extension.isEmpty then { self with fileName := self.fileStem }
  else { self with fileName := self.fileStem ++ "." ++ extension }

example : (Path.mk ["data"] "checkpoint.json").withExtension "tmp" = ⟨["data"], "checkpoint.tmp"⟩ := by decide

end Path

/-- The contents of the files that exist. -/
abbrev FileSystem : Type := Path → Option Bytes

namespace FileSystem

/-- `fs::write`, as far as it came. -/
def write (files : FileSystem) (path : Path) (contents : Bytes) : FileSystem :=
  Function.update files path (some contents)

/-- `fs::rename`; there has to be a file of the first name. -/
def rename (files : FileSystem) (source target : Path) : Option FileSystem :=
  match files source with
  | none => none
  | some contents =>
    if source = target then some files
    else some (Function.update (Function.update files source none) target (some contents))

@[simp] theorem write_self (files : FileSystem) (path : Path) (contents : Bytes) :
    files.write path contents path = some contents := Function.update_self ..

theorem write_of_ne (files : FileSystem) {path other : Path} (contents : Bytes) (different : other ≠ path) :
    files.write path contents other = files other := Function.update_of_ne different ..

/-- A rename leaves all files alone but the two it names. -/
theorem rename_of_ne {files renamed : FileSystem} {source target other : Path}
    (done : files.rename source target = some renamed) (notSource : other ≠ source)
    (notTarget : other ≠ target) : renamed other = files other := by
  rw [rename] at done
  split at done
  · cases done
  · split at done
    · cases done
      rfl
    · cases done
      rw [Function.update_of_ne notTarget, Function.update_of_ne notSource]

end FileSystem

end Montana
