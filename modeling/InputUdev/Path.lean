import InputUdev.Text.Ends

/-!
# Paths

Device paths are plain text with `/` between components. On the systems at hand a device's path in
the device file tree also serves as its path in the system tree.
-/

namespace InputUdev.Path

/-- The path without the slashes at its end. -/
def trimSlashes (path : String) : String :=
  String.ofList (Text.dropTrailing (· == '/') path.toList)

/-- The last component, slashes at the end of the path not counting. -/
def sysname (path : String) : String :=
  String.ofList (Text.takeTrailing (· != '/') (trimSlashes path).toList)

/-- The device path of a system path: the same text. -/
def devpath (syspath : String) : String := syspath

/-- The system path of a device path: the same text. -/
def syspath (devpath : String) : String := devpath

/-- The path of `name` in the directory `dir`: a slash is put between them unless `dir` is empty or
ends in one. -/
def join (dir name : String) : String :=
  if dir.isEmpty || dir.toList.getLast? == some '/' then dir ++ name else dir ++ "/" ++ name

/-- The components of a path, empty ones left out. -/
def components (path : String) : List String :=
  (path.toList.splitOnP (· == '/')).filter (!·.isEmpty) |>.map String.ofList

/-- What paths of nodes are told apart by: whether they begin at the root, and their components. -/
structure Key where
  absolute : Bool
  names : List String
  deriving DecidableEq, Repr

/-- A dot counts only at the beginning of a path that does not begin at the root. -/
def key (path : String) : Key :=
  let names := (components path).filter (· != ".")
  if path.startsWith "/" then ⟨true, names⟩
  else ⟨false, if (components path).head? = some "." then "." :: names else names⟩

theorem not_mem_sysname_slash (path : String) : '/' ∉ (sysname path).toList := by
  intro h
  rw [sysname, String.toList_ofList] at h
  simpa using Text.of_mem_takeTrailing h

end InputUdev.Path
