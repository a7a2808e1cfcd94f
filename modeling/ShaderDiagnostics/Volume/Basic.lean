import ShaderDiagnostics.Device.OpenFile
import ShaderDiagnostics.Volume.Path
/-!
# Volumes

A volume says what stands at which place: directories, files and devices, each under the names that
lead to it from the root. `Volume.create` opens a path for writing, making the file or emptying it,
or tells why that cannot be done. A path is followed name by name, so `no/..` leads nowhere if `no`
does not exist.
-/

namespace ShaderDiagnostics

/-! ## Places -/

/-- The names that lead from the root to a place. -/
abbrev Place := List (List Char)

/-- The place that a name leads to, seen from a place and taken at its word. The root is its own
parent. -/
def Place.step (place : Place) (name : List Char) : Place :=
  if name = ['.'] then place
  else if name = ['.', '.'] then place.dropLast
  else place ++ [name]

/-- What may stand at a place. -/
inductive Entry where
  | directory
  | file
  | nullDevice
  | fullDevice
  deriving DecidableEq

/-- What stands where, and the place at which relative paths start. -/
structure Volume where
  entries : List (Place × Entry)
  workDir : Place

namespace Volume

/-- What stands at a place; the root is a directory. -/
def find? (v : Volume) (place : Place) : Option Entry :=
  if place = [] then some .directory else v.entries.lookup place

/-- The place at which a path starts. -/
def startOf (v : Volume) (path : FilePath) : Place :=
  if path.isAbsolute then [] else v.workDir

/-! ## Following a path -/

/-- The longest name of an entry, in bytes. -/
def maxName : Nat := 255

/-- The longest path, in bytes. -/
def maxPath : Nat := 4095

/-- Whether a name is longer than any entry's. -/
def isNameTooLong (name : List Char) : Bool :=
  maxName < (Utf8.encodeChars name).length

/-- Go from a directory to the one that a name in it leads to. The root is its own parent. -/
def enter (v : Volume) (place : Place) (name : List Char) : Except IoError.Condition Place :=
  if name = ['.'] then .ok place
  else if name = ['.', '.'] then .ok place.dropLast
  else if isNameTooLong name then .error .nameTooLong
  else
    match v.find? (place ++ [name]) with
    | none => .error .notFound
    | some .directory => .ok (place ++ [name])
    | some _ => .error .notADirectory

/-- Open the last name of a path for writing. A name with a slash behind it can only be a
directory. -/
def createIn (v : Volume) (place : Place) (name : List Char) (slash : Bool) :
    Except IoError.Condition OpenFile :=
  if name = ['.'] ∨ name = ['.', '.'] ∨ slash then .error .isADirectory
  else if isNameTooLong name then .error .nameTooLong
  else
    match v.find? (place ++ [name]) with
    | none => .ok (.regular [])
    | some .file => .ok (.regular [])
    | some .nullDevice => .ok .null
    | some .fullDevice => .ok .full
    | some .directory => .error .isADirectory

/-- Follow the names of a path from a place and open the last one for writing. -/
def createAlong (v : Volume) (slash : Bool) :
    Place → List (List Char) → Except IoError.Condition OpenFile
  | _, [] => .error .isADirectory
  | place, [name] => v.createIn place name slash
  | place, name :: rest => do v.createAlong slash (← v.enter place name) rest

/-- Open a path for writing: make the file that it leads to, or empty it. -/
def create (v : Volume) (path : FilePath) : Except IoError OpenFile :=
  if '\x00' ∈ path.text.toList then .error .nulInPath
  else if path.text = "" then .error (.system .notFound)
  else if maxPath < (Utf8.encode path.text).length then .error (.system .nameTooLong)
  else
    (v.createAlong path.endsInSlash (v.startOf path) path.names).mapError .system

/-- There is no file with an empty path. -/
theorem create_empty (v : Volume) : v.create ⟨""⟩ = .error (.system .notFound) := by
  simp [create]

/-! ## Furnishing a volume -/

/-- Put an entry at a place. -/
def put (v : Volume) (place : Place) (entry : Entry) : Volume :=
  { v with entries := (place, entry) :: v.entries }

/-- Make a directory at a place where nothing stands yet. -/
def makeAt (v : Volume) (place : Place) : Volume :=
  if (v.find? place).isSome then v else v.put place .directory

/-- Make every directory that names lead to, one after the other, from a place. -/
def makeAlong (v : Volume) (place : Place) : List (List Char) → Volume
  | [] => v
  | name :: rest => (v.makeAt (place.step name)).makeAlong (place.step name) rest

/-- Make the directory that a path leads to, and each one that the path passes on its way: after
`a/../b` there are both `a` and `b`. -/
def makeDirectory (v : Volume) (path : FilePath) : Volume :=
  v.makeAlong (v.startOf path) path.names

/-- Make the file that a path leads to. -/
def makeFile (v : Volume) (path : FilePath) : Volume :=
  v.put (path.names.foldl Place.step (v.startOf path)) .file

/-- The directories that every system has directly below the root. -/
def systemDirectories : List String :=
  ["bin", "boot", "dev", "etc", "home", "lib", "media", "mnt", "opt", "proc", "root", "run", "sbin",
   "srv", "sys", "tmp", "usr", "var"]

/-- The devices, by their names among the devices of the system. -/
def systemDevices : List (String × Entry) :=
  [("null", .nullDevice), ("zero", .nullDevice), ("random", .nullDevice), ("urandom", .nullDevice),
   ("full", .fullDevice)]

/-- A new working directory among the temporary files. It is known to no one, so its name is the
empty one, which no path can spell. -/
def freshWorkDir : Place :=
  ["tmp".toList, []]

/-- A volume with the directories and devices of the system and an empty working directory. -/
def fresh : Volume where
  entries :=
    (freshWorkDir, .directory) ::
      systemDirectories.map (fun name => ([name.toList], .directory)) ++
      systemDevices.map (fun (name, device) => (["dev".toList, name.toList], device))
  workDir := freshWorkDir

end Volume

end ShaderDiagnostics
