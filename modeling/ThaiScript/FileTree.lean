import ThaiScript.Encoding.Utf8

/-!
# Files

The files and directories below the directory in which a program starts, and what it finds at a path.
Outside of them there are directories, but no files.
-/

namespace ThaiScript

/-- An error of the operating system, with its number. -/
structure FileError where
  number : Nat
  text : Text
deriving DecidableEq, Repr

namespace FileError

def notFound : FileError := ⟨2, "No such file or directory"⟩
def notDirectory : FileError := ⟨20, "Not a directory"⟩
def isDirectory : FileError := ⟨21, "Is a directory"⟩
def nameTooLong : FileError := ⟨36, "File name too long"⟩

def describe (e : FileError) : Text := e.text ++ " (os error " ++ Text.ofNat e.number ++ ")"

end FileError

structure FileTree where
  files : List (Text × Bytes)
  directories : List Text

namespace FileTree

def empty : FileTree := ⟨[], []⟩

/-- The names that a path is made of. -/
def names : Text → List Text
  | [] => [[]]
  | c :: t =>
    if c = '/' then [] :: names t
    else match names t with
      | [] => [[c]]
      | n :: ns => (c :: n) :: ns

/-- A place: the names that lead to it from the starting directory. -/
abbrev Place := List Text

def rootPlace : Place := ["/".toList]

def parent : Place := ["..".toList]

/-- What every path begins at. -/
def startOf : Text → Place
  | '/' :: _ => rootPlace
  | _ => []

/-- The names of all files and directories. -/
def places (f : FileTree) : List Place := (f.files.map (·.1) ++ f.directories).map names

def fileAt? (f : FileTree) (p : Place) : Option Bytes :=
  (f.files.find? fun e => names e.1 = p).map (·.2)

/-- Whether a place is a directory: one that is named, or one that something lies in. -/
def isDirectory (f : FileTree) (p : Place) : Bool :=
  p = rootPlace || p.all (· = "..".toList) || (f.directories.map names).contains p ||
    f.places.any fun q => p.isPrefixOf q && p.length < q.length

/-- The place one name further on. -/
def step (f : FileTree) (p : Place) (name : Text) : Except FileError Place :=
  if !f.isDirectory p then .error .notDirectory
  else if name = [] ∨ name = ".".toList then .ok p
  else if name = "..".toList then
    .ok (if p = rootPlace then p else if p.all (· = name) then name :: p else p.dropLast)
  else if 255 < (Utf8.encode name).length then .error .nameTooLong
  else
    let q := p ++ [name]
    if f.isDirectory q || (f.fileAt? q).isSome then .ok q else .error .notFound

/-- The bytes of the file at a path. -/
def read (f : FileTree) (path : Text) : Except FileError Bytes := do
  if path = [] then throw .notFound
  if 4096 ≤ (Utf8.encode path).length then throw .nameTooLong
  let place ← (names path).foldlM f.step (startOf path)
  match f.fileAt? place with
  | some bs => return bs
  | none => throw .isDirectory

end FileTree

end ThaiScript
