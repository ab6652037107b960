/-
  `std::filesystem::path` on Windows, as far as the output names of a recording need it: a path taken
  apart into its root name (a drive, a server, a device prefix), its root directory and the names
  after it, and what is taken from it or joined to it. A trailing separator leaves an empty last
  name. A name may carry an alternate stream after a colon, which is no part of its extension.
-/
import Mathlib.Data.List.Basic

namespace Exosnap.Services

structure Path where
  rootName : String := ""
  rootDirectory : Bool := false
  names : List String
  deriving DecidableEq, Repr

namespace Path

/-! ## Taking a string apart -/

def isSlash (c : Char) : Bool := c == '/' || c == '\\'

/-- How many characters the root name takes: a drive letter and its colon, one of the three device
    prefixes, or two separators and a server's name. -/
def rootNameLength : List Char → Nat
  | first :: second :: rest =>
      if first.isAlpha && second == ':' then 2
      else if !isSlash first then 0
      else
        match rest with
        | third :: fourth :: more =>
            if isSlash fourth && !(more.head?.any isSlash) &&
                ((isSlash second && (third == '?' || third == '.')) ||
                  (second == '?' && third == '?')) then 3
            else if isSlash second && !isSlash third then
              3 + ((fourth :: more).takeWhile fun c => !isSlash c).length
            else 0
        | [third] => if isSlash second && !isSlash third then 3 else 0
        | [] => 0
  | _ => 0

/-- The names between separators, of which several in a row count as one. `name` is the one being
    read, backwards. -/
def splitNames (name : List Char) : List Char → List String
  | [] => [String.ofList name.reverse]
  | c :: cs =>
      if isSlash c then
        if name.isEmpty then splitNames [] cs
        else String.ofList name.reverse :: splitNames [] cs
      else splitNames (c :: name) cs

def ofString (text : String) : Path :=
  let chars := text.toList
  let rest := chars.drop (rootNameLength chars)
  let relative := rest.dropWhile isSlash
  { rootName := String.ofList (chars.take (rootNameLength chars))
    rootDirectory := rest.head?.any isSlash
    names := if relative.isEmpty then [] else splitNames [] relative }

/-! ## Names and parents -/

def isEmpty (p : Path) : Bool := p.rootName.isEmpty && !p.rootDirectory && p.names.isEmpty

def parentPath (p : Path) : Path := { p with names := p.names.dropLast }

def filename (p : Path) : String := p.names.getLast?.getD ""

/-- The stem and the extension of a file's name. A dot at its beginning starts no extension, and `..`
    has none. -/
def splitExtension (filename : String) : String × String :=
  let base := filename.toList.takeWhile (· != ':')
  let afterDot := (base.reverse.takeWhile (· != '.')).length
  let stemLength := base.length - afterDot - 1
  if afterDot = base.length ∨ stemLength = 0 ∨ base = ['.', '.'] then (String.ofList base, "")
  else (String.ofList (base.take stemLength), String.ofList (base.drop stemLength))

def stem (p : Path) : String := (splitExtension p.filename).1

def extension (p : Path) : String := (splitExtension p.filename).2

/-- `replace_extension(L"")` -/
def removeExtension (p : Path) : Path :=
  if p.names.isEmpty then p else { p with names := p.names.dropLast ++ [p.stem] }

/-- `p / name`, for the name of a file. A root name longer than a drive's gets a separator. -/
def append (p : Path) (name : String) : Path :=
  { p with
    rootDirectory := p.rootDirectory || (p.names.isEmpty && 2 < p.rootName.length)
    names := (if p.names.getLast? = some "" then p.names.dropLast else p.names) ++ [name] }

/-! ## Equality -/

/-- One name more, over the names so far in reverse. -/
def pushName (rootDirectory : Bool) (stack : List String) (name : String) : List String :=
  if name = "" ∨ name = "." then stack
  else if name = ".." then
    match stack with
    | top :: rest => if top = ".." then ".." :: stack else rest
    | [] => if rootDirectory then [] else [".."]
  else name :: stack

def lexicallyNormal (p : Path) : Path :=
  let stack := p.names.foldl (pushName p.rootDirectory) []
  let trailing := p.names.getLast?.any fun name => name == "" || name == "." || name == ".."
  let names := stack.reverse ++
    if trailing ∧ stack ≠ [] ∧ stack.head? ≠ some ".." then [""] else []
  if p.names ≠ [] ∧ names = [] ∧ p.rootName = "" ∧ p.rootDirectory = false then
    { p with names := ["."] }
  else { p with names }

/-- `std::towlower` in the locale the program runs in, which knows the ASCII letters. -/
def lowered (s : String) : String := s.map Char.toLower

/-- The text `PathsEqual` compares, with one separator for both. -/
def norm (p : Path) : Path :=
  let normal := p.lexicallyNormal
  { rootName := lowered (normal.rootName.map fun c => if c = '\\' then '/' else c)
    rootDirectory := normal.rootDirectory
    names := normal.names.map lowered }

def pathsEqual (a b : Path) : Bool := a.norm == b.norm

end Path

end Exosnap.Services
