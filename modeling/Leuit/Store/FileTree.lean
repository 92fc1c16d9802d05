import Leuit.Store.Keyed
import Leuit.Text.NameSet
import Leuit.Text.Pieces

/-! Trees of folders and files. A node stands at a place, a list of names from the top folder; a path is a
text that leads there. The names of a path stand between slashes and may also be points, one for the folder
itself and two for the folder above. A file that someone else left may hold bytes that are no text, or be
closed to the program. An operation fails if a folder stands in place of a file or the other way round, if
something is missing on the way, if a name or a path cannot be one, or if a file is not one it can work on;
each names the fault as the system does. -/
namespace Leuit

inductive FileFault where
  | notFound
  | alreadyExists
  | notFolder
  | isFolder
  | tooLong
  /-- A path holds the character that ends a text for the system. -/
  | endsEarly
  /-- A file may not be opened. -/
  | denied
  /-- The bytes of a file are no text. -/
  | noText
deriving DecidableEq, Repr

def FileFault.message : FileFault → String
  | notFound => "No such file or directory (os error 2)"
  | alreadyExists => "File exists (os error 17)"
  | notFolder => "Not a directory (os error 20)"
  | isFolder => "Is a directory (os error 21)"
  | tooLong => "File name too long (os error 36)"
  | endsEarly => "file name contained an unexpected NUL byte"
  | denied => "Permission denied (os error 13)"
  | noText => "stream did not contain valid UTF-8"

/-! ### Paths -/

/-- Where a node stands: the names on the way to it from the top folder. -/
abbrev Place := List String

/-- A path as written. -/
structure Path where
  text : String
deriving DecidableEq, Repr

namespace Path

/-- The names in a path. A slash in front is kept as a name, that of the topmost folder. -/
def names (p : Path) : List String :=
  (if p.text.toList.head? = some '/' then ["/"] else []) ++
    (Text.split '/' p.text).filter fun name => name ≠ "" && name ≠ "."

/-- The path of something in a folder. -/
def join (folder : Path) (name : String) : Path :=
  if folder.text = "" || folder.text.toList.getLast? = some '/' then ⟨folder.text ++ name⟩
  else ⟨folder.text ++ "/" ++ name⟩

/-- The most bytes a path may have. -/
def longest : Nat := 4095

/-- Fails if the text is no path. -/
def check (p : Path) : Except FileFault Unit :=
  if p.text.toList.contains '\x00' then .error .endsEarly
  else if p.text = "" then .error .notFound
  else if longest < p.text.utf8ByteSize then .error .tooLong
  else .ok ()

/-- Drops slashes, and points that stand alone, from the start of a reversed path. -/
def dropIdle : List Char → List Char
  | '/' :: rest => dropIdle rest
  | '.' :: '/' :: rest => dropIdle rest
  | cs => cs

/-- Whether a path ends in a point, with slashes behind it or not. Such a path leads to a folder, but
cannot name one that is to be made. -/
def endsInPoint (p : Path) : Bool := (Text.split '/' p.text).reverse.find? (· ≠ "") == some "."

/-- The path without what adds nothing at its end. -/
def trimEnd (p : Path) : Path := ⟨String.ofList (dropIdle p.text.toList.reverse).reverse⟩

end Path

/-! ### Contents of files -/

/-- The instance by which contents are compared, whatever others a module sees. -/
instance decidableEqBytes : DecidableEq ByteArray := ByteArray.instDecidableEq

/-- What is in a file. -/
inductive Content where
  | text (text : String)
  /-- Bytes that are no text. -/
  | foreign (bytes : ByteArray) (unread : ¬bytes.IsValidUTF8)
  /-- The file may not be opened, so nobody knows. -/
  | sealed
deriving DecidableEq

namespace Content

instance : Coe String Content := ⟨text⟩

def read : Content → Except FileFault String
  | text s => .ok s
  | foreign .. => .error .noText
  | sealed => .error .denied

theorem read_eq_ok {c : Content} {s : String} : c.read = .ok s ↔ c = text s := by
  cases c <;> simp [read]

/-- A text behind bytes is part of a text only if the bytes are one. -/
theorem not_isValidUTF8_append {bytes : ByteArray} (h : ¬bytes.IsValidUTF8) (more : String) :
    ¬(bytes ++ more.toUTF8).IsValidUTF8 := by
  intro hwhole
  let whole : String := ⟨bytes ++ more.toUTF8, hwhole⟩
  -- What follows the bytes is a text, so a character starts behind them.
  have hstart : String.Pos.Raw.IsValid whole ⟨bytes.size⟩ := by
    refine String.Pos.Raw.isValid_iff_isValidUTF8_extract_utf8ByteSize.mpr ⟨?_, ?_⟩
    · simp [whole, String.Pos.Raw.le_iff]
    · have hrest : whole.toByteArray.extract bytes.size whole.utf8ByteSize = more.toUTF8 :=
        ByteArray.extract_append_eq_right rfl (ByteArray.size_append ..)
      exact hrest ▸ more.isValidUTF8
  have hbytes : whole.toByteArray.extract 0 bytes.size = bytes := ByteArray.extract_append_eq_left rfl
  exact h (hbytes ▸ (String.Pos.Raw.isValid_iff_isValidUTF8_extract_zero.mp hstart).2)

/-- The content with a text at its end. -/
def append (c : Content) (more : String) : Except FileFault Content :=
  match c with
  | text s => .ok (text (s ++ more))
  | foreign bytes unread => .ok (foreign (bytes ++ more.toUTF8) (not_isValidUTF8_append unread more))
  | sealed => .error .denied

end Content

/-! ### Trees -/

inductive Node where
  | folder
  | file (content : Content)
deriving DecidableEq

/-- What keeps a node from being opened to write to it. -/
def Node.barrier? : Node → Option FileFault
  | folder => some .isFolder
  | file .sealed => some .denied
  | file (.text _) | file (.foreign ..) => none

/-- The nodes below the top folder. The top folder, all folders above it and the topmost one always
exist. -/
structure FileTree where
  nodes : Keyed Place Node

namespace FileTree

def empty : FileTree := ⟨.empty⟩

/-- Whether a place is the top folder or above it. -/
def isAbove (place : Place) : Bool := place.all (· == "..")

/-- Where the topmost folder stands. -/
def topmost : Place := ["/"]

def node? (t : FileTree) (place : Place) : Option Node :=
  if isAbove place || place = topmost then some .folder else t.nodes.get? place

/-- The folder above, which the topmost one is of itself. -/
def parent (place : Place) : Place :=
  if place = topmost then topmost else if isAbove place then place ++ [".."] else place.dropLast

/-- The most bytes a name may have. -/
def longestName : Nat := 255

/-- Follows names from a folder. All but the last must lead to folders. -/
def locate (t : FileTree) (here : Place) : List String → Except FileFault Place
  | [] => .ok here
  | name :: rest =>
    match t.node? here with
    | none => .error .notFound
    | some (.file _) => .error .notFolder
    | some .folder =>
      if name = ".." then locate t (parent here) rest
      else if longestName < name.utf8ByteSize then .error .tooLong
      else locate t (here ++ [name]) rest

/-- The place that a path leads to, which may be free. -/
def resolve (t : FileTree) (path : Path) : Except FileFault Place :=
  match path.check with
  | .error e => .error e
  | .ok () => t.locate [] path.names

/-! ### Reading -/

def find (t : FileTree) (path : Path) : Except FileFault Node :=
  match t.resolve path with
  | .error e => .error e
  | .ok place =>
    match t.node? place with
    | none => .error .notFound
    | some node => .ok node

def isFolder (t : FileTree) (path : Path) : Bool := t.find path matches .ok .folder

def contains (t : FileTree) (path : Path) : Bool := t.find path matches .ok _

def read (t : FileTree) (path : Path) : Except FileFault String :=
  match t.find path with
  | .error e => .error e
  | .ok .folder => .error .isFolder
  | .ok (.file content) => content.read

/-- What stands directly in a folder, by name. -/
def list (t : FileTree) (path : Path) : Except FileFault (List (String × Node)) :=
  match t.resolve path with
  | .error e => .error e
  | .ok place =>
    match t.node? place with
    | none => .error .notFound
    | some (.file _) => .error .notFolder
    | some .folder =>
      .ok (t.nodes.entries.filterMap fun (there, node) =>
        match there.getLast? with
        | some name => if there.dropLast = place then some (name, node) else none
        | none => none)

/-! ### Writing -/

def put (t : FileTree) (place : Place) (node : Node) : FileTree := ⟨t.nodes.insert place node⟩

/-- Makes the folders along a list of names that are missing, from the folder on that the names `passed`
lead to. A file in place of a folder is met as such where all before it was there, and else when the
folder is made. Where the path ends in a point, the last folder must be there. -/
def makeFoldersAlong (t : FileTree) (point someMade : Bool) (passed : List String) :
    List String → Except FileFault Unit × FileTree
  | [] => (.ok (), t)
  | name :: rest =>
    let names := passed ++ [name]
    match t.locate [] names with
    | .error e => (.error e, t)
    | .ok place =>
      match t.node? place with
      | some .folder => makeFoldersAlong t point someMade names rest
      | some (.file _) =>
        let met := if rest.isEmpty then !point else someMade
        (.error (if met then .alreadyExists else .notFolder), t)
      | none =>
        if rest.isEmpty && point then (.error .notFound, t)
        else makeFoldersAlong (t.put place .folder) point true names rest

/-- Makes the folders of a path that are missing. -/
def makeFolders (t : FileTree) (path : Path) : Except FileFault Unit × FileTree :=
  if path.text = "" then (.ok (), t)
  else
    match path.check with
    | .error e => (.error e, t)
    | .ok () => t.makeFoldersAlong path.endsInPoint false [] path.names

/-- Makes an empty file, unless there is one already. -/
def makeFile (t : FileTree) (path : Path) : Except FileFault Unit × FileTree :=
  match t.resolve path with
  | .error e => (.error e, t)
  | .ok place =>
    match t.node? place with
    | some node =>
      match node.barrier? with
      | some e => (.error e, t)
      | none => (.ok (), t)
    | none => (.ok (), t.put place (.file ""))

/-- Adds text at the end of a file. -/
def append (t : FileTree) (path : Path) (text : String) : Except FileFault Unit × FileTree :=
  match t.resolve path with
  | .error e => (.error e, t)
  | .ok place =>
    match t.node? place with
    | some .folder => (.error .isFolder, t)
    | some (.file old) =>
      match old.append text with
      | .error e => (.error e, t)
      | .ok new => (.ok (), t.put place (.file new))
    | none => (.error .notFound, t)

/-- Writes a text to a file, in place of what is in it. -/
def write (t : FileTree) (path : Path) (text : String) : Except FileFault Unit × FileTree :=
  match t.resolve path with
  | .error e => (.error e, t)
  | .ok place =>
    match (t.node? place).bind Node.barrier? with
    | some e => (.error e, t)
    | none => (.ok (), t.put place (.file text))

/-- Gives a file another name, in place of any other file. -/
def rename (t : FileTree) (source target : Path) : Except FileFault Unit × FileTree :=
  match t.resolve source, t.resolve target with
  | .error e, _ | _, .error e => (.error e, t)
  | .ok old, .ok new =>
    match t.node? old, t.node? new with
    | none, _ => (.error .notFound, t)
    | some (.file _), some .folder => (.error .isFolder, t)
    | some node, _ => (.ok (), (⟨t.nodes.erase old⟩ : FileTree).put new node)

/-- Replaces the text of a file by way of a temporary one, so that no reader sees part of it. -/
def replace (t : FileTree) (temporary target : Path) (text : String) :
    Except FileFault Unit × FileTree :=
  match t.write temporary text with
  | (.error e, t) => (.error e, t)
  | (.ok (), t) => t.rename temporary target

end FileTree

end Leuit
