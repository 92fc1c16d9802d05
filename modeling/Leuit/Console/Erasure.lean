import Leuit.Text.Cluster

/-! Erasures in a line of input. A backspace takes back the cluster before it, unless there is none. The
size of a cluster in bytes is remembered in a single byte, and as many bytes are taken back. -/
namespace Leuit.Console

def backspace : Char := '\x08'

/-- The characters of a line that stand, and the sizes of the clusters that they came in, the last ones
first. -/
structure Typed where
  characters : List Char
  sizes : List UInt8

namespace Typed

def empty : Typed := ⟨[], []⟩

/-- Drops characters of so many bytes. -/
def dropBytes : Nat → List Char → List Char
  | 0, cs => cs
  | _, [] => []
  | count + 1, c :: rest => dropBytes (count + 1 - c.utf8Size) rest

def push (t : Typed) (cluster : List Char) : Typed :=
  if cluster = [backspace] then
    match t.sizes with
    | [] => t
    | size :: sizes => ⟨dropBytes size.toNat t.characters, sizes⟩
  else
    ⟨cluster.reverse ++ t.characters, (String.ofList cluster).utf8ByteSize.toUInt8 :: t.sizes⟩

end Typed

/-- The line with its erasures carried out. -/
def eraseBack (line : String) : String :=
  String.ofList (((Text.clusters line.toList).foldl Typed.push .empty).characters.reverse)

end Leuit.Console
