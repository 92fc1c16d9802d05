/-! Tables of a settings document. A table may be opened by a header, or come into being on the way to
a deeper header, or by a dotted key. Nothing is defined twice: a header may only open what is new or
was merely implied by a deeper header, and a dotted key may not reach into a table that a header
opened. Of values only texts are kept, and of an array of tables only its last table, which is the one
that can still grow. -/
namespace Leuit.Toml

/-- How a table came into being. -/
inductive Origin where
  | header
  | implied
  | dotted
deriving DecidableEq, Repr

inductive Item where
  | text (s : String)
  /-- A value that is no text. -/
  | other
  | table (origin : Origin) (entries : List (String × Item))
  | array (last : List (String × Item))

abbrev Entries := List (String × Item)

namespace Entries

def get? (es : Entries) (key : String) : Option Item := es.lookup key

/-- Puts an item in place of the one with its key, if there is one. -/
def put (es : Entries) (key : String) (item : Item) : Entries :=
  es.filter (·.1 != key) ++ [(key, item)]

/-- Changes the table at a path below a table of the given origin. Tables that are missing on the way
come into being, as dotted or implied ones. -/
def changeAt (making : Origin) (change : Origin → Entries → Option Entries) :
    List String → Origin → Entries → Option Entries
  | [], origin, es => change origin es
  | key :: path, _, es =>
    match es.get? key with
    | none => (changeAt making change path making []).map fun inner => es.put key (.table making inner)
    | some (.array last) =>
      (changeAt making change path .header last).map fun inner => es.put key (.array inner)
    | some (.table origin inner) =>
      if making = .dotted ∧ origin = .header then none
      else (changeAt making change path origin inner).map fun inner => es.put key (.table origin inner)
    | some _ => none

/-- Gives a new key a value, in a table reached by dotted keys if there are any. -/
def assign (dotted : List String) (key : String) (item : Item) (es : Entries) : Option Entries :=
  changeAt .dotted (fun origin es =>
    if (es.get? key).isSome || (origin == .dotted) == dotted.isEmpty then none
    else some (es.put key item)) dotted .header es

/-- Opens a table by its header. -/
def openTable (key : String) (es : Entries) : Option Entries :=
  match es.get? key with
  | none => some (es.put key (.table .header []))
  | some (.table .implied inner) => some (es.put key (.table .header inner))
  | some _ => none

/-- Opens a further table of an array by its header. -/
def openElement (key : String) (es : Entries) : Option Entries :=
  match es.get? key with
  | none | some (.array _) => some (es.put key (.array []))
  | some _ => none

/-- Changes the table that a header refers to. -/
def within (path : List String) (change : Entries → Option Entries) (es : Entries) : Option Entries :=
  changeAt .implied (fun _ => change) path .header es

end Entries

end Leuit.Toml
