/-!
The tree that a TOML document denotes, and the rules by which keys and headers add to it: a
table may be opened once, a key set once, and tables spelt by dotted keys stay apart from those
that have a header.
-/

namespace WorkerPool.Toml

/-- How a table came to be. -/
inductive Origin
  /-- By its own header. -/
  | own
  /-- As a value, which nothing can be added to. -/
  | inline
  /-- By the header of a table inside it. -/
  | passing
  /-- By a dotted key. -/
  | dotted
  deriving DecidableEq, Repr

inductive Node
  | text (value : String)
  | int (value : Int)
  | float
  | bool (value : Bool)
  | moment
  | array (items : List Node)
  | table (origin : Origin) (entries : List (String × Node))
  /-- Tables under one repeated header: the earlier ones, the newest first, and the open one. -/
  | tables (earlier : List (List (String × Node))) (last : List (String × Node))

abbrev Entries := List (String × Node)

namespace Entries

/-- Replaces what is under a key, where `f` answers for a key that is there or not. -/
def alter (key : String) (f : Option Node → Option Node) : Entries → Option Entries
  | [] => (f none).map fun node => [(key, node)]
  | (other, old) :: rest =>
    if key = other then (f (some old)).map fun node => (key, node) :: rest
    else (alter key f rest).map ((other, old) :: ·)

/-- Applies `leaf` to the table at the end of a path, opening the tables that are missing. The
path is that of a header, or the front part of a dotted key. -/
def atPath (isKey : Bool) (leaf : Origin → Entries → Option Entries) :
    List String → Origin → Entries → Option Entries
  | [], origin, entries => leaf origin entries
  | key :: path, _, entries =>
    let origin := if isKey then Origin.dotted else .passing
    entries.alter key fun
      | none => (atPath isKey leaf path origin []).map (.table origin)
      | some (.table origin sub) =>
        if origin == .inline || (isKey && origin == .own) then none
        else (atPath isKey leaf path origin sub).map (.table origin)
      | some (.tables earlier last) => (atPath isKey leaf path .own last).map (.tables earlier)
      | some _ => none

def add (key : String) (node : Node) (entries : Entries) : Option Entries :=
  entries.alter key fun
    | none => some node
    | some _ => none

/-- Sets a key, dotted if its front part is not empty, in the table given. -/
def set (path : List String) (key : String) (node : Node) (origin : Origin)
    (entries : Entries) : Option Entries :=
  atPath true (fun origin entries =>
    if (origin == .dotted) == path.isEmpty then none else entries.add key node)
    path origin entries

def openTable (path : List String) (key : String) (entries : Entries) : Option Entries :=
  atPath false (fun _ entries => entries.alter key fun
    | none => some (.table .own [])
    | some (.table .passing sub) => some (.table .own sub)
    | some _ => none) path .own entries

def openNext (path : List String) (key : String) (entries : Entries) : Option Entries :=
  atPath false (fun _ entries => entries.alter key fun
    | none => some (.tables [] [])
    | some (.tables earlier last) => some (.tables (last :: earlier) [])
    | some _ => none) path .own entries

end Entries
end WorkerPool.Toml
