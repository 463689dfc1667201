import ElevatorBank.Setting.Basic
import ElevatorBank.Variables

/-!
# The settings library

Reading settings is left to a library: it knows documents and variables, lays one
source over another, and reads values as numbers, lists, words and records. The
program is written for any library that can do this (`Setting.Library`), and says
itself only which sources there are and what is asked of them.
-/
namespace ElevatorBank

namespace Setting

structure Library where
  /-- The settings of a document. -/
  parse? : (document : String) → Option (Entries Setting)
  /-- The path of a variable whose name begins with a word and an underscore. -/
  keyOf? : (word name : String) → Option String
  /-- What the text of a variable stands for. There is one path whose text may be a list. -/
  ofVariable : (listKey key value : String) → Setting
  /-- Lays an entry of a source over the settings so far. -/
  lay : (key : String) → (v root : Setting) → Setting
  /-- A number of 32 bits, one of them for the sign. -/
  floor? : Setting → Option Int
  /-- A number of 64 bits without a sign. -/
  nat? : Setting → Option Nat
  list? : Setting → Option (List Setting)
  /-- One of some words. -/
  word? : (words : List String) → Setting → Option String
  /-- The fields of a record, as far as they are given. -/
  fields? : (names : List String) → Setting → Option (List (Option Setting))

/-- The setting whose text is a list. -/
def listKey : String := "elevators.start_floors"

namespace Library
variable (lib : Library)

/-- Lays a source over the settings so far. -/
def overlay (root : Setting) (source : Entries Setting) : Setting :=
  source.foldl (fun root e => lib.lay e.1 e.2 root) root

/-- The settings of several sources, each laid over those before it. -/
def layered (sources : List (Entries Setting)) : Setting := sources.foldl lib.overlay (table [])

/-- The settings of the variables that begin with a word. -/
def ofVariables (word : String) (vs : Variables) : Entries Setting :=
  vs.filterMap fun (name, value) =>
    (lib.keyOf? word name).map fun key => (key, lib.ofVariable listKey key value)

end Library
end Setting
end ElevatorBank
