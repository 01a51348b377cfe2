import Visa.Settings
import Visa.Settings.Placeholder
import Visa.Toml.Document

namespace Visa.Settings

/-! Settings from TOML texts. Keys that mean nothing here may hold any value that can be had; one
that does has to hold a string. -/

open Toml (Node)

def setting? (members : List (String × Node)) (name : String) : Option (Option String) :=
  match (members.find? fun member => member.1 == name).map Prod.snd with
  | none => some none
  | some (.text value) => some (some value)
  | some _ => none

def text? : Node → Option String
  | .text value => some value
  | _ => none

/-- Whether the members of other names than those known can be ignored. -/
def areIgnorable (names : List String) (members : List (String × Node)) : Bool :=
  members.all fun (name, node) => names.contains name || node.isUsable

/-- The entries of a section by name. A list stands for the entries in their order and has to hold
all of them, and what else it holds is not looked at; a date or time is a section without any known
entry. -/
def entries? (names : List String) : Node → Option (List (Option String))
  | .table _ members =>
      if areIgnorable names members then names.mapM (setting? members) else none
  | .moment => some (names.map fun _ => none)
  | .list items =>
      if items.length < names.length then none
      else (items.take names.length).mapM fun item => (text? item).map some
  | _ => none

/-- The entries of a section that may be left out. -/
def section? (root : Toml.Table) (name : String) (names : List String) :
    Option (List (Option String)) :=
  match root.lookup name with
  | none => some (names.map fun _ => none)
  | some node => entries? names node

def ofTable? (root : Toml.Table) : Option Settings := do
  let rules ← section? root "rules" ["path"]
  let logging ← section? root "logging" ["level", "format"]
  match rules, logging with
  | [path], [level, format] =>
      if areIgnorable ["rules", "logging"] root.members then
        some { rulesPath := path, logLevel := level, logFormat := format }
      else none
  | _, _ => none

/-- Placeholders are filled in before the text is read. -/
def ofText (environment : Environment) (text : List Char) : Except Fault Settings :=
  match Toml.ofText? (substitute environment text) >>= ofTable? with
  | some settings => .ok settings
  | none => .error (.malformedSettings "")

end Visa.Settings
