import SqlTemplate.Fault
import SqlTemplate.Toml.Decode
import SqlTemplate.Token

/-!
# Settings

The settings of a document name the query and the package it belongs to. All other settings are
kept as they are.
-/

namespace SqlTemplate

structure Settings where
  package : String := ""
  name : String := ""
  extra : Toml.Table := []

namespace Settings

/-- A setting that must be a string, empty if it is missing. -/
def text? (table : Toml.Table) (key : String) : Option String :=
  match table.lookup key with
  | none => some ""
  | some (.string text) => some text
  | some _ => none

def ofTable? (table : Toml.Table) : Option Settings := do
  let package ← text? table "package"
  let name ← text? table "name"
  return ⟨package, name, table.filter fun entry => entry.1 ≠ "package" && entry.1 ≠ "name"⟩

/-- The decoder that runs. Whatever is proved of documents holds for any other decoder as well. -/
def decode? (text : String) : Option Settings :=
  (Toml.decode? text).bind ofTable?

/-- A letter or an underscore, and then letters, digits and underscores. -/
def isIdentifier (text : String) : Bool :=
  match text.toList with
  | [] => false
  | c :: rest => (c.isAlpha || c = '_') && rest.all isNameChar

/-- The two names must be identifiers, or empty. The package is looked at first. -/
def check (settings : Settings) : Except Fault Settings :=
  if !settings.package.isEmpty && !isIdentifier settings.package then
    .error (.invalidName .package settings.package)
  else if !settings.name.isEmpty && !isIdentifier settings.name then
    .error (.invalidName .name settings.name)
  else .ok settings

/-- Reads settings with the given decoder. -/
def read (decode : String → Option Settings) (text : String) : Except Fault Settings :=
  match decode text with
  | none => .error .invalidSettings
  | some settings => settings.check

end Settings

end SqlTemplate
