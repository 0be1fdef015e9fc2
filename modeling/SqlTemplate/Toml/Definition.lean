import SqlTemplate.Toml.Entries
import SqlTemplate.Toml.Word

/-!
# Defining tables

Tables are defined step by step, by keys with dots in them and by headers. How a table came about
decides who may add to it: a header or a bracketed value completes a table, while a table that
only stands on the way to another one is still open. Until all is defined, the entries of a table
are kept in the order in which they were defined, since the first one may say that the table
stands for a date or a time.
-/

namespace SqlTemplate.Toml

inductive Making where
  /-- By a header of its own. -/
  | header
  /-- On the way to a table with a header. -/
  | parent
  /-- On the way to a key with dots. -/
  | dotted
  deriving DecidableEq

/-- What stands under a key while tables are being defined. -/
inductive Node where
  | value (v : Value)
  | table (making : Making) (entries : Entries Node)
  /-- A list of tables, each with a header of its own; entries go to the last one. -/
  | tables (earlier : List (Entries Node)) (last : Entries Node)

/-- Puts a value under a key with dots. On its way it makes tables and passes through tables that
were made in the same way, through tables that have no header yet, and through the last one of a
list of tables; the value itself goes only where `takesValues` says that the table is one made by
dots, or the one from which the key is counted. -/
def assign (value : Value) : Bool → List String → Entries Node → Option (Entries Node)
  | _, [] => fun _ => none
  | takesValues, [key] =>
    Entries.alter (fun
      | none => if takesValues then some (.value value) else none
      | some _ => none) key
  | _, key :: rest =>
    Entries.alter (fun
      | none => (assign value true rest {}).map (.table .dotted)
      | some (.table .dotted inner) => (assign value true rest inner).map (.table .dotted)
      | some (.table .parent inner) => (assign value false rest inner).map (.table .parent)
      | some (.tables earlier last) => (assign value false rest last).map (.tables earlier)
      | some (.table .header _) => none
      | some (.value _) => none) key

def assignAll (entries : Entries Node) (assignments : List (List String × Value)) :
    Option (Entries Node) :=
  assignments.foldlM (fun entries (path, value) => assign value true path entries) entries

/-- Changes the entries around the last key of a header, counted from the root. -/
def alterAt (change : String → Entries Node → Option (Entries Node)) :
    List String → Entries Node → Option (Entries Node)
  | [] => fun _ => none
  | [key] => change key
  | key :: rest =>
    Entries.alter (fun
      | none => (alterAt change rest {}).map (.table .parent)
      | some (.table making inner) => (alterAt change rest inner).map (.table making)
      | some (.tables earlier last) => (alterAt change rest last).map (.tables earlier)
      | some (.value _) => none) key

/-- A header with the assignments under it. -/
inductive Section where
  | table (path : List String) (assignments : List (List String × Value))
  | element (path : List String) (assignments : List (List String × Value))

/-- A table may get its header after the headers of tables in it, but only once. The header then
gives it its place among the entries. -/
def openTable (assignments : List (List String × Value)) (key : String) (entries : Entries Node) :
    Option (Entries Node) :=
  match entries.get? key with
  | none => (assignAll {} assignments).map fun inner => entries.append key (.table .header inner)
  | some (.table .parent inner) =>
    (assignAll inner assignments).map fun inner => entries.append key (.table .header inner)
  | some _ => none

def openElement (assignments : List (List String × Value)) :
    String → Entries Node → Option (Entries Node) :=
  Entries.alter fun
    | none => (assignAll {} assignments).map (.tables [])
    | some (.tables earlier last) => (assignAll {} assignments).map (.tables (last :: earlier))
    | some _ => none

def Section.define (root : Entries Node) : Section → Option (Entries Node)
  | .table path assignments => alterAt (openTable assignments) path root
  | .element path assignments => alterAt (openElement assignments) path root

def inOrder (entries : Table) : Table :=
  entries.mergeSort fun first second => first.1 ≤ second.1

/-- The key by which a table is known to stand for a date or a time. -/
def momentKey : String := "$__toml_private_datetime"

/-- The value of a table, given its entries in the order in which they were defined. A table that
begins with `momentKey` is the date or time written under that key, and must hold nothing else. -/
def Value.ofEntries? : Table → Option Value
  | [] => some (.table [])
  | (key, v) :: others =>
    if key = momentKey then
      match v, others with
      | .string text, [] => (moment? text.toList).map .moment
      | _, _ => none
    else some (.table (inOrder ((key, v) :: others)))

mutual

/-- The value of what has been defined. -/
def Node.toValue? : Node → Option Value
  | .value v => some v
  | .table _ ⟨_, ⟨slots⟩⟩ => (slotValues? slots).bind Value.ofEntries?
  | .tables earlier ⟨_, ⟨slots⟩⟩ => do
    let last ← (slotValues? slots).bind Value.ofEntries?
    let earlier ← tableValues? earlier
    return .array (last :: earlier).reverse

def tableValues? : List (Entries Node) → Option (List Value)
  | [] => some []
  | ⟨_, ⟨slots⟩⟩ :: rest => do
    let table ← (slotValues? slots).bind Value.ofEntries?
    let rest ← tableValues? rest
    return table :: rest

def slotValues? : List (Option (String × Node)) → Option (List (String × Value))
  | [] => some []
  | none :: rest => slotValues? rest
  | some (key, node) :: rest => do
    let v ← node.toValue?
    let rest ← slotValues? rest
    return (key, v) :: rest

end

def entryValues? (entries : Entries Node) : Option Table :=
  slotValues? entries.slots.toList

def tableValue? (entries : Entries Node) : Option Value :=
  (entryValues? entries).bind Value.ofEntries?

end SqlTemplate.Toml
