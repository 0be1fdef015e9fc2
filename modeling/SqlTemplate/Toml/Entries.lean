import Std.Data.HashMap

/-!
# Entries in order

What stands under keys, in the order in which it was put there. A key has at most one entry, and
its entry can be found without going through the others.
-/

namespace SqlTemplate.Toml

structure Entries (α : Type) where
  /-- Where the entry of a key stands. -/
  places : Std.HashMap String Nat := {}
  /-- The entries in order. A place is empty once its entry has gone from it. -/
  slots : Array (Option (String × α)) := #[]

namespace Entries

variable {α : Type}

def get? (entries : Entries α) (key : String) : Option α := do
  let place ← entries.places[key]?
  let slot ← entries.slots[place]?
  slot.map Prod.snd

/-- Puts an entry behind all others. One that stood under the key before goes from its place. -/
def append (entries : Entries α) (key : String) (a : α) : Entries α :=
  let slots := match entries.places[key]? with
    | none => entries.slots
    | some place => entries.slots.setIfInBounds place none
  ⟨entries.places.insert key slots.size, slots.push (some (key, a))⟩

/-- Changes what stands under a key; `none` stands for nothing, and for a change refused. -/
def alter (change : Option α → Option α) (key : String) (entries : Entries α) :
    Option (Entries α) :=
  match entries.places[key]? with
  | none => (change none).map (entries.append key)
  | some place => do
    let slots ← entries.slots.modifyM place fun slot =>
      (change (slot.map Prod.snd)).map fun a => some (key, a)
    return { entries with slots }

end Entries

end SqlTemplate.Toml
