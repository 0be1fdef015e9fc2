import SqlTemplate.Fault
import Std.Data.HashMap

/-!
# Numbering names

Each distinct name gets the next ordinal when it is first seen and keeps it from then on. A name
that comes after the last possible ordinal is refused, and refusing it changes nothing.
-/

namespace SqlTemplate

structure Numbering where
  /-- The parameters in the order in which their names were first seen. -/
  parameters : Array Parameter := #[]
  /-- The ordinals of the names seen so far. -/
  ordinals : Std.HashMap String UInt16 := {}

namespace Numbering

/-- The ordinal of `name`, and the numbering that knows it. -/
def number : Numbering → String → Except Fault (UInt16 × Numbering)
  | ⟨parameters, ordinals⟩, name =>
    match ordinals[name]? with
    | some ordinal => .ok (ordinal, ⟨parameters, ordinals⟩)
    | none =>
      let count := parameters.size + 1
      if count ≤ maxParameters then
        let ordinal := UInt16.ofNat count
        .ok (ordinal, ⟨parameters.push { name, ordinal }, ordinals.insert name ordinal⟩)
      else .error (.tooManyParameters count)

theorem number_of_known {numbering : Numbering} {name : String} {ordinal : UInt16}
    (known : numbering.ordinals[name]? = some ordinal) :
    numbering.number name = .ok (ordinal, numbering) := by
  simp only [number, known]

theorem number_of_full {numbering : Numbering} {name : String}
    (unknown : numbering.ordinals[name]? = none)
    (full : maxParameters ≤ numbering.parameters.size) :
    numbering.number name = .error (.tooManyParameters (numbering.parameters.size + 1)) := by
  have noRoom : ¬numbering.parameters.size + 1 ≤ maxParameters := by omega
  simp only [number, unknown, noRoom, if_false]

end Numbering

end SqlTemplate
