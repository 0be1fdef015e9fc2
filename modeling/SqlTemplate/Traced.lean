import SqlTemplate.Event
import SqlTemplate.Fault

/-!
# Traced computations

A computation that reports events and may end in a fault. A fault ends it at once; the events
reported until then remain.
-/

namespace SqlTemplate

structure Traced (α : Type) where
  events : List Event
  result : Except Fault α

namespace Traced

def report (events : List Event) : Traced Unit :=
  ⟨events, .ok ()⟩

def ofExcept {α : Type} (result : Except Fault α) : Traced α :=
  ⟨[], result⟩

instance : Monad Traced where
  pure a := ⟨[], .ok a⟩
  bind first next :=
    match first.result with
    | .ok a => ⟨first.events ++ (next a).events, (next a).result⟩
    | .error fault => ⟨first.events, .error fault⟩

variable {α β : Type}

@[simp] theorem events_pure (a : α) : (pure a : Traced α).events = [] := rfl

@[simp] theorem result_pure (a : α) : (pure a : Traced α).result = .ok a := rfl

@[simp] theorem result_report (events : List Event) : (report events).result = .ok () := rfl

@[simp] theorem result_ofExcept (result : Except Fault α) : (ofExcept result).result = result := rfl

@[simp] theorem result_bind (first : Traced α) (next : α → Traced β) :
    (first >>= next).result = first.result.bind fun a => (next a).result := by
  cases result : first.result <;> simp only [bind, result, Except.bind]

theorem bind_of_ok {first : Traced α} {a : α} (succeeded : first.result = .ok a)
    (next : α → Traced β) :
    first >>= next = ⟨first.events ++ (next a).events, (next a).result⟩ := by
  simp only [bind, succeeded]

theorem bind_of_error {first : Traced α} {fault : Fault} (failed : first.result = .error fault)
    (next : α → Traced β) : first >>= next = ⟨first.events, .error fault⟩ := by
  simp only [bind, failed]

end Traced

end SqlTemplate
