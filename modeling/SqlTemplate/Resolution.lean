import SqlTemplate.Query

/-!
# Resolving types

A server that is asked to prepare a statement either fails or describes it. A description gives the
types of the parameters in the order of their ordinals, or their number, or neither.
-/

namespace SqlTemplate

/-- What a server tells about the parameters of a statement that it has prepared. -/
inductive Description where
  | typed (types : List DataType)
  | counted (parameters : Nat)
  | silent
  deriving DecidableEq

/-- The types in a description. If there are no parameters their number is enough. -/
def Description.types : Description → Except Fault (List DataType)
  | typed types => .ok types
  | counted 0 => .ok []
  | counted _ | silent => .error .parameterTypesUnavailable

abbrev Server := String → Except ServerFailure Description

structure Resolution where
  /-- The statement that the server was asked to prepare, if it was asked. -/
  prepared : Option String
  outcome : Traced Query

/-- Has a query described by a server, and attaches the types. -/
def Query.describeBy (query : Query) (server : Server) : Traced Query := do
  let description ← Traced.ofExcept ((server query.sql).mapError .server)
  let types ← Traced.ofExcept description.types
  Traced.report [.described types.length]
  Traced.ofExcept (query.attach types)

/-- Reads a document and has it described. A document that cannot be read is shown to no server. -/
def Resolution.ofDocument (decode : String → Option Settings) (server : Server)
    (document : String) : Resolution :=
  let parsed := Query.parseWith decode document
  match parsed.result with
  | .ok query => ⟨some query.sql, do (← parsed).describeBy server⟩
  | .error _ => ⟨none, parsed⟩

end SqlTemplate
