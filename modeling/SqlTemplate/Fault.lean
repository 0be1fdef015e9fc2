import SqlTemplate.Parameter
import SqlTemplate.Text.Quoted

/-!
# Faults

Why a document is refused, why its parameters could not be typed, and what is said about it.
-/

namespace SqlTemplate

/-- The settings that must be identifiers. -/
inductive NameKey where
  | package
  | name
  deriving DecidableEq

def NameKey.label : NameKey → String
  | .package => "package"
  | .name => "name"

/-- Why a server did not prepare a statement. The message is its own. -/
structure ServerFailure where
  message : String
  deriving DecidableEq

inductive Fault where
  /-- The settings cannot be read, or `package` or `name` is not a string. -/
  | invalidSettings
  | invalidName (key : NameKey) (value : String)
  | tooManyParameters (count : Nat)
  | parameterTypeCount (expected actual : Nat)
  | unmatchedParameterType (ordinal : UInt16)
  /-- The server has prepared the statement, but has not told the types of its parameters. -/
  | parameterTypesUnavailable
  | server (failure : ServerFailure)
  deriving DecidableEq

def Fault.message : Fault → String
  | .invalidSettings => "Invalid configuration"
  | .invalidName key value =>
    "Invalid configuration: `" ++ key.label ++ "` must be an identifier, got " ++ Text.quoted value
  | .tooManyParameters count =>
    "Too many distinct named parameters: " ++ toString count ++ " (at most " ++
      toString maxParameters ++ ")"
  | .parameterTypeCount expected actual =>
    "Statement has " ++ toString expected ++ " named parameter(s) but the database described " ++
      toString actual
  | .unmatchedParameterType ordinal =>
    "Unable to match named parameter with prepared statement parameter $" ++ toString ordinal
  | .parameterTypesUnavailable => "Database did not describe parameter types for the statement"
  | .server failure => "Database error: " ++ failure.message

end SqlTemplate
