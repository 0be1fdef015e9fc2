import SqlTemplate.Query

/-!
# Listings

What is printed about a query: its name, the names of its parameters, and the statement, with the
findings as warnings on a channel of their own.
-/

namespace SqlTemplate

namespace Query

/-- The lines above the statement. -/
def headerLines (query : Query) : List String :=
  (if query.name.isEmpty then [] else ["-- " ++ query.name]) ++
    query.parameters.map fun p => "-- $" ++ toString p.ordinal ++ ": " ++ p.name

def listingLines (query : Query) : List String :=
  query.headerLines ++ [query.sql]

def warningLines (query : Query) : List String :=
  query.findings.map fun finding => "warning: " ++ finding.message

end Query

def joinLines (lines : List String) : String :=
  String.join (lines.map (· ++ "\n"))

/-- What a run leaves behind. -/
structure Listing where
  exitCode : UInt32
  stdout : String
  /-- The warnings. A run that fails reports its failure instead, in words that are left open. -/
  stderr : Option String
  deriving DecidableEq

def Listing.failure : Listing :=
  ⟨1, "", none⟩

/-- Lists the query in a document that is given by its bytes, its settings read with the given
decoder. Nothing is listed unless the whole document can be read. -/
def Listing.ofBytes (decode : String → Option Settings) (bytes : ByteArray) : Listing :=
  match String.fromUTF8? bytes with
  | none => failure
  | some document =>
    match (Query.parseWith decode document).result with
    | .error _ => failure
    | .ok query => ⟨0, joinLines query.listingLines, some (joinLines query.warningLines)⟩

end SqlTemplate
