import RecordQuery.Table.Connection
import RecordQuery.Table.TypeDefinition

/-!
# Sessions

A session has any number of connections. A record type is registered on one of them or shared by
all: whenever a connection prepares a statement, it takes over the shared types whose names it does
not know.
-/

namespace RecordQuery

/-- The connections by number, and the record types they share. -/
structure Session where
  shared : TypeRegistry
  connections : List Connection

/-- The record type of a schema that a host program describes. -/
def RecordType.ofSchema (name : String) (schema : Schema) : TableResult RecordType :=
  match schema.record? with
  | some type => .ok type
  | none => .error (.argument (.notRecord name schema))

/-- The record type that a registration gives to its name. The definition `?` stands for the type
of the first argument. -/
def Sql.Registration.type (registration : Sql.Registration) (args : List Value) :
    TableResult RecordType :=
  let definition := Text.trim registration.definition
  if definition == "?" then
    match args.head? with
    | some sample => RecordType.ofSample registration.name sample
    | none => .error (.argument (.missingSample registration.name))
  else RecordType.ofDefinition registration.name definition

namespace Session

def empty : Session := ⟨.empty, []⟩

/-- Opens one more connection to the directory that a data source name names. It has the next
number. -/
def connect (session : Session) (files : Files) (name : String) (options : TableOptions) :
    TableResult (Connection × Session) := do
  let connection ← Connection.connect files name options
  return (connection, { session with connections := session.connections ++ [connection] })

/-- Changes one connection. -/
def update (session : Session) (number : Nat) (change : Connection → Connection) : Session :=
  { session with connections := session.connections.modify number change }

/-- Registers a record type on one connection. -/
def register (session : Session) (number : Nat) (name : String) (type : RecordType) : Session :=
  session.update number (·.register name type)

/-- Registers a record type for all connections. -/
def share (session : Session) (name : String) (type : RecordType) : Session :=
  { session with shared := session.shared.register name type }

/-- Prepares a statement on a connection, which takes over the shared types even if the statement
is refused. -/
def prepare (session : Session) (number : Nat) (sql : String) : TableResult Prepared × Session :=
  (Prepared.ofText sql, session.update number (·.adopt session.shared))

/-- Runs a registration on a connection. -/
def execute (session : Session) (number : Nat) (prepared : Prepared) (args : List Value) :
    TableResult Session :=
  match prepared.statement with
  | .select _ => .error (.statement .selectIsQueried)
  | .register registration => do
      let type ← registration.type args
      let session :=
        if registration.everywhere then session.share registration.name type else session
      return session.register number registration.name type

end Session

end RecordQuery
