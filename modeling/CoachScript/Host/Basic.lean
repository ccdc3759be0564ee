import CoachScript.Host.Answer
import CoachScript.Host.Coach
import CoachScript.Text.Lowercase

/-!
# The host

The platform around the scripts: coaches, answers, metadata, handlers, and the instances of
subcoaches that are alive. Ids of coaches and instances are the same in any letter case.

* `Host.answer`, `coach`, `handlersOf`, `metadataOf`: look-ups.
* `Host.createInstance`, `removeInstance`: the books on living instances.
* `Host.Operation`, `Host.outages`: an operation that is out answers every request with a fault.
-/

namespace CoachScript

/-- Why the host refused. -/
inductive HostFault where
  | lookup (message : String)
  | rejected (operation message : String)
  | fixture (message : String)
deriving DecidableEq, Repr

/-- The wording of a fault. -/
def HostFault.message : HostFault → String
  | .lookup message => String.join ["host lookup failed: ", message]
  | .rejected operation message => String.join ["host rejected ", operation, ": ", message]
  | .fixture message => String.join ["invalid fixture: ", message]

/-- What scripts and the engine ask of the host. -/
inductive HostOperation where
  | answer
  | coach
  | handlers
  | createInstance
  | removeInstance
  | metadata
deriving DecidableEq, Repr

namespace HostOperation

/-- The name of an operation. -/
def name : HostOperation → String
  | .answer => "answer"
  | .coach => "coach_definition"
  | .handlers => "handlers"
  | .createInstance => "create_subcoach"
  | .removeInstance => "remove_subcoach"
  | .metadata => "metadata"

/-- The operation of a name. -/
def ofName? (text : String) : Option HostOperation :=
  [HostOperation.answer, .coach, .handlers, .createInstance, .removeInstance, .metadata].find?
    (·.name == text)

/-- The fault of an operation that is out: changes are rejected, look-ups fail. -/
def outage (operation : HostOperation) (message : String) : HostFault :=
  match operation with
  | .createInstance | .removeInstance => .rejected operation.name message
  | _ => .lookup message

end HostOperation

/-- The host. Of two entries with one key the first counts. -/
structure Host where
  coaches : List (String × Coach)
  answers : List ((String × String) × Answer)
  metadata : List ((String × String × String) × String)
  handlers : List (String × List String)
  /-- Pairs of a coach and the name of its instance, each once. -/
  instances : List (String × String)
  outages : List (HostOperation × String)

namespace Host

/-- A host that knows nothing. -/
def empty : Host := ⟨[], [], [], [], [], []⟩

instance : EmptyCollection Host := ⟨empty⟩

/-! ### Furnishing -/

/-- Adds a coach; it replaces one of its id. -/
def addCoach (h : Host) (c : Coach) : Host :=
  { h with coaches := (lowercase c.id, c) :: h.coaches }

/-- Stores an answer. -/
def setAnswer (h : Host) (instanceId question : String) (a : Answer) : Host :=
  { h with answers := ((lowercase instanceId, question), a) :: h.answers }

/-- Removes an answer. -/
def clearAnswer (h : Host) (instanceId question : String) : Host :=
  { h with answers := h.answers.filter (·.1 != (lowercase instanceId, question)) }

/-- Stores a piece of metadata. -/
def setMetadata (h : Host) (instanceId group key value : String) : Host :=
  { h with metadata := ((lowercase instanceId, group, key), value) :: h.metadata }

/-- Stores the names of a coach's handlers. -/
def setHandlers (h : Host) (coachId : String) (names : List String) : Host :=
  { h with handlers := (lowercase coachId, names) :: h.handlers }

/-- Puts an operation out, or has it work again. -/
def setOutage (h : Host) (operation : HostOperation) (message? : Option String) : Host :=
  let others := h.outages.filter (·.1 != operation)
  { h with outages := message?.elim others fun message => (operation, message) :: others }

/-! ### Asking -/

/-- Passes only if the operation is not out. -/
def guard (h : Host) (operation : HostOperation) : Except HostFault Unit :=
  match h.outages.lookup operation with
  | some message => .error (operation.outage message)
  | none => .ok ()

/-- The coach of an id, whatever is out. -/
def coach? (h : Host) (coachId : String) : Option Coach := h.coaches.lookup (lowercase coachId)

/-- The coach of an id. -/
def coach (h : Host) (coachId : String) : Except HostFault (Option Coach) :=
  (h.guard .coach).map fun _ => h.coach? coachId

/-- The stored answer to a question. -/
def answer (h : Host) (instanceId question : String) : Except HostFault (Option Answer) :=
  (h.guard .answer).map fun _ => h.answers.lookup (lowercase instanceId, question)

/-- The names of a coach's handlers. -/
def handlersOf (h : Host) (coachId : String) : Except HostFault (List String) :=
  (h.guard .handlers).map fun _ => (h.handlers.lookup (lowercase coachId)).getD []

/-- A piece of metadata. -/
def metadataOf (h : Host) (instanceId group key : String) : Except HostFault (Option String) :=
  (h.guard .metadata).map fun _ => h.metadata.lookup (lowercase instanceId, group, key)

/-- Notes that an instance of a coach lives; the coach has to be known. -/
def createInstance (h : Host) (coachId instanceName : String) : Except HostFault Host := do
  h.guard .createInstance
  match h.coach? coachId with
  | none =>
    throw (.rejected HostOperation.createInstance.name (String.join ["unknown coach ", coachId]))
  | some _ =>
    pure { h with instances := h.instances.insert (lowercase coachId, lowercase instanceName) }

/-- Notes that an instance of a coach lives no longer. -/
def removeInstance (h : Host) (coachId instanceName : String) : Except HostFault Host := do
  h.guard .removeInstance
  pure { h with
    instances := h.instances.filter (· != (lowercase coachId, lowercase instanceName)) }

/-- The living instances, in order. -/
def sortedInstances (h : Host) : List (String × String) :=
  h.instances.mergeSort fun x y => x.1 < y.1 || (x.1 == y.1 && decide (x.2 ≤ y.2))

end Host

end CoachScript
