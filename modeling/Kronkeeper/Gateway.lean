import Mathlib.Data.List.Perm.Basic
import Kronkeeper.TenantIntegrity

namespace Kronkeeper

/-!
# The front door

`require_api_key` of `src/api/middleware/auth.rs` in front of the job handlers.
The keys are read from `clients` once, when the process starts; who is behind a
key, and whether it is known at all, is looked up in that copy from then on.
The rows of `clients` are written by operators, outside the daemon.
-/

/-- A row of `clients`, as far as the daemon reads it. -/
structure Client where
  id : Uuid
  apiKey : String
  deriving Repr, DecidableEq

/-- `clients` with its primary key and its unique column. -/
structure ClientTable where
  rows : List Client
  idsNodup : (rows.map Client.id).Nodup
  keysNodup : (rows.map Client.apiKey).Nodup

namespace ClientTable

/-- There is a client with this id. -/
def Registered (clients : ClientTable) (id : Uuid) : Prop :=
  ∃ client ∈ clients.rows, client.id = id

instance (clients : ClientTable) (id : Uuid) :
    Decidable (clients.Registered id) :=
  inferInstanceAs (Decidable (∃ client ∈ clients.rows, client.id = id))

/-- `REFERENCES clients(id)` holds of the row. -/
def Admits (clients : ClientTable) (row : Job) : Prop :=
  ∀ id ∈ row.clientId, clients.Registered id

instance (clients : ClientTable) (row : Job) :
    Decidable (clients.Admits row) :=
  row.clientId.decidableForallMem

/-- The client with this id has this key. -/
def HasKey (clients : ClientTable) (key : String) (id : Uuid) : Prop :=
  ∃ client ∈ clients.rows, client.apiKey = key ∧ client.id = id

end ClientTable

/--
`load_api_keys` of the repository may answer `fetched`: every client, in any
order.
-/
def JobRepository.LoadApiKeys
    (clients : ClientTable)
    (fetched : List (String × Uuid)) : Prop :=
  fetched.Perm (clients.rows.map fun client => (client.apiKey, client.id))

instance (clients : ClientTable) (fetched : List (String × Uuid)) :
    Decidable (JobRepository.LoadApiKeys clients fetched) :=
  inferInstanceAs (Decidable (List.Perm _ _))

/-- The map of `AuthState`. -/
abbrev ApiKeys :=
  String → Option Uuid

/-- `load_api_keys` of the middleware: one `insert` after the other. -/
def loadApiKeys (fetched : List (String × Uuid)) : ApiKeys :=
  fetched.foldl
    (fun map entry => Function.update map entry.1 (some entry.2))
    (fun _ => none)

/-- The bytes `HeaderValue::to_str` lets through. -/
def isVisibleAscii (byte : UInt8) : Bool :=
  (32 ≤ byte && byte < 127) || byte == 9

/-- `HeaderValue::to_str`. -/
def headerText? (value : List UInt8) : Option String :=
  if value.all isVisibleAscii then
    some (String.ofList (value.map fun byte => Char.ofNat byte.toNat))
  else
    none

/-- Why a request is turned away. -/
inductive Refusal where
  | missingKey
  | invalidKey
  deriving Repr, DecidableEq

namespace Refusal

def status (_ : Refusal) : Nat :=
  401

def text : Refusal → String
  | .missingKey => "missing X-API-Key header"
  | .invalidKey => "invalid API key"

end Refusal

/-- A route of the job API with what its extractors have read. -/
inductive Endpoint where
  | createJob (req : CreateJobRequest)
  | getJob (id : Uuid)
  | cancelJob (id : Uuid)
  | patchJob (id : Uuid) (req : PatchJobRequest)
  deriving Repr, DecidableEq

/-- What the handler is called with. -/
def Endpoint.request (clientId : Uuid) : Endpoint → Request
  | .createJob req => .createJob clientId req
  | .getJob id => .getJob clientId id
  | .cancelJob id => .cancelJob clientId id
  | .patchJob id req => .patchJob clientId id req

structure HttpRequest where
  /-- The first `X-API-Key` header. -/
  apiKey : Option (List UInt8)
  endpoint : Endpoint
  deriving Repr, DecidableEq

/-- `require_api_key` up to `next.run`. -/
def requireApiKey
    (apiKeys : ApiKeys)
    (request : HttpRequest) : Except Refusal Uuid :=
  match request.apiKey.bind headerText? with
  | none => .error .missingKey
  | some key =>
      match apiKeys key with
      | none => .error .invalidKey
      | some clientId => .ok clientId

/-- The daemon behind its middleware, over the table of the clients. -/
structure Gateway (config : Config) (slots : Nat) where
  daemon : State config slots
  clients : ClientTable
  /-- Absent until `main` has loaded the keys; nothing is served before. -/
  apiKeys : Option ApiKeys

inductive GatewayAction (config : Config) (slots : Nat) where
  | daemon (action : Action config slots)
  | loadApiKeys (fetched : List (String × Uuid))
  | http (slot : Fin slots) (request : HttpRequest)
  /-- Operators change `clients`. -/
  | administer (clients : ClientTable)

namespace Gateway

variable {config : Config} {slots : Nat}

/-- The first start. -/
def initial
    (config : Config)
    (slots : Nat)
    (clock : Time)
    (clients : ClientTable) : Gateway config slots where
  daemon := .initial config slots clock
  clients := clients
  apiKeys := none

/-- The row the step inserts, if any, belongs to a registered client. -/
def AdmitsInsert
    (externals : Externals)
    (gateway : Gateway config slots)
    (action : Action config slots) : Prop :=
  ∀ row ∈ gateway.daemon.insertedRow? externals action,
    gateway.clients.Admits row

instance
    (externals : Externals)
    (gateway : Gateway config slots)
    (action : Action config slots) :
    Decidable (gateway.AdmitsInsert externals action) :=
  (gateway.daemon.insertedRow? externals action).decidableForallMem

/-- The keys are gone with the process. -/
def keysAfter
    (gateway : Gateway config slots) :
    Action config slots → Option ApiKeys
  | .restart => none
  | _ => gateway.apiKeys

def step?
    (externals : Externals)
    (gateway : Gateway config slots) :
    GatewayAction config slots → Option (Gateway config slots)
  -- Requests arrive through the middleware only.
  | .daemon (.api _ (.arrive _)) => none
  | .daemon action =>
      if gateway.AdmitsInsert externals action then
        (State.step? externals gateway.daemon action).map fun daemon =>
          { gateway with
            daemon := daemon
            apiKeys := gateway.keysAfter action }
      else
        none
  | .loadApiKeys fetched =>
      if gateway.apiKeys.isNone ∧
          JobRepository.LoadApiKeys gateway.clients fetched then
        some { gateway with apiKeys := some (loadApiKeys fetched) }
      else
        none
  | .http slot request =>
      match gateway.apiKeys with
      | none => none
      | some apiKeys =>
          match requireApiKey apiKeys request with
          | .error _ => some gateway
          | .ok clientId =>
              (State.step? externals gateway.daemon
                (.api slot
                  (.arrive (request.endpoint.request clientId)))).map
                fun daemon => { gateway with daemon := daemon }
  | .administer clients =>
      if ∀ row ∈ gateway.daemon.jobs.rows, clients.Admits row then
        some { gateway with clients := clients }
      else
        none

abbrev Run
    (externals : Externals) :
    Gateway config slots → List (GatewayAction config slots) →
      Gateway config slots → Prop :=
  TransitionSystem.Run (step? externals) TransitionSystem.Unrestricted

end Gateway

/-! ## The keys -/

/-- Inserting entries with distinct keys makes a map that knows them all. -/
theorem foldl_update_eq_some_iff
    {Key Value : Type}
    [DecidableEq Key]
    {entries : List (Key × Value)}
    (nodup : (entries.map Prod.fst).Nodup)
    (map : Key → Option Value)
    {key : Key}
    {value : Value} :
    (entries.foldl
            (fun map entry => Function.update map entry.1 (some entry.2))
            map : Key → Option Value) key =
        some value ↔
      (key, value) ∈ entries ∨
        key ∉ entries.map Prod.fst ∧ map key = some value := by
  induction entries generalizing map with
  | nil =>
      simp
  | cons entry rest inductionHypothesis =>
      obtain ⟨first, second⟩ := entry
      rw [List.map_cons, List.nodup_cons] at nodup
      rw [List.foldl_cons, inductionHypothesis nodup.2]
      by_cases same : key = first
      · subst same
        have notLater : (key, value) ∉ rest :=
          fun member =>
            nodup.1 (List.mem_map.mpr ⟨(key, value), member, rfl⟩)
        simp [notLater, nodup.1, eq_comm]
      · simp [same]

/-- The map answers as the table did, in whatever order the rows came. -/
theorem loadApiKeys_eq_some_iff
    {clients : ClientTable}
    {fetched : List (String × Uuid)}
    (answers : JobRepository.LoadApiKeys clients fetched)
    {key : String}
    {id : Uuid} :
    loadApiKeys fetched key = some id ↔ clients.HasKey key id := by
  have nodup : (fetched.map Prod.fst).Nodup := by
    rw [(answers.map Prod.fst).nodup_iff]
    simpa [Function.comp_def] using clients.keysNodup
  have known : (key, id) ∈ fetched ↔ clients.HasKey key id := by
    rw [answers.mem_iff]
    simp [ClientTable.HasKey]
  unfold loadApiKeys
  rw [foldl_update_eq_some_iff nodup, known]
  simp

/-! ## Steps -/

namespace Gateway

variable {config : Config} {slots : Nat}
variable {externals : Externals}
variable {gateway after : Gateway config slots}
variable {action : GatewayAction config slots}

/-- The client a request comes from, as the running process sees it. -/
def clientOf? (gateway : Gateway config slots) (request : HttpRequest) :
    Option Uuid :=
  match gateway.apiKeys with
  | none => none
  | some apiKeys =>
      match requireApiKey apiKeys request with
      | .error _ => none
      | .ok clientId => some clientId

/-- The moves of the gateway. -/
inductive Move
    (externals : Externals)
    (gateway : Gateway config slots) :
    GatewayAction config slots → Gateway config slots → Prop where
  | daemon
      (own : Action config slots)
      (daemon : State config slots)
      (notArrival : ∀ slot request, own ≠ .api slot (.arrive request))
      (admits : gateway.AdmitsInsert externals own)
      (taken : State.step? externals gateway.daemon own = some daemon) :
      Move externals gateway (.daemon own)
        { gateway with
          daemon := daemon
          apiKeys := gateway.keysAfter own }
  | load
      (fetched : List (String × Uuid))
      (notYet : gateway.apiKeys = none)
      (answers : JobRepository.LoadApiKeys gateway.clients fetched) :
      Move externals gateway (.loadApiKeys fetched)
        { gateway with apiKeys := some (loadApiKeys fetched) }
  | refuse
      (slot : Fin slots)
      (request : HttpRequest)
      (unknown : gateway.clientOf? request = none) :
      Move externals gateway (.http slot request) gateway
  | accept
      (slot : Fin slots)
      (request : HttpRequest)
      (clientId : Uuid)
      (daemon : State config slots)
      (isClient : gateway.clientOf? request = some clientId)
      (taken :
        State.step? externals gateway.daemon
            (.api slot (.arrive (request.endpoint.request clientId))) =
          some daemon) :
      Move externals gateway (.http slot request)
        { gateway with daemon := daemon }
  | administer
      (clients : ClientTable)
      (admits : ∀ row ∈ gateway.daemon.jobs.rows, clients.Admits row) :
      Move externals gateway (.administer clients)
        { gateway with clients := clients }

theorem move_of_step?
    (taken : step? externals gateway action = some after) :
    gateway.Move externals action after := by
  unfold step? at taken
  split at taken
  · cases taken
  · rename_i own notArrival
    split at taken
    · rename_i admits
      obtain ⟨daemon, daemonTaken, rfl⟩ := Option.map_eq_some_iff.mp taken
      refine .daemon own daemon ?_ admits daemonTaken
      intro slot request same
      exact notArrival slot request same
    · cases taken
  · rename_i fetched
    split at taken
    · rename_i both
      cases taken
      exact .load fetched (Option.isNone_iff_eq_none.mp both.1) both.2
    · cases taken
  · rename_i slot request
    split at taken
    · cases taken
    · rename_i apiKeys loaded
      split at taken
      · rename_i refusal refused
        cases taken
        exact .refuse slot request (by simp [clientOf?, loaded, refused])
      · rename_i clientId accepted
        obtain ⟨daemon, daemonTaken, rfl⟩ :=
          Option.map_eq_some_iff.mp taken
        exact .accept slot request clientId daemon
          (by simp [clientOf?, loaded, accepted]) daemonTaken
  · split at taken
    · rename_i admits
      cases taken
      exact .administer _ admits
    · cases taken

/-- The daemon makes a step of its own or none. -/
theorem daemon_of_step?
    (taken : step? externals gateway action = some after) :
    after.daemon = gateway.daemon ∨
      ∃ own,
        State.step? externals gateway.daemon own = some after.daemon := by
  cases move_of_step? taken with
  | daemon own daemon _ _ daemonTaken =>
      exact Or.inr ⟨own, daemonTaken⟩
  | accept slot request clientId daemon _ daemonTaken =>
      exact Or.inr ⟨_, daemonTaken⟩
  | load | refuse | administer =>
      exact Or.inl rfl

/-- What every step of the daemon keeps, every step of the gateway keeps. -/
theorem kept_of_step?
    {Holds : State config slots → Prop}
    (preserved :
      ∀ {before after : State config slots} {own : Action config slots},
        Holds before →
        State.step? externals before own = some after →
        Holds after)
    (holds : Holds gateway.daemon)
    (taken : step? externals gateway action = some after) :
    Holds after.daemon := by
  rcases daemon_of_step? taken with same | ⟨own, daemonTaken⟩
  · rw [same]
    exact holds
  · exact preserved holds daemonTaken

/-- Whoever is let in has presented a key that the process knows. -/
theorem key_of_clientOf?
    {request : HttpRequest}
    {clientId : Uuid}
    (isClient : gateway.clientOf? request = some clientId) :
    ∃ apiKeys header key,
      gateway.apiKeys = some apiKeys ∧
        request.apiKey = some header ∧
        headerText? header = some key ∧
        apiKeys key = some clientId := by
  unfold clientOf? at isClient
  split at isClient
  · cases isClient
  · rename_i apiKeys loaded
    split at isClient
    · cases isClient
    · rename_i accepted
      cases isClient
      unfold requireApiKey at accepted
      split at accepted
      · cases accepted
      · rename_i key isKey
        split at accepted
        · cases accepted
        · rename_i known
          cases accepted
          obtain ⟨header, isHeader, isText⟩ :=
            Option.bind_eq_some_iff.mp isKey
          exact ⟨apiKeys, header, key, loaded, isHeader, isText, known⟩

end Gateway

end Kronkeeper
