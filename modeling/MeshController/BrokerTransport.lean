import MeshController.BrokerWorker

/-!
# Address and transport of a broker connection

`run_broker` writes the address of the broker from the protocol alone, and
`build_transport` chooses the transport, from the certificate files, only when
TLS is enabled.  Whatever the files hold, the worker either stops with an error
or connects with options in which the two agree.
-/

namespace MeshController

/-- `simple` trusts one authority, `platform` the store of the system. -/
inductive TlsConfiguration where
  | simple (ca : List UInt8) (clientAuth : Option (List UInt8 × List UInt8))
  | platform
deriving DecidableEq

inductive Transport where
  | tcp
  | tls (config : TlsConfiguration)
  | ws
  | wss (config : TlsConfiguration)
deriving DecidableEq

def TlsConfiguration.clientAuth :
    TlsConfiguration → Option (List UInt8 × List UInt8)
  | .simple _ clientAuth => clientAuth
  | .platform => none

namespace Transport

/-- The address is read as a URL. -/
def overWebsocket : Transport → Bool
  | .tcp | .tls _ => false
  | .ws | .wss _ => true

def tlsConfiguration : Transport → Option TlsConfiguration
  | .tcp | .ws => none
  | .tls config | .wss config => some config

def encrypted (transport : Transport) : Bool :=
  transport.tlsConfiguration.isSome

def clientAuth (transport : Transport) : Option (List UInt8 × List UInt8) :=
  transport.tlsConfiguration.bind TlsConfiguration.clientAuth

end Transport

structure MqttOptions where
  clientId : String
  brokerAddr : String
  port : UInt16
  keepAliveSecs : ℕ
  credentials : Option (String × String)
  transport : Transport
  lastWill : Option MqttMessage
deriving DecidableEq

/-- A connection over plain TCP, until a transport is set. -/
def MqttOptions.new (clientId host : String) (port : UInt16) :
    MqttOptions where
  clientId := clientId
  brokerAddr := host
  port := port
  keepAliveSecs := 60
  credentials := none
  transport := .tcp
  lastWill := none

/-- What the worker meets while it builds its options. -/
structure BrokerEnvironment where
  processId : ℕ
  waitedSelfInfo : Option SelfInfoDto
  signedCredentials : Except String (String × String)
  readFile : String → Except String (List UInt8)
  view : WorkerView

/-- The path in front of what went wrong with it. -/
def readConfigured (readFile : String → Except String (List UInt8))
    (field path : String) : Except String (List UInt8) :=
  (readFile path).mapError fun err =>
    "reading " ++ field ++ " " ++ path ++ ": " ++ err

def buildClientAuth (config : MqttBrokerConfig)
    (readFile : String → Except String (List UInt8)) :
    Except String (Option (List UInt8 × List UInt8)) :=
  match config.tlsClientCert, config.tlsClientKey with
  | some certPath, some keyPath => do
      let cert ← readConfigured readFile "tls_client_cert" certPath
      let key ← readConfigured readFile "tls_client_key" keyPath
      pure (some (cert, key))
  | none, none => pure none
  | _, _ =>
      throw "tls_client_cert and tls_client_key must both be set, or neither"

/-- The last `match` of `build_transport`, whose branches differ in the
protocol only. -/
def buildTlsConfiguration (config : MqttBrokerConfig)
    (readFile : String → Except String (List UInt8))
    (clientAuth : Option (List UInt8 × List UInt8)) :
    Except String TlsConfiguration :=
  match config.tlsCaCert with
  | some caPath => do
      let ca ← readConfigured readFile "tls_ca_cert" caPath
      pure (.simple ca clientAuth)
  | none =>
      if clientAuth.isSome then
        throw ("tls_ca_cert is required when " ++
          "tls_client_cert/tls_client_key are set")
      else pure .platform

def buildTransport (config : MqttBrokerConfig)
    (readFile : String → Except String (List UInt8)) :
    Except String Transport := do
  let clientAuth ← buildClientAuth config readFile
  let tls ← buildTlsConfiguration config readFile clientAuth
  pure (if config.transportProtocol = .websocket then .wss tls else .tls tls)

def brokerAddr (config : MqttBrokerConfig) : String :=
  match config.transportProtocol with
  | .tcp => config.host
  | .websocket =>
      (if config.tlsEnabled then "wss" else "ws") ++ "://" ++ config.host ++
        ":" ++ toString config.port.toNat ++ config.websocketPath

def brokerCredentials (config : MqttBrokerConfig) (env : BrokerEnvironment) :
    Except String (Option (String × String)) :=
  match config.authMethod with
  | .device =>
      match env.waitedSelfInfo with
      | none =>
          throw ("timed out waiting for mesh connection to build " ++
            "device-signed auth credentials")
      | some _ => env.signedCredentials.map some
  | .passwd =>
      pure (config.username.bind fun username =>
        config.password.map fun password => (username, password))
  | .none => pure none

def brokerOptions (config : MqttBrokerConfig) (env : BrokerEnvironment) :
    Except String MqttOptions := do
  let options := MqttOptions.new
    ("fez-mesh-controller-" ++ config.name ++ "-" ++ toString env.processId)
    (brokerAddr config) config.port
  let credentials ← brokerCredentials config env
  let transport ←
    if config.tlsEnabled then buildTransport config env.readFile
    else pure options.transport
  pure { options with
    credentials := credentials
    transport := transport
    lastWill := lastWill config env.view }

/-- The status the worker sets when its options are done, and the options it
connects with unless it stops. -/
def runBroker (config : MqttBrokerConfig) (env : BrokerEnvironment) :
    MqttBrokerStatus × Option MqttOptions :=
  match brokerOptions config env with
  | .error reason => (.error reason, none)
  | .ok options => (.connecting, some options)

/-! ## The options of a started worker -/

def errorOf {α : Type} : Except String α → Option String
  | .error reason => some reason
  | .ok _ => none

def BrokerEnvironment.startup
    (env : BrokerEnvironment) (config : MqttBrokerConfig) :
    BrokerStartup where
  waitedSelfInfo := env.waitedSelfInfo
  credentialsError := errorOf env.signedCredentials
  transportError := errorOf (buildTransport config env.readFile)
  view := env.view

theorem errorOf_bind {α β : Type} (first : Except String α)
    (next : α → Except String β) :
    errorOf (first >>= next) =
      match first with
      | .error reason => some reason
      | .ok value => errorOf (next value) := by
  cases first <;> rfl

theorem startupError_eq_or
    (config : MqttBrokerConfig) (env : BrokerEnvironment) :
    BrokerWorker.startupError config (env.startup config) =
      (errorOf (brokerCredentials config env)).or
        (if config.tlsEnabled then
          errorOf (buildTransport config env.readFile)
        else none) := by
  unfold BrokerWorker.startupError brokerCredentials
  cases config.authMethod with
  | device =>
      simp only [BrokerEnvironment.startup, if_true]
      cases env.waitedSelfInfo with
      | none => rfl
      | some selfInfo => cases env.signedCredentials <;> rfl
  | passwd => rfl
  | none => rfl

/-- The worker stops for the reason its options could not be built. -/
theorem startupError_startup
    (config : MqttBrokerConfig) (env : BrokerEnvironment) :
    BrokerWorker.startupError config (env.startup config) =
      errorOf (brokerOptions config env) := by
  rw [startupError_eq_or, brokerOptions, errorOf_bind]
  cases brokerCredentials config env with
  | error reason => rfl
  | ok credentials =>
      simp only [errorOf, Option.none_or]
      cases config.tlsEnabled with
      | false => rfl
      | true =>
          simp only [if_true]
          cases buildTransport config env.readFile <;> rfl

/-! ## Agreement -/

/-- The transport is the one the address is for, unless the broker is reached
over a WebSocket without TLS: no transport is set for that. -/
structure ConnectionAgrees
    (config : MqttBrokerConfig) (options : MqttOptions) : Prop where
  host : config.transportProtocol = .tcp → options.brokerAddr = config.host
  url : config.transportProtocol = .websocket →
    options.brokerAddr =
      (if config.tlsEnabled then "wss://" else "ws://") ++ config.host ++
        ":" ++ toString config.port.toNat ++ config.websocketPath
  overWebsocket : config.transportProtocol = .tcp ∨ config.tlsEnabled →
    (options.transport.overWebsocket ↔ config.transportProtocol = .websocket)
  encrypted : options.transport.encrypted ↔ config.tlsEnabled
  clientAuth : options.transport.clientAuth.isSome ↔
    config.tlsEnabled ∧ config.tlsClientCert.isSome ∧
      config.tlsClientKey.isSome

section Built

variable {config : MqttBrokerConfig}

theorem brokerAddr_of_tcp (htcp : config.transportProtocol = .tcp) :
    brokerAddr config = config.host := by
  rw [brokerAddr, htcp]

theorem brokerAddr_of_websocket
    (hwebsocket : config.transportProtocol = .websocket) :
    brokerAddr config =
      (if config.tlsEnabled then "wss://" else "ws://") ++ config.host ++
        ":" ++ toString config.port.toNat ++ config.websocketPath := by
  rw [brokerAddr, hwebsocket]
  cases config.tlsEnabled <;> rfl

theorem bind_eq_ok_iff {α β : Type} {first : Except String α}
    {next : α → Except String β} {result : β} :
    first >>= next = .ok result ↔
      ∃ value, first = .ok value ∧ next value = .ok result := by
  cases first with
  | error reason => exact iff_of_false (by rintro ⟨⟩) (by rintro ⟨_, ⟨⟩, _⟩)
  | ok value =>
      constructor
      · intro hnext
        exact ⟨value, rfl, hnext⟩
      · rintro ⟨_, ⟨⟩, hnext⟩
        exact hnext

theorem buildClientAuth_isSome
    {readFile : String → Except String (List UInt8)}
    {auth : Option (List UInt8 × List UInt8)}
    (hbuilt : buildClientAuth config readFile = .ok auth) :
    auth.isSome ↔
      config.tlsClientCert.isSome ∧ config.tlsClientKey.isSome := by
  unfold buildClientAuth at hbuilt
  split at hbuilt
  next certPath keyPath hcert hkey =>
    rw [bind_eq_ok_iff] at hbuilt
    rcases hbuilt with ⟨cert, _, hbuilt⟩
    rw [bind_eq_ok_iff] at hbuilt
    rcases hbuilt with ⟨key, _, ⟨⟩⟩
    simp [hcert, hkey]
  next hcert hkey =>
    cases hbuilt
    simp [hcert]
  next => cases hbuilt

theorem buildTlsConfiguration_clientAuth
    {readFile : String → Except String (List UInt8)}
    {auth : Option (List UInt8 × List UInt8)} {tls : TlsConfiguration}
    (hbuilt : buildTlsConfiguration config readFile auth = .ok tls) :
    tls.clientAuth = auth := by
  unfold buildTlsConfiguration at hbuilt
  split at hbuilt
  · rw [bind_eq_ok_iff] at hbuilt
    rcases hbuilt with ⟨ca, _, ⟨⟩⟩
    rfl
  · split at hbuilt
    · cases hbuilt
    · rename_i hnone
      cases hbuilt
      exact (Option.not_isSome_iff_eq_none.mp hnone).symm

theorem buildTransport_cases
    {readFile : String → Except String (List UInt8)} {transport : Transport}
    (hbuilt : buildTransport config readFile = .ok transport) :
    ∃ tls : TlsConfiguration,
      (tls.clientAuth.isSome ↔
        config.tlsClientCert.isSome ∧ config.tlsClientKey.isSome) ∧
      transport =
        if config.transportProtocol = .websocket then .wss tls
        else .tls tls := by
  unfold buildTransport at hbuilt
  rw [bind_eq_ok_iff] at hbuilt
  rcases hbuilt with ⟨auth, hauth, hbuilt⟩
  rw [bind_eq_ok_iff] at hbuilt
  rcases hbuilt with ⟨tls, htls, ⟨⟩⟩
  use tls
  constructor
  · rw [buildTlsConfiguration_clientAuth htls]
    exact buildClientAuth_isSome hauth
  · rfl

theorem agrees_of_buildTransport
    {readFile : String → Except String (List UInt8)} {options : MqttOptions}
    (htls : config.tlsEnabled)
    (hbuilt : buildTransport config readFile = .ok options.transport)
    (haddr : options.brokerAddr = brokerAddr config) :
    ConnectionAgrees config options := by
  rcases buildTransport_cases hbuilt with ⟨tls, hauth, htransport⟩
  constructor
  · exact fun htcp => haddr.trans (brokerAddr_of_tcp htcp)
  · exact fun hwebsocket => haddr.trans (brokerAddr_of_websocket hwebsocket)
  · intro _
    rw [htransport]
    split
    · rename_i hwebsocket
      exact iff_of_true rfl hwebsocket
    · rename_i htcp
      exact iff_of_false Bool.false_ne_true htcp
  · rw [htransport]
    refine iff_of_true ?_ htls
    split <;> rfl
  · rw [htransport, ← hauth]
    split <;> simp [Transport.clientAuth, Transport.tlsConfiguration, htls]

theorem agrees_of_no_transport {options : MqttOptions}
    (htls : ¬config.tlsEnabled) (htransport : options.transport = .tcp)
    (haddr : options.brokerAddr = brokerAddr config) :
    ConnectionAgrees config options := by
  constructor
  · exact fun htcp => haddr.trans (brokerAddr_of_tcp htcp)
  · exact fun hwebsocket => haddr.trans (brokerAddr_of_websocket hwebsocket)
  · rintro (htcp | hon)
    · rw [htransport, htcp]
      exact iff_of_false Bool.false_ne_true (by decide)
    · exact absurd hon htls
  · rw [htransport]
    exact iff_of_false Bool.false_ne_true htls
  · rw [htransport]
    exact iff_of_false Bool.false_ne_true fun hauth => htls hauth.1

theorem agrees_of_brokerOptions
    {env : BrokerEnvironment} {options : MqttOptions}
    (hbuilt : brokerOptions config env = .ok options) :
    ConnectionAgrees config options := by
  unfold brokerOptions at hbuilt
  rw [bind_eq_ok_iff] at hbuilt
  rcases hbuilt with ⟨credentials, _, hbuilt⟩
  by_cases htls : config.tlsEnabled
  · rw [if_pos htls, bind_eq_ok_iff] at hbuilt
    rcases hbuilt with ⟨transport, htransport, ⟨⟩⟩
    exact agrees_of_buildTransport htls htransport rfl
  · rw [if_neg htls, bind_eq_ok_iff] at hbuilt
    rcases hbuilt with ⟨transport, ⟨⟩, ⟨⟩⟩
    exact agrees_of_no_transport htls rfl rfl

end Built

/-- The worker stops with an error, or its options agree with each other. -/
theorem stops_or_connection_agrees
    (config : MqttBrokerConfig) (env : BrokerEnvironment) :
    (∃ reason, runBroker config env = (.error reason, none)) ∨
      ∃ options, runBroker config env = (.connecting, some options) ∧
        ConnectionAgrees config options := by
  cases hbuilt : brokerOptions config env with
  | error reason =>
      left
      use reason
      rw [runBroker, hbuilt]
  | ok options =>
      right
      use options
      rw [runBroker, hbuilt]
      exact ⟨rfl, agrees_of_brokerOptions hbuilt⟩

/-- Every certificate file is missing. -/
def bareEnvironment : BrokerEnvironment where
  processId := 1
  waitedSelfInfo := none
  signedCredentials := .error "mesh connection task is not running"
  readFile := fun _ => .error "No such file or directory (os error 2)"
  view := {
    selfInfo := none
    meshConnected := false
    deviceInfo := none
    nodeStats := none
    now := 0 }

def mutualTlsBroker : MqttBrokerConfig :=
  { MqttBrokerConfig.withDefaults "lan" "broker.lan" with
    tlsClientCert := some "client.pem"
    tlsClientKey := some "client.key" }

def plainWebsocketBroker : MqttBrokerConfig :=
  { MqttBrokerConfig.withDefaults "lan" "broker.lan" with
    transportProtocol := .websocket }

/-- Client files are not looked at while TLS is off, and a plain WebSocket URL
is given to a TCP transport. -/
theorem connects_without_transport :
    (∃ options,
        runBroker mutualTlsBroker bareEnvironment =
          (.connecting, some options) ∧
        mutualTlsBroker.tlsClientCert.isSome ∧
        mutualTlsBroker.tlsClientKey.isSome ∧
        options.transport.clientAuth = none) ∧
      ∃ options,
        runBroker plainWebsocketBroker bareEnvironment =
          (.connecting, some options) ∧
        options.brokerAddr = "ws://broker.lan:1883/mqtt" ∧
        options.transport = .tcp := by
  constructor
  · exact ⟨_, rfl, rfl, rfl, rfl⟩
  · exact ⟨_, rfl, by decide, rfl⟩

end MeshController
