import MeshController.BrokerPatches
import MeshController.DocumentCodec
import MeshController.RepeaterStatusEdits

/-!
# The configuration file

`Config` is saved as a TOML document and loaded from one.  A file which was
saved is loaded as what was saved.  So is a file in which keys are missing
whose defaults are meant, such as one from before a field existed, or one with
other keys besides, in any order.
-/

namespace MeshController

open Documents

/-! ## Scalars -/

/-- TOML integers have 64 bits and a sign. -/
def tomlIntegers : ℕ := 2 ^ 63

def sizedCodec {α : Type} (size : ℕ) (toNat : α → ℕ) (ofNat : ℕ → α)
    (hlt : ∀ value, toNat value < size)
    (hofNat : ∀ value, ofNat (toNat value) = value)
    (htoNat : ∀ written, written < size → toNat (ofNat written) = written) :
    Codec α :=
  (Codec.natural tomlIntegers).via toNat
    (fun written => if written < size then some (ofNat written) else none)
    (by
      intro written value
      rw [Option.ite_none_right_eq_some, Option.some.injEq]
      constructor
      · rintro ⟨hsize, rfl⟩
        exact (htoNat written hsize).symm
      · rintro rfl
        exact ⟨hlt value, hofNat value⟩)

def u16Codec : Codec UInt16 :=
  sizedCodec (2 ^ 16) UInt16.toNat UInt16.ofNat UInt16.toNat_lt
    (fun _ => UInt16.ofNat_toNat)
    (fun _ hsize => UInt16.toNat_ofNat_of_lt hsize)

def u32Codec : Codec UInt32 :=
  sizedCodec (2 ^ 32) UInt32.toNat UInt32.ofNat UInt32.toNat_lt
    (fun _ => UInt32.ofNat_toNat)
    (fun _ hsize => UInt32.toNat_ofNat_of_lt hsize)

def u64Codec : Codec UInt64 :=
  sizedCodec (2 ^ 64) UInt64.toNat UInt64.ofNat UInt64.toNat_lt
    (fun _ => UInt64.ofNat_toNat)
    (fun _ hsize => UInt64.toNat_ofNat_of_lt hsize)

def repeaterStatusCodec : Codec RepeaterStatus :=
  Codec.named RepeaterStatus.tag [.managed, .known, .supervised]
    (by intro status; cases status <;> decide)
    (by
      intro status other hname
      cases status <;> cases other <;>
        first | rfl | simp [RepeaterStatus.tag] at hname)

def MqttTransportProtocol.variant : MqttTransportProtocol → String
  | .tcp => "tcp"
  | .websocket => "websocket"

def mqttTransportProtocolCodec : Codec MqttTransportProtocol :=
  Codec.named MqttTransportProtocol.variant [.tcp, .websocket]
    (by intro protocol; cases protocol <;> decide)
    (by
      intro protocol other hname
      cases protocol <;> cases other <;>
        first | rfl | simp [MqttTransportProtocol.variant] at hname)

def MqttAuthMethod.variant : MqttAuthMethod → String
  | .passwd => "passwd"
  | .device => "device"
  | .none => "none"

def mqttAuthMethodCodec : Codec MqttAuthMethod :=
  Codec.named MqttAuthMethod.variant [.passwd, .device, .none]
    (by intro method; cases method <;> decide)
    (by
      intro method other hname
      cases method <;> cases other <;>
        first | rfl | simp [MqttAuthMethod.variant] at hname)

/-! ## Tables -/

def managedRepeaterCodec : Codec ManagedRepeater :=
  (Record.begin ManagedRepeater ManagedRepeater.mk
    |>.field "name" (.required .text) (·.name)
    |>.field "public_key_hex" (.required .text) (·.publicKeyHex)
    |>.field "password" (.optional .text) (·.password)
    |>.field "managed" (.defaulted repeaterStatusCodec .managed)
      (·.status)).codec

def regionConfigCodec : Codec RegionConfig :=
  (Record.begin RegionConfig RegionConfig.mk
    |>.field "name" (.required .text) (·.name)
    |>.field "parent" (.optional .text) (·.parent)).codec

def mqttBrokerConfigCodec : Codec MqttBrokerConfig :=
  (Record.begin MqttBrokerConfig MqttBrokerConfig.mk
    |>.field "name" (.required .text) (·.name)
    |>.field "host" (.required .text) (·.host)
    |>.field "port" (.defaulted u16Codec 1883) (·.port)
    |>.field "username" (.optional .text) (·.username)
    |>.field "password" (.optional .text) (·.password)
    |>.field "auth_method" (.defaulted mqttAuthMethodCodec .passwd)
      (·.authMethod)
    |>.field "jwt_ttl_secs" (.defaulted u32Codec 3600) (·.jwtTtlSecs)
    |>.field "jwt_audience" (.optional .text) (·.jwtAudience)
    |>.field "topic_prefix" (.defaulted .text "meshcore") (·.topicPrefix)
    |>.field "tls_enabled" (.defaulted .flag false) (·.tlsEnabled)
    |>.field "tls_ca_cert" (.optional .text) (·.tlsCaCert)
    |>.field "tls_client_cert" (.optional .text) (·.tlsClientCert)
    |>.field "tls_client_key" (.optional .text) (·.tlsClientKey)
    |>.field "status_refresh_interval_secs" (.defaulted u32Codec 300)
      (·.statusRefreshIntervalSecs)
    |>.field "enable_high_level_messages" (.defaulted .flag true)
      (·.enableHighLevelMessages)
    |>.field "enable_packet_trafic_messages" (.defaulted .flag true)
      (·.enablePacketTraficMessages)
    |>.field "packet_trafic_topic"
      (.defaulted .text "\x7bprefix\x7d/packets") (·.packetTraficTopic)
    |>.field "enable_raw_messages" (.defaulted .flag false)
      (·.enableRawMessages)
    |>.field "raw_topic" (.defaulted .text "\x7bprefix\x7d/raw") (·.rawTopic)
    |>.field "status_topic" (.defaulted .text "\x7bprefix\x7d/status")
      (·.statusTopic)
    |>.field "transport_protocol"
      (.defaulted mqttTransportProtocolCodec .tcp) (·.transportProtocol)
    |>.field "websocket_path" (.defaulted .text "/mqtt")
      (·.websocketPath)).codec

/-- An entry with nothing but a name and a host. -/
theorem read_withDefaults
    {entries : Table} {name host : String}
    (hname : Table.get entries "name" = some (.text name))
    (hhost : Table.get entries "host" = some (.text host))
    (hothers : ∀ key, key ≠ "name" → key ≠ "host" →
      Table.get entries key = none) :
    mqttBrokerConfigCodec.read (.table entries) =
      some (.withDefaults name host) := by
  refine Record.read_codec.trans ?_
  simp [Record.read_field, Record.read_begin, Slot.required, Slot.defaulted,
    Slot.optional, hname, hhost, hothers, MqttBrokerConfig.withDefaults]

/-! ### The connection, told apart by its type -/

def serialCodec : Codec (String × UInt32) :=
  (Record.begin (String × UInt32)
      (fun (_ : Unit) port baudRate => (port, baudRate))
    |>.field "type" (.required (.constant "serial")) (fun _ => ())
    |>.field "port" (.required .text) (·.1)
    |>.field "baud_rate" (.required u32Codec) (·.2)).codec

def tcpCodec : Codec (String × UInt16) :=
  (Record.begin (String × UInt16)
      (fun (_ : Unit) host port => (host, port))
    |>.field "type" (.required (.constant "tcp")) (fun _ => ())
    |>.field "host" (.required .text) (·.1)
    |>.field "port" (.required u16Codec) (·.2)).codec

def bleCodec : Codec String :=
  (Record.begin String (fun (_ : Unit) name => name)
    |>.field "type" (.required (.constant "ble")) (fun _ => ())
    |>.field "name" (.required .text) (fun name => name)).codec

/-- The connection type which a document names. -/
def typeOf : Document → Option Document
  | .table entries => Table.get entries "type"
  | _ => none

theorem typeOf_serial
    {value : String × UInt32} {document : Document}
    (hstands : serialCodec.Says value document) :
    typeOf document = some (.text "serial") := by
  obtain ⟨entries, rfl, _, _, hfields⟩ := hstands
  obtain ⟨_, hget, rfl⟩ := hfields.1.1.2
  exact hget

theorem typeOf_tcp
    {value : String × UInt16} {document : Document}
    (hstands : tcpCodec.Says value document) :
    typeOf document = some (.text "tcp") := by
  obtain ⟨entries, rfl, _, _, hfields⟩ := hstands
  obtain ⟨_, hget, rfl⟩ := hfields.1.1.2
  exact hget

theorem typeOf_ble
    {value : String} {document : Document}
    (hstands : bleCodec.Says value document) :
    typeOf document = some (.text "ble") := by
  obtain ⟨entries, rfl, _, _, hfields⟩ := hstands
  obtain ⟨_, hget, rfl⟩ := hfields.1.2
  exact hget

def connectionConfigCodec : Codec ConnectionConfig :=
  ((serialCodec.orElse tcpCodec
      (by
        intro value other document hserial htcp
        have hclash := (typeOf_serial hserial).symm.trans (typeOf_tcp htcp)
        simp at hclash)).orElse bleCodec
      (by
        intro value other document hfirst hble
        cases value with
        | inl serial =>
            have hclash := (typeOf_serial hfirst).symm.trans (typeOf_ble hble)
            simp at hclash
        | inr tcp =>
            have hclash := (typeOf_tcp hfirst).symm.trans (typeOf_ble hble)
            simp at hclash)).via
    (fun connection =>
      match connection with
      | .serial port baudRate => .inl (.inl (port, baudRate))
      | .tcp host port => .inl (.inr (host, port))
      | .ble name => .inr name)
    (fun written =>
      match written with
      | .inl (.inl (port, baudRate)) => some (.serial port baudRate)
      | .inl (.inr (host, port)) => some (.tcp host port)
      | .inr name => some (.ble name))
    (by
      intro written connection
      rcases written with (⟨port, baudRate⟩ | ⟨host, port⟩) | name <;>
        cases connection <;> simp)

/-! ### The whole file -/

/-- What `default_log_dir` and `default_db_path` find on this machine. -/
structure DefaultPaths where
  logDir : String
  dbPath : String

section File

variable (paths : DefaultPaths)

def daemonConfigCodec : Codec DaemonConfig :=
  (Record.begin DaemonConfig DaemonConfig.mk
    |>.field "socket_path" (.required .text) (·.socketPath)
    |>.field "refresh_interval_secs" (.required u64Codec)
      (·.refreshIntervalSecs)
    |>.field "log_level" (.required .text) (·.logLevel)
    |>.field "log_dir" (.defaulted .text paths.logDir) (·.logDir)
    |>.field "packet_log_capacity"
      (.defaulted (.natural tomlIntegers) 500) (·.packetLogCapacity)
    |>.field "db_path" (.defaulted .text paths.dbPath) (·.dbPath)
    |>.field "observer_node_managed_config" (.defaulted .flag true)
      (·.observerNodeManagedConfig)).codec

def configCodec : Codec Config :=
  (Record.begin Config Config.mk
    |>.field "node_label" (.required .text) (·.nodeLabel)
    |>.field "connection" (.required connectionConfigCodec) (·.connection)
    |>.field "daemon" (.required (daemonConfigCodec paths)) (·.daemon)
    |>.field "managed_repeaters"
      (.defaulted managedRepeaterCodec.list []) (·.managedRepeaters)
    |>.field "regions" (.defaulted regionConfigCodec.list []) (·.regions)
    |>.field "hashtag_channels" (.defaulted Codec.text.list [])
      (·.hashtagChannels)
    |>.field "mqtt_brokers" (.defaulted mqttBrokerConfigCodec.list [])
      (·.mqttBrokers)).codec

/-! ## Which configurations can be written -/

theorem isSome_write_sizedCodec
    {α : Type} {size : ℕ} {toNat : α → ℕ} {ofNat : ℕ → α}
    {hlt : ∀ value, toNat value < size}
    {hofNat : ∀ value, ofNat (toNat value) = value}
    {htoNat : ∀ written, written < size → toNat (ofNat written) = written}
    (value : α) :
    ((sizedCodec size toNat ofNat hlt hofNat htoNat).write value).isSome =
        true ↔
      toNat value < tomlIntegers := by
  simp [sizedCodec]

theorem isSome_write_u16 (value : UInt16) :
    (u16Codec.write value).isSome = true := by
  rw [u16Codec, isSome_write_sizedCodec]
  exact value.toNat_lt.trans_le (by decide)

theorem isSome_write_u32 (value : UInt32) :
    (u32Codec.write value).isSome = true := by
  rw [u32Codec, isSome_write_sizedCodec]
  exact value.toNat_lt.trans_le (by decide)

theorem isSome_write_u64 (value : UInt64) :
    (u64Codec.write value).isSome = true ↔ value.toNat < tomlIntegers :=
  isSome_write_sizedCodec value

theorem isSome_write_repeaterStatus (status : RepeaterStatus) :
    (repeaterStatusCodec.write status).isSome = true := rfl

theorem isSome_write_authMethod (method : MqttAuthMethod) :
    (mqttAuthMethodCodec.write method).isSome = true := rfl

theorem isSome_write_transportProtocol (protocol : MqttTransportProtocol) :
    (mqttTransportProtocolCodec.write protocol).isSome = true := rfl

theorem isSome_write_constant (name : String) :
    ((Codec.constant name).write ()).isSome = true := rfl

theorem isSome_write_managedRepeater (repeater : ManagedRepeater) :
    (managedRepeaterCodec.write repeater).isSome = true := by
  apply isSome_write_codec.mpr
  simp [isSome_write_repeaterStatus]

theorem isSome_write_regionConfig (region : RegionConfig) :
    (regionConfigCodec.write region).isSome = true := by
  apply isSome_write_codec.mpr
  simp

theorem isSome_write_mqttBrokerConfig (broker : MqttBrokerConfig) :
    (mqttBrokerConfigCodec.write broker).isSome = true := by
  apply isSome_write_codec.mpr
  simp [isSome_write_u16, isSome_write_u32, isSome_write_authMethod,
    isSome_write_transportProtocol]

theorem isSome_write_serial (value : String × UInt32) :
    (serialCodec.write value).isSome = true := by
  apply isSome_write_codec.mpr
  simp [isSome_write_u32, isSome_write_constant]

theorem isSome_write_tcp (value : String × UInt16) :
    (tcpCodec.write value).isSome = true := by
  apply isSome_write_codec.mpr
  simp [isSome_write_u16, isSome_write_constant]

theorem isSome_write_ble (value : String) :
    (bleCodec.write value).isSome = true := by
  apply isSome_write_codec.mpr
  simp [isSome_write_constant]

theorem isSome_write_connectionConfig (connection : ConnectionConfig) :
    (connectionConfigCodec.write connection).isSome = true := by
  cases connection with
  | serial port baudRate => exact isSome_write_serial (port, baudRate)
  | tcp host port => exact isSome_write_tcp (host, port)
  | ble name => exact isSome_write_ble name

/-- The numbers of the daemon section fit into TOML integers. -/
def Config.FitsToml (config : Config) : Prop :=
  config.daemon.refreshIntervalSecs.toNat < tomlIntegers ∧
    config.daemon.packetLogCapacity < tomlIntegers

instance (config : Config) : Decidable config.FitsToml :=
  inferInstanceAs (Decidable (_ ∧ _))

theorem isSome_write_daemonConfig (daemon : DaemonConfig) :
    ((daemonConfigCodec paths).write daemon).isSome = true ↔
      daemon.refreshIntervalSecs.toNat < tomlIntegers ∧
        daemon.packetLogCapacity < tomlIntegers := by
  refine isSome_write_codec.trans ?_
  simp [isSome_write_u64]

theorem isSome_write_config (config : Config) :
    ((configCodec paths).write config).isSome = true ↔ config.FitsToml := by
  refine isSome_write_codec.trans ?_
  simp [isSome_write_connectionConfig, isSome_write_daemonConfig,
    isSome_write_managedRepeater, isSome_write_regionConfig,
    isSome_write_mqttBrokerConfig, Config.FitsToml]

/-! ## The text of the file -/

/-- The toml library; `outOfRange` is its error for a number which is not a
TOML integer. -/
structure TomlLibrary where
  toStringPretty : Document → Except String String
  fromStr : String → Option Document
  outOfRange : String

/-- The text of a configuration is read as its document, but for the order of
keys. -/
def TomlLibrary.ReadsBack (library : TomlLibrary) : Prop :=
  ∀ config document text, (configCodec paths).write config = some document →
    library.toStringPretty document = .ok text →
      ∃ other, library.fromStr text = some other ∧ Alike document other

def configToml (library : TomlLibrary) : Toml where
  toStringPretty := fun config =>
    match (configCodec paths).write config with
    | none => .error library.outOfRange
    | some document => library.toStringPretty document
  fromStr := fun text => (library.fromStr text).bind (configCodec paths).read

variable {paths} {library : TomlLibrary}

theorem configToml_loadsSaved (hlibrary : library.ReadsBack paths) :
    (configToml paths library).LoadsSaved := by
  intro config text htext
  cases hwrite : (configCodec paths).write config with
  | none => simp [configToml, hwrite] at htext
  | some document =>
      simp only [configToml, hwrite] at htext
      rcases hlibrary config document text hwrite htext with
        ⟨other, hother, halike⟩
      simp only [configToml, hother, Option.bind_some]
      exact (configCodec paths).read_of_write hwrite halike

def bareText : String :=
  "node_label = \"test-node\"\n" ++
  "managed_repeaters = []\nregions = []\nhashtag_channels = []\n" ++
  "mqtt_brokers = []\n\n" ++
  "[connection]\ntype = \"tcp\"\nhost = \"127.0.0.1\"\nport = 5000\n\n" ++
  "[daemon]\n" ++
  "socket_path = \"/tmp/fez-mesh-controller-test.sock\"\n" ++
  "refresh_interval_secs = 5\nlog_level = \"info\"\n" ++
  "log_dir = \"/tmp/fez-mesh-controller-test/logs\"\n" ++
  "packet_log_capacity = 500\ndb_path = \":memory:\"\n" ++
  "observer_node_managed_config = true\n"

/-- The library on the bare configuration. -/
def bareLibrary (paths : DefaultPaths) : TomlLibrary where
  toStringPretty := fun document =>
    if (configCodec paths).read document = some .bare then .ok bareText
    else .error "unsupported type"
  fromStr := fun text =>
    if text = bareText then (configCodec paths).write .bare else none
  outOfRange := "out-of-range value for u64 type"

theorem readsBack_bareLibrary (paths : DefaultPaths) :
    (bareLibrary paths).ReadsBack paths := by
  intro config document text hwrite htext
  have hread : (configCodec paths).read document = some config :=
    (configCodec paths).read_of_write hwrite (Alike.refl document)
  simp only [bareLibrary, hread, Option.some.injEq] at htext
  split at htext
  · next hbare =>
      rw [← Except.ok.inj htext]
      refine ⟨document, ?_, Alike.refl document⟩
      simp only [bareLibrary, if_true]
      rw [← hwrite, hbare]
  · contradiction

/-- A save which succeeds is loaded back.  A configuration which does not fit
is not saved, and leaves the file alone; one which fits is saved wherever the
library prints it and the disk takes it. -/
theorem saveTo_loadFrom_config
    (hlibrary : library.ReadsBack paths) (disk : DiskAnswers)
    (state : ConfigState) :
    ((state.saveTo (configToml paths library) disk).1 = .ok () →
      (state.saveTo (configToml paths library) disk).2.loadFrom
        (configToml paths library) = some state.config) ∧
    (¬ state.config.FitsToml →
      (state.saveTo (configToml paths library) disk).1 ≠ .ok () ∧
        (state.saveTo (configToml paths library) disk).2 = state) ∧
    (state.config.FitsToml → ∃ document,
      (configCodec paths).write state.config = some document ∧
        ((state.saveTo (configToml paths library) disk).1 = .ok () ↔
          disk.createDirAll = .ok () ∧
            (∃ text, library.toStringPretty document = .ok text) ∧
            disk.write = .ok ())) := by
  refine ⟨ConfigState.loadFrom_saveTo (configToml_loadsSaved hlibrary), ?_, ?_⟩
  · intro hnot
    have hwrite : (configCodec paths).write state.config = none := by
      rw [← Option.not_isSome_iff_eq_none, isSome_write_config]
      exact hnot
    cases hdir : disk.createDirAll <;>
      simp [ConfigState.saveTo, configToml, hwrite, hdir]
  · intro hfits
    obtain ⟨document, hwrite⟩ := Option.isSome_iff_exists.mp
      ((isSome_write_config paths state.config).mpr hfits)
    refine ⟨document, hwrite, ?_⟩
    cases hdir : disk.createDirAll with
    | error reason => simp [ConfigState.saveTo, hdir]
    | ok done =>
        cases hprint : library.toStringPretty document with
        | error reason =>
            simp [ConfigState.saveTo, configToml, hdir, hwrite, hprint]
        | ok text =>
            cases hdisk : disk.write <;>
              simp [ConfigState.saveTo, configToml, hdir, hwrite, hprint, hdisk]

theorem saveTo_loadFrom_config_bare :
    (ConfigState.saveTo
        (configToml ⟨"/tmp/logs", "/tmp/repeaters.sqlite3"⟩
          (bareLibrary ⟨"/tmp/logs", "/tmp/repeaters.sqlite3"⟩))
        .working ⟨.bare, none⟩).2.loadFrom
      (configToml ⟨"/tmp/logs", "/tmp/repeaters.sqlite3"⟩
        (bareLibrary ⟨"/tmp/logs", "/tmp/repeaters.sqlite3"⟩)) =
      some .bare := by
  have hsave := saveTo_loadFrom_config
    (readsBack_bareLibrary ⟨"/tmp/logs", "/tmp/repeaters.sqlite3"⟩)
    .working ⟨.bare, none⟩
  obtain ⟨document, hwrite, hsaved⟩ := hsave.2.2 (by decide)
  apply hsave.1
  apply hsaved.mpr
  refine ⟨rfl, ⟨bareText, ?_⟩, rfl⟩
  have hread := Codec.read_of_write _ hwrite (Alike.refl document)
  simp [bareLibrary, hread]

end File

end MeshController
