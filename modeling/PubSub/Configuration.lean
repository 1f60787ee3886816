import PubSub.Client
import PubSub.Reference

/-!
# The configuration file

A client writes its configuration as an XML tree with a node for the general settings and
one for SSL, and it reads the tree back from the file. The XML library is a parameter: it
gives back what was set, and a file changes only when the library is told to write it.
`WriteConfiguration` fills the tree and never does that.
-/

namespace PubSub
set_option autoImplicit false

/-- The C++ types of the properties. -/
inductive XmlType where
  | text | bool | uint16 | int64 | int
  deriving DecidableEq

namespace XmlType

abbrev Carrier : XmlType → Type
  | text => Str
  | bool => Bool
  | uint16 => UInt16
  | int64 => Int64
  | int => Int32

def zero : (t : XmlType) → t.Carrier
  | text => []
  | bool => false
  | uint16 => (0 : UInt16)
  | int64 => (0 : Int64)
  | int => (0 : Int32)

end XmlType

abbrev XmlValue := Σ t : XmlType, t.Carrier

/-- `util::xml`: nodes with properties, trees of them, and the parser of files. -/
structure XmlLibrary where
  Node : Type
  newNode : Node
  setProperty : Str → XmlValue → Node → Node
  existProperty : Str → Node → Bool
  property : (t : XmlType) → Str → t.Carrier → Node → t.Carrier
  exist_set_self : ∀ key v n, existProperty key (setProperty key v n) = true
  exist_set_ne : ∀ key other v n, other ≠ key →
    existProperty other (setProperty key v n) = existProperty other n
  property_set_self : ∀ t key (v d : t.Carrier) n, property t key d (setProperty key ⟨t, v⟩ n) = v
  property_set_ne : ∀ t key other v d n, other ≠ key →
    property t other d (setProperty key v n) = property t other d n
  Root : Type
  rootName : Str → Root
  addNode : Str → Node → Root → Root
  getNode : Str → Root → Option Node
  node_root : ∀ tag name, getNode name (rootName tag) = none
  node_add_self : ∀ name n root, getNode name root = none →
    getNode name (addNode name n root) = some n
  node_add_ne : ∀ name other n root, other ≠ name →
    getNode other (addNode name n root) = getNode other root
  -- `none` when `ParseFile` returns false or there is no root node
  parseFile : BodyList → Option Root

inductive TransportLayer where
  | mqttTcp | mqttWebSocket | mqttTcpTls | mqttWebSocketTls
  deriving DecidableEq

namespace TransportLayer

def toText : TransportLayer → Str
  | mqttTcpTls => str "MqttTcpTls"
  | mqttWebSocket => str "MqttWebSocket"
  | mqttWebSocketTls => str "MqttWebSocketTls"
  | mqttTcp => str "MqttTcp"

/-- `TransportFromString`. -/
def ofText (P : Platform) (transport : Str) : TransportLayer :=
  if P.iEquals transport (str "MqttTcpTls") then mqttTcpTls
  else if P.iEquals transport (str "MqttWebSocket") then mqttWebSocket
  else if P.iEquals transport (str "MqttWebSocketTls") then mqttWebSocketTls
  else mqttTcp

theorem ofText_toText (P : Platform) (t : TransportLayer) : ofText P t.toText = t := by
  have hne := @P.iEquals_eq_false
  cases t with
  | mqttTcpTls => simp [ofText, toText]
  | mqttWebSocket =>
    simp [ofText, toText, hne (a := str "MqttWebSocket") (b := str "MqttTcpTls") (by decide +kernel)]
  | mqttWebSocketTls =>
    simp [ofText, toText,
      hne (a := str "MqttWebSocketTls") (b := str "MqttTcpTls") (by decide +kernel),
      hne (a := str "MqttWebSocketTls") (b := str "MqttWebSocket") (by decide +kernel)]
  | mqttTcp =>
    simp [ofText, toText, hne (a := str "MqttTcp") (b := str "MqttTcpTls") (by decide +kernel),
      hne (a := str "MqttTcp") (b := str "MqttWebSocket") (by decide +kernel),
      hne (a := str "MqttTcp") (b := str "MqttWebSocketTls") (by decide +kernel)]

end TransportLayer

namespace ProtocolVersion

def toText : ProtocolVersion → Str
  | mqtt31 => str "MQTT 3.1"
  | mqtt5 => str "MQTT 5.0"
  | mqtt311 => str "MQTT 3.1.1"

/-- `VersionFromString`. -/
def ofText (P : Platform) (version : Str) : ProtocolVersion :=
  if P.iEquals version (str "MQTT 3.1") then mqtt31
  else if P.iEquals version (str "MQTT 5.0") then mqtt5
  else mqtt311

theorem ofText_toText (P : Platform) (v : ProtocolVersion) : ofText P v.toText = v := by
  have hne := @P.iEquals_eq_false
  cases v with
  | mqtt31 => simp [ofText, toText]
  | mqtt5 =>
    simp [ofText, toText, hne (a := str "MQTT 5.0") (b := str "MQTT 3.1") (by decide +kernel)]
  | mqtt311 =>
    simp [ofText, toText, hne (a := str "MQTT 3.1.1") (b := str "MQTT 3.1") (by decide +kernel),
      hne (a := str "MQTT 3.1.1") (b := str "MQTT 5.0") (by decide +kernel)]

end ProtocolVersion

@[ext] structure GeneralSettings where
  name : Str := []
  group : Str := []
  transport : TransportLayer := .mqttTcp
  broker : Str := str "127.0.0.1"
  port : UInt16 := 1883
  version : ProtocolVersion := .mqtt311
  hardwareMake : Str
  hardwareModel : Str
  operatingSystem : Str
  osVersion : Str
  scanRate : Int64 := 0
  waitOnHostOnline : Bool := false
  username : Str := []
  password : Str := []

@[ext] structure SslSettings where
  trustStore : Str := []
  keyStore : Str := []
  privateKey : Str := []
  privateKeyPassword : Str := []
  enabledCipherSuites : Str := []
  enableCertAuth : Bool := false
  sslVersion : Int32 := 5
  caPath : Str := []
  disableDefaultTrustStore : Bool := false

/-- The members of `IPubSubClient` that its configuration file is about. -/
structure ClientConfiguration where
  configFile : Str := []
  general : GeneralSettings
  ssl : SslSettings := {}

/-- The settings of a client that was just constructed. -/
def GeneralSettings.initial (P : Platform) : GeneralSettings where
  hardwareMake := P.cpuVendor
  hardwareModel := P.cpuModel
  operatingSystem := P.osName
  osVersion := P.osKernel

/-- Whether the directories could be made, and the XML object. -/
structure FileOutcomes where
  directories : Bool := true
  xmlFile : Bool := true

abbrev Disk := Str → Option BodyList

namespace XmlLibrary
variable (L : XmlLibrary) (P : Platform)

def setProperties (properties : List (Str × XmlValue)) (n : L.Node) : L.Node :=
  properties.foldl (fun n e => L.setProperty e.1 e.2 n) n

/-- The new value of a member: the property, or the old value where there is none. -/
def read {β : Type} (t : XmlType) (key : Str) (decode : t.Carrier → β) (old : β) (n : L.Node) : β :=
  if L.existProperty key n then decode (L.property t key t.zero n) else old

def generalProperties (s : GeneralSettings) : List (Str × XmlValue) :=
  [(str "Name", ⟨.text, s.name⟩), (str "GroupId", ⟨.text, s.group⟩),
    (str "Transport", ⟨.text, s.transport.toText⟩), (str "Broker", ⟨.text, s.broker⟩),
    (str "Port", ⟨.uint16, s.port⟩), (str "ProtocolVersion", ⟨.text, s.version.toText⟩),
    (str "HardwareMake", ⟨.text, s.hardwareMake⟩), (str "HardwareModel", ⟨.text, s.hardwareModel⟩),
    (str "OperatingSystem", ⟨.text, s.operatingSystem⟩), (str "OsVersion", ⟨.text, s.osVersion⟩),
    (str "ScanRate", ⟨.int64, s.scanRate⟩), (str "WaitOnHostOnline", ⟨.bool, s.waitOnHostOnline⟩),
    (str "Username", ⟨.text, s.username⟩), (str "Password", ⟨.text, s.password⟩)]

def writeGeneralXml (s : GeneralSettings) (general : L.Node) : L.Node :=
  L.setProperties (generalProperties s) general

def readGeneralXml (general : L.Node) (s : GeneralSettings) : GeneralSettings where
  name := L.read .text (str "Name") id s.name general
  group := L.read .text (str "GroupId") id s.group general
  transport := L.read .text (str "Transport") (TransportLayer.ofText P) s.transport general
  broker := L.read .text (str "Broker") id s.broker general
  port := L.read .uint16 (str "Port") id s.port general
  version := L.read .text (str "ProtocolVersion") (ProtocolVersion.ofText P) s.version general
  hardwareMake := L.read .text (str "HardwareMake") id s.hardwareMake general
  hardwareModel := L.read .text (str "HardwareModel") id s.hardwareModel general
  operatingSystem := L.read .text (str "OperatingSystem") id s.operatingSystem general
  osVersion := L.read .text (str "OsVersion") id s.osVersion general
  scanRate := L.read .int64 (str "ScanRate") id s.scanRate general
  waitOnHostOnline := L.read .bool (str "WaitOnHostOnline") id s.waitOnHostOnline general
  username := L.read .text (str "Username") id s.username general
  password := L.read .text (str "Password") id s.password general

def sslProperties (s : SslSettings) : List (Str × XmlValue) :=
  [(str "TrustStore", ⟨.text, s.trustStore⟩), (str "KeyStore", ⟨.text, s.keyStore⟩),
    (str "PrivateKey", ⟨.text, s.privateKey⟩),
    (str "PrivateKeyPassword", ⟨.text, s.privateKeyPassword⟩),
    (str "EnabledCipherSuites", ⟨.text, s.enabledCipherSuites⟩),
    (str "EnableCertAuth", ⟨.bool, s.enableCertAuth⟩), (str "SslVersion", ⟨.int, s.sslVersion⟩),
    (str "CaPath", ⟨.text, s.caPath⟩),
    (str "DisableDefaultTrustStore", ⟨.bool, s.disableDefaultTrustStore⟩)]

def writeSslXml (s : SslSettings) (ssl : L.Node) : L.Node := L.setProperties (sslProperties s) ssl

/-- The settings are read without a test whether they exist. -/
def readSslXml (ssl : L.Node) : SslSettings where
  trustStore := L.property .text (str "TrustStore") [] ssl
  keyStore := L.property .text (str "KeyStore") [] ssl
  privateKey := L.property .text (str "PrivateKey") [] ssl
  privateKeyPassword := L.property .text (str "PrivateKeyPassword") [] ssl
  enabledCipherSuites := L.property .text (str "EnabledCipherSuites") [] ssl
  enableCertAuth := L.property .bool (str "EnableCertAuth") false ssl
  sslVersion := L.property .int (str "SslVersion") (0 : Int32) ssl
  caPath := L.property .text (str "CaPath") [] ssl
  disableDefaultTrustStore := L.property .bool (str "DisableDefaultTrustStore") false ssl

/-- The tree of a configuration. -/
def configurationRoot (c : ClientConfiguration) : L.Root :=
  let root := L.rootName (str "PubSubClient")
  let root := L.addNode (str "General") (L.writeGeneralXml c.general L.newNode) root
  L.addNode (str "SslOptions") (L.writeSslXml c.ssl L.newNode) root

/-- The file object of the library: the name of its file and its tree. -/
structure XmlFile where
  fileName : Str
  root : L.Root

/-- The result, the file object that is dropped at the end, and the disk. -/
def writeConfiguration (io : FileOutcomes) (c : ClientConfiguration) (disk : Disk) :
    Bool × Option L.XmlFile × Disk :=
  if !io.directories then (false, none, disk)
  else if !io.xmlFile then (false, none, disk)
  -- no call of the library writes the tree to the file
  else (true, some { fileName := c.configFile, root := L.configurationRoot c }, disk)

def readConfiguration (io : FileOutcomes) (disk : Disk) (c : ClientConfiguration) :
    Bool × ClientConfiguration :=
  match disk c.configFile with
  | none => (false, c)
  | some body =>
    if !io.xmlFile then (false, c)
    else match L.parseFile body with
      | none => (false, c)
      | some root =>
        let c := match L.getNode (str "General") root with
          | none => c
          | some general => { c with general := L.readGeneralXml P general c.general }
        let c := match L.getNode (str "SslOptions") root with
          | none => c
          | some ssl => { c with ssl := L.readSslXml ssl }
        (true, c)

variable {L P}

theorem property_setProperties_ne {t : XmlType} {key : Str} {d : t.Carrier}
    {properties : List (Str × XmlValue)} (h : key ∉ properties.map Prod.fst) (n : L.Node) :
    L.property t key d (L.setProperties properties n) = L.property t key d n := by
  induction properties generalizing n with
  | nil => rfl
  | cons e es ih =>
    obtain ⟨hhead, htail⟩ := not_or.mp (List.mem_cons.not.mp h)
    exact (ih htail _).trans (L.property_set_ne t e.1 key e.2 d n hhead)

/-- Properties with distinct names are read back, in whatever order they were set. -/
theorem property_setProperties {t : XmlType} {key : Str} {v : t.Carrier}
    {properties : List (Str × XmlValue)} (hkeys : (properties.map Prod.fst).Nodup)
    (h : (key, ⟨t, v⟩) ∈ properties) (d : t.Carrier) (n : L.Node) :
    L.property t key d (L.setProperties properties n) = v := by
  induction properties generalizing n with
  | nil => cases h
  | cons e es ih =>
    obtain ⟨hfirst, hrest⟩ := List.nodup_cons.mp hkeys
    rcases List.mem_cons.mp h with rfl | h
    · exact (property_setProperties_ne hfirst _).trans (L.property_set_self t key v d n)
    · exact ih hrest h _

theorem exist_setProperties_of_exist {key : Str} (properties : List (Str × XmlValue)) {n : L.Node}
    (h : L.existProperty key n = true) :
    L.existProperty key (L.setProperties properties n) = true := by
  induction properties generalizing n with
  | nil => exact h
  | cons e es ih =>
    refine ih ?_
    by_cases hkey : key = e.1
    · rw [hkey]
      exact L.exist_set_self e.1 e.2 n
    · rw [L.exist_set_ne e.1 key e.2 n hkey]
      exact h

theorem exist_setProperties {key : Str} {v : XmlValue} {properties : List (Str × XmlValue)}
    (h : (key, v) ∈ properties) (n : L.Node) :
    L.existProperty key (L.setProperties properties n) = true := by
  induction properties generalizing n with
  | nil => cases h
  | cons e es ih =>
    rcases List.mem_cons.mp h with rfl | h
    · exact exist_setProperties_of_exist es (L.exist_set_self key v n)
    · exact ih h _

theorem read_setProperties {β : Type} {t : XmlType} {key : Str} {v : t.Carrier}
    {properties : List (Str × XmlValue)} (hkeys : (properties.map Prod.fst).Nodup)
    (h : (key, ⟨t, v⟩) ∈ properties) (decode : t.Carrier → β) (old : β) (n : L.Node) :
    L.read t key decode old (L.setProperties properties n) = decode v := by
  rw [read, exist_setProperties h, if_pos rfl, property_setProperties hkeys h]

theorem generalProperties_nodup (s : GeneralSettings) :
    ((generalProperties s).map Prod.fst).Nodup := by
  change ([str "Name", str "GroupId", str "Transport", str "Broker", str "Port",
    str "ProtocolVersion", str "HardwareMake", str "HardwareModel", str "OperatingSystem",
    str "OsVersion", str "ScanRate", str "WaitOnHostOnline", str "Username",
    str "Password"] : List Str).Nodup
  decide +kernel

theorem sslProperties_nodup (s : SslSettings) : ((sslProperties s).map Prod.fst).Nodup := by
  change ([str "TrustStore", str "KeyStore", str "PrivateKey", str "PrivateKeyPassword",
    str "EnabledCipherSuites", str "EnableCertAuth", str "SslVersion", str "CaPath",
    str "DisableDefaultTrustStore"] : List Str).Nodup
  decide +kernel

/-- The reader of the general settings undoes their writer, whatever the client had. -/
theorem readGeneralXml_written (s old : GeneralSettings) (n : L.Node) :
    L.readGeneralXml P (L.writeGeneralXml s n) old = s := by
  have hread : ∀ {β : Type} {t : XmlType} {key : Str} {v : t.Carrier} {decode : t.Carrier → β}
      {old w : β}, (key, (⟨t, v⟩ : XmlValue)) ∈ generalProperties s → decode v = w →
      L.read t key decode old (L.writeGeneralXml s n) = w :=
    fun h hw => (read_setProperties (generalProperties_nodup s) h _ _ n).trans hw
  apply GeneralSettings.ext
  · exact hread (v := s.name) (by simp [generalProperties]) rfl
  · exact hread (v := s.group) (by simp [generalProperties]) rfl
  · exact hread (by simp [generalProperties]) (TransportLayer.ofText_toText P s.transport)
  · exact hread (v := s.broker) (by simp [generalProperties]) rfl
  · exact hread (v := s.port) (by simp [generalProperties]) rfl
  · exact hread (by simp [generalProperties]) (ProtocolVersion.ofText_toText P s.version)
  · exact hread (v := s.hardwareMake) (by simp [generalProperties]) rfl
  · exact hread (v := s.hardwareModel) (by simp [generalProperties]) rfl
  · exact hread (v := s.operatingSystem) (by simp [generalProperties]) rfl
  · exact hread (v := s.osVersion) (by simp [generalProperties]) rfl
  · exact hread (v := s.scanRate) (by simp [generalProperties]) rfl
  · exact hread (v := s.waitOnHostOnline) (by simp [generalProperties]) rfl
  · exact hread (v := s.username) (by simp [generalProperties]) rfl
  · exact hread (v := s.password) (by simp [generalProperties]) rfl

theorem readSslXml_written (s : SslSettings) (n : L.Node) :
    L.readSslXml (L.writeSslXml s n) = s := by
  have hread : ∀ {t : XmlType} {key : Str} {v d : t.Carrier},
      (key, (⟨t, v⟩ : XmlValue)) ∈ sslProperties s →
      L.property t key d (L.writeSslXml s n) = v :=
    fun h => property_setProperties (sslProperties_nodup s) h _ n
  apply SslSettings.ext
  · exact hread (by simp [sslProperties])
  · exact hread (by simp [sslProperties])
  · exact hread (by simp [sslProperties])
  · exact hread (by simp [sslProperties])
  · exact hread (by simp [sslProperties])
  · exact hread (by simp [sslProperties])
  · exact hread (by simp [sslProperties])
  · exact hread (by simp [sslProperties])
  · exact hread (by simp [sslProperties])

/-- The tree that `WriteConfiguration` fills has both nodes. -/
theorem configurationRoot_nodes (c : ClientConfiguration) :
    L.getNode (str "General") (L.configurationRoot c) =
        some (L.writeGeneralXml c.general L.newNode) ∧
      L.getNode (str "SslOptions") (L.configurationRoot c) =
        some (L.writeSslXml c.ssl L.newNode) := by
  have hne : str "General" ≠ str "SslOptions" := by decide +kernel
  have hgeneral := L.node_add_self (str "General") (L.writeGeneralXml c.general L.newNode)
    (L.rootName (str "PubSubClient")) (L.node_root _ _)
  have hssl := L.node_add_ne (str "General") (str "SslOptions")
    (L.writeGeneralXml c.general L.newNode) (L.rootName (str "PubSubClient")) hne.symm
  refine ⟨?_, ?_⟩
  · exact (L.node_add_ne (str "SslOptions") (str "General") _ _ hne).trans hgeneral
  · exact L.node_add_self _ _ _ (hssl.trans (L.node_root _ _))

/-- What a node tells of a member: its property, or the value of a new client without one. -/
def told {β : Type} (L : XmlLibrary) (t : XmlType) (key : Str) (decode : t.Carrier → β)
    (initial : β) : Option L.Node → β
  | none => initial
  | some n => L.read t key decode initial n

/-- What the SSL node tells of a member, which it is asked for in any case. -/
def toldAlways (L : XmlLibrary) (t : XmlType) (key : Str) (initial : t.Carrier) :
    Option L.Node → t.Carrier
  | none => initial
  | some n => L.property t key t.zero n

/-- A file whose general node tells these settings. -/
structure TellsGeneral (L : XmlLibrary) (P : Platform) (node : Option L.Node)
    (s : GeneralSettings) : Prop where
  name : L.told .text (str "Name") id [] node = s.name
  group : L.told .text (str "GroupId") id [] node = s.group
  transport : L.told .text (str "Transport") (TransportLayer.ofText P) .mqttTcp node = s.transport
  broker : L.told .text (str "Broker") id (str "127.0.0.1") node = s.broker
  port : L.told .uint16 (str "Port") id (1883 : UInt16) node = s.port
  version :
    L.told .text (str "ProtocolVersion") (ProtocolVersion.ofText P) .mqtt311 node = s.version
  hardwareMake : L.told .text (str "HardwareMake") id P.cpuVendor node = s.hardwareMake
  hardwareModel : L.told .text (str "HardwareModel") id P.cpuModel node = s.hardwareModel
  operatingSystem : L.told .text (str "OperatingSystem") id P.osName node = s.operatingSystem
  osVersion : L.told .text (str "OsVersion") id P.osKernel node = s.osVersion
  scanRate : L.told .int64 (str "ScanRate") id (0 : Int64) node = s.scanRate
  waitOnHostOnline : L.told .bool (str "WaitOnHostOnline") id false node = s.waitOnHostOnline
  username : L.told .text (str "Username") id [] node = s.username
  password : L.told .text (str "Password") id [] node = s.password

/-- A file whose SSL node tells these settings. -/
structure TellsSsl (L : XmlLibrary) (node : Option L.Node) (s : SslSettings) : Prop where
  trustStore : L.toldAlways .text (str "TrustStore") [] node = s.trustStore
  keyStore : L.toldAlways .text (str "KeyStore") [] node = s.keyStore
  privateKey : L.toldAlways .text (str "PrivateKey") [] node = s.privateKey
  privateKeyPassword : L.toldAlways .text (str "PrivateKeyPassword") [] node = s.privateKeyPassword
  enabledCipherSuites :
    L.toldAlways .text (str "EnabledCipherSuites") [] node = s.enabledCipherSuites
  enableCertAuth : L.toldAlways .bool (str "EnableCertAuth") false node = s.enableCertAuth
  sslVersion : L.toldAlways .int (str "SslVersion") (5 : Int32) node = s.sslVersion
  caPath : L.toldAlways .text (str "CaPath") [] node = s.caPath
  disableDefaultTrustStore :
    L.toldAlways .bool (str "DisableDefaultTrustStore") false node = s.disableDefaultTrustStore

theorem tellsGeneral_iff (node : Option L.Node) (s : GeneralSettings) :
    L.TellsGeneral P node s ↔ (match node with
      | none => GeneralSettings.initial P
      | some general => L.readGeneralXml P general (.initial P)) = s := by
  constructor
  · intro h
    cases node with
    | none =>
      exact GeneralSettings.ext h.name h.group h.transport h.broker h.port h.version h.hardwareMake
        h.hardwareModel h.operatingSystem h.osVersion h.scanRate h.waitOnHostOnline h.username
        h.password
    | some general =>
      exact GeneralSettings.ext h.name h.group h.transport h.broker h.port h.version h.hardwareMake
        h.hardwareModel h.operatingSystem h.osVersion h.scanRate h.waitOnHostOnline h.username
        h.password
  · rintro rfl
    cases node with
    | none => exact ⟨rfl, rfl, rfl, rfl, rfl, rfl, rfl, rfl, rfl, rfl, rfl, rfl, rfl, rfl⟩
    | some general => exact ⟨rfl, rfl, rfl, rfl, rfl, rfl, rfl, rfl, rfl, rfl, rfl, rfl, rfl, rfl⟩

theorem tellsSsl_iff (node : Option L.Node) (s : SslSettings) :
    L.TellsSsl node s ↔ (match node with
      | none => ({} : SslSettings)
      | some ssl => L.readSslXml ssl) = s := by
  constructor
  · intro h
    cases node with
    | none =>
      exact SslSettings.ext h.trustStore h.keyStore h.privateKey h.privateKeyPassword
        h.enabledCipherSuites h.enableCertAuth h.sslVersion h.caPath h.disableDefaultTrustStore
    | some ssl =>
      exact SslSettings.ext h.trustStore h.keyStore h.privateKey h.privateKeyPassword
        h.enabledCipherSuites h.enableCertAuth h.sslVersion h.caPath h.disableDefaultTrustStore
  · rintro rfl
    cases node with
    | none => exact ⟨rfl, rfl, rfl, rfl, rfl, rfl, rfl, rfl, rfl⟩
    | some ssl => exact ⟨rfl, rfl, rfl, rfl, rfl, rfl, rfl, rfl, rfl⟩

/-- The file of the client is there before the call, and it tells the configuration. -/
def AlreadyOnDisk (L : XmlLibrary) (P : Platform) (c : ClientConfiguration) (disk : Disk) : Prop :=
  ∃ body root, disk c.configFile = some body ∧ L.parseFile body = some root ∧
    L.TellsGeneral P (L.getNode (str "General") root) c.general ∧
    L.TellsSsl (L.getNode (str "SslOptions") root) c.ssl

/-- The tree that `WriteConfiguration` fills tells the configuration: only its file is missing. -/
theorem alreadyOnDisk_of_tree {c : ClientConfiguration} {disk : Disk} {body : BodyList}
    (hdisk : disk c.configFile = some body)
    (hparse : L.parseFile body = some (L.configurationRoot c)) : L.AlreadyOnDisk P c disk := by
  refine ⟨body, L.configurationRoot c, hdisk, hparse, ?_⟩
  obtain ⟨hgeneral, hssl⟩ := configurationRoot_nodes (L := L) c
  rw [hgeneral, hssl, tellsGeneral_iff, tellsSsl_iff]
  exact ⟨readGeneralXml_written _ _ _, readSslXml_written _ _⟩

/-- After a write that returns true a new client reads the configuration. -/
def ConfigurationReturns (L : XmlLibrary) (P : Platform) (writing reading : FileOutcomes)
    (c : ClientConfiguration) (disk : Disk) : Prop :=
  (L.writeConfiguration writing c disk).1 = true →
    L.readConfiguration P reading (L.writeConfiguration writing c disk).2.2
      { configFile := c.configFile, general := .initial P } = (true, c)

theorem writeConfiguration_disk (io : FileOutcomes) (c : ClientConfiguration) (disk : Disk) :
    (L.writeConfiguration io c disk).2.2 = disk := by
  unfold writeConfiguration
  split
  · rfl
  · split
    · rfl
    · rfl

theorem writeConfiguration_succeeds (io : FileOutcomes) (c : ClientConfiguration) (disk : Disk) :
    (L.writeConfiguration io c disk).1 = (io.directories && io.xmlFile) := by
  unfold writeConfiguration
  cases io.directories with
  | false => rfl
  | true =>
    cases io.xmlFile with
    | false => rfl
    | true => rfl

/-- Reading succeeds with this configuration exactly when the file tells it. -/
theorem readConfiguration_iff {io : FileOutcomes} (hio : io.xmlFile = true)
    (c : ClientConfiguration) (disk : Disk) :
    L.readConfiguration P io disk { configFile := c.configFile, general := .initial P } =
      (true, c) ↔ L.AlreadyOnDisk P c disk := by
  unfold readConfiguration AlreadyOnDisk
  dsimp only
  cases hdisk : disk c.configFile with
  | none => simp
  | some body =>
    simp only [hio, Bool.not_true, Bool.false_eq_true, if_false]
    cases hparse : L.parseFile body with
    | none => simp [hparse]
    | some root =>
      dsimp only
      -- the four cases of the two nodes agree with what they tell
      have hread : ∀ general ssl,
          (true, ClientConfiguration.mk c.configFile general ssl) = (true, c) ↔
            general = c.general ∧ ssl = c.ssl := by
        intro general ssl
        cases c
        simp
      have htree : L.TellsGeneral P (L.getNode (str "General") root) c.general ∧
          L.TellsSsl (L.getNode (str "SslOptions") root) c.ssl ↔
          ∃ found tree, some body = some found ∧ L.parseFile found = some tree ∧
            L.TellsGeneral P (L.getNode (str "General") tree) c.general ∧
            L.TellsSsl (L.getNode (str "SslOptions") tree) c.ssl := by
        simp [hparse]
      rw [← htree, tellsGeneral_iff, tellsSsl_iff, ← hread]
      cases L.getNode (str "General") root with
      | none =>
        cases L.getNode (str "SslOptions") root with
        | none => rfl
        | some ssl => rfl
      | some general =>
        cases L.getNode (str "SslOptions") root with
        | none => rfl
        | some ssl => rfl

/-- The configuration comes back where nothing was written, or where its file was already
there with the same content. -/
theorem configuration_returns_iff (L : XmlLibrary) (P : Platform) (writing reading : FileOutcomes)
    (c : ClientConfiguration) (disk : Disk) :
    L.ConfigurationReturns P writing reading c disk ↔
      ((writing.directories && writing.xmlFile) = true →
        reading.xmlFile = true ∧ L.AlreadyOnDisk P c disk) := by
  unfold ConfigurationReturns
  rw [writeConfiguration_disk, writeConfiguration_succeeds]
  refine imp_congr_right fun _ => ?_
  cases hio : reading.xmlFile with
  | true =>
    rw [readConfiguration_iff hio]
    exact (and_iff_right rfl).symm
  | false =>
    have hfails : (L.readConfiguration P reading disk
        { configFile := c.configFile, general := .initial P }).1 = false := by
      unfold readConfiguration
      cases disk c.configFile with
      | none => rfl
      | some body => simp [hio]
    constructor
    · intro h
      rw [h] at hfails
      cases hfails
    · rintro ⟨hread, _⟩
      cases hread

/-- The properties of a node and the nodes of a tree, and no file is an XML file. -/
def reference : XmlLibrary where
  Node := List (Str × XmlValue)
  newNode := []
  setProperty key v n := (key, v) :: n
  existProperty key n := n.any fun e => decide (e.1 = key)
  property t key d n :=
    match n.find? fun e => decide (e.1 = key) with
    | some (_, ⟨stored, v⟩) => if h : stored = t then h ▸ v else d
    | none => d
  exist_set_self := by simp
  exist_set_ne := by
    intro key other v n h
    simp [Ne.symm h]
  property_set_self := by simp
  property_set_ne := by
    intro t key other v d n h
    simp [Ne.symm h]
  Root := List (Str × List (Str × XmlValue))
  rootName _ := []
  addNode name n root := root ++ [(name, n)]
  getNode name root := (root.find? fun e => decide (e.1 = name)).map Prod.snd
  node_root _ _ := rfl
  node_add_self := by
    intro name n root h
    have hnew := Option.map_eq_none_iff.mp h
    simp [List.find?_append, hnew]
  node_add_ne := by
    intro name other n root h
    simp [List.find?_append, Ne.symm h]
  parseFile _ := none

/-- A client without a file writes its first configuration, and cannot read it. -/
theorem unwritten_file_is_not_read :
    ¬ reference.ConfigurationReturns .reference {} {}
      { configFile := str "/etc/pubsub/node.xml",
        general := .initial .reference } fun _ => none := by
  intro h
  cases h rfl

end XmlLibrary
end PubSub
