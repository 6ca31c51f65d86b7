/-
This file is the data model shared by every subsystem: the storage rows of
`internal/storage/models.go` and the connector configuration of
`internal/mq/connector.go`, with the conversion between the two that
`internal/mqcfg` holds.

Rows keep the columns some modelled function reads or writes. Byte strings are
lists of bytes, instants are nanoseconds as integers, and the enumerations a
`CHECK` constraint closes in the schema are inductive types.
-/

import Mathlib.Data.String.Basic

namespace MqConnector

/-- A message payload. -/
abbrev Bytes := List UInt8

/-! ### Connector configuration -/

/-- The discriminator for connector kinds, `mq.Type`. -/
inductive ConnectorType
  | ibm | rabbitMQ | kafka | mqtt | nats | amqp10
  deriving DecidableEq

structure TLSConfig where
  caFile : String := ""
  certFile : String := ""
  keyFile : String := ""
  insecureSkipVerify : Bool := false
  deriving DecidableEq

/-- `mq.Config`. The type is absent when `ParseType` did not recognise the stored text; the
factory `mq.New` refuses such a configuration. -/
structure Config where
  type : Option ConnectorType
  queueManager : String := ""
  connName : String := ""
  channel : String := ""
  username : String := ""
  password : String := ""
  queueName : String := ""
  url : String := ""
  brokers : List String := []
  topic : String := ""
  groupID : String := ""
  initialOffset : String := ""
  clientID : String := ""
  qos : Int := 0
  streamName : String := ""
  consumerName : String := ""
  tls : TLSConfig := {}
  deriving DecidableEq

/-- `unicode.IsSpace`, the blanks `strings.TrimSpace` removes. -/
def isSpace (char : Char) : Bool :=
  char.toNat ∈ [9, 10, 11, 12, 13, 32, 133, 160, 5760, 8232, 8233, 8239, 8287, 12288] ||
    (8192 ≤ char.toNat && char.toNat ≤ 8202)

/-- `strings.TrimSpace` on the character list of a text. -/
def trimSpace (text : List Char) : List Char :=
  ((text.dropWhile isSpace).reverse.dropWhile isSpace).reverse

def parseType (text : String) : Option ConnectorType :=
  match String.ofList ((trimSpace text.toList).map Char.toLower) with
  | "ibm" | "ibmmq" | "ibm_mq" => some .ibm
  | "rabbit" | "rabbitmq" | "amqp" => some .rabbitMQ
  | "kafka" => some .kafka
  | "mqtt" => some .mqtt
  | "nats" | "jetstream" => some .nats
  | "amqp10" | "amqp1" | "amqp1.0" => some .amqp10
  | _ => none

/-! ### Storage rows -/

def defaultTenantID : String := "00000000-0000-0000-0000-000000000000"

/-- `storage.Connection`, the persisted form of a broker endpoint. -/
structure Connection where
  id : String
  tenantID : String
  name : String := ""
  type : String := ""
  queueManager : String := ""
  connName : String := ""
  channel : String := ""
  username : String := ""
  password : String := ""
  queueName : String := ""
  url : String := ""
  brokers : String := ""
  topic : String := ""
  tlsCAFile : String := ""
  tlsCertFile : String := ""
  tlsKeyFile : String := ""
  tlsInsecureSkipVerify : Bool := false
  clientID : String := ""
  streamName : String := ""
  consumerName : String := ""
  qos : Int := 0
  groupID : String := ""
  initialOffset : String := ""
  deriving DecidableEq

/-- Split a comma-separated list, trim every part and drop the empty ones. -/
def splitBrokers (text : String) : List String :=
  ((text.toList.splitOn ',').map trimSpace).filterMap fun part =>
    if part = [] then none else some (String.ofList part)

/-- `mqcfg.From`: the connector configuration a stored connection stands for. -/
def Connection.toConfig (row : Connection) : Config where
  type := parseType row.type
  queueManager := row.queueManager
  connName := row.connName
  channel := row.channel
  username := row.username
  password := row.password
  queueName := row.queueName
  url := row.url
  topic := row.topic
  clientID := row.clientID
  qos := row.qos
  streamName := row.streamName
  consumerName := row.consumerName
  groupID := row.groupID
  initialOffset := row.initialOffset
  tls := { caFile := row.tlsCAFile
           certFile := row.tlsCertFile
           keyFile := row.tlsKeyFile
           insecureSkipVerify := row.tlsInsecureSkipVerify }
  brokers := splitBrokers row.brokers

/-- `storage.Pipeline`, one source-to-destination flow. -/
structure Pipeline where
  id : String
  tenantID : String
  name : String := ""
  sourceID : String
  destinationID : String
  outputFormat : String := "same"
  schemaID : String := ""
  filterPaths : List String := []
  enabled : Bool := true
  workers : Int := 1
  retryMax : Int := 0
  retryBackoffMs : Int := 0
  maxMsgsPerMinute : Int := 0
  dedupWindowSeconds : Int := 0
  shadowDestinationID : String := ""
  shadowPercent : Int := 0
  requiresApproval : Bool := false
  deriving DecidableEq

/-- `storage.Stage`, one step of a pipeline's processing chain. -/
structure StageRow where
  id : String := ""
  tenantID : String
  pipelineID : String
  stageOrder : Int := 0
  stageType : String
  stageConfig : String := ""
  enabled : Bool := true
  deriving DecidableEq

structure Transform where
  id : String := ""
  tenantID : String
  pipelineID : String
  transformType : String
  sourcePath : String := ""
  targetPath : String := ""
  maskPattern : String := ""
  maskReplace : String := ""
  setValue : String := ""
  order : Int := 0
  deriving DecidableEq

/-- `storage.RoutingRule`, one content-based routing predicate. -/
structure RoutingRule where
  id : String := ""
  tenantID : String
  pipelineID : String
  conditionPath : String := ""
  conditionOperator : String := ""
  conditionValue : String := ""
  destinationID : String
  priority : Int := 0
  enabled : Bool := true
  deriving DecidableEq

/-- The part of `storage.DLQEntry` the executor fills in when it hands a failed message to
the dead-letter queue. -/
structure DLQEntry where
  tenantID : String
  pipelineID : String
  sourceQueue : String
  originalMsg : Bytes
  errorReason : String
  failingStageName : String := ""
  failingStageIndex : Nat := 0
  deriving DecidableEq

end MqConnector
