/-
This file models the flow builder of the web console as a client of the server
(`web/src/routes/flow/+page.svelte`, with `request` of `web/src/lib/api.ts`):
`loadExistingPipeline` reads a stored pipeline and draws it, `saveAndDeploy` checks the
drawing and sends it back.

The requests go to the handlers of `Server`, behind a session that was passed on, one
after the other. An object of the client is a record of its keys. Every key has the
case of its field.
-/

import MqConnector.FlowGraph
import MqConnector.Snapshots
import MqConnector.Viewers

namespace MqConnector

open Fields Revisions

namespace Flow

/-! ### Bodies -/

/-- `storage.Role` as a text. -/
def roleText : Role → String
  | .viewer => "viewer"
  | .operator => "operator"
  | .admin => "admin"
  | .owner => "owner"

/-- The object of `pipelineWithRole`. -/
def pipelineWithRole (row : Pipeline) (role : Role) : Record :=
  pipelineLayout.record row ++ [("effective_role", .text (roleText role))]

/-- The object that `GET /v1/pipelines/:id` answers. -/
def pipelineObject {Rule : Type} : Body Rule → Record
  | .pipelines ((row, role) :: _) => pipelineWithRole row role
  | _ => []

/-- The lists that the other three answer; a body that is none is an empty list. -/
def stageList {Rule : Type} : Body Rule → List StageRow
  | .stages rows => rows
  | _ => []

def ruleList {Rule : Type} : Body Rule → List RoutingRule
  | .routingRules rows => rows
  | _ => []

def transformList {Rule : Type} : Body Rule → List Transform
  | .transforms rows => rows
  | _ => []

/-- An assignment to a key of an object. -/
def assign (key : String) (value : Scalar) (record : Record) : Record :=
  if key ∈ record.map Prod.fst then record.map fun entry => if entry.1 = key then (key, value) else entry
  else record ++ [(key, value)]

/-- `decodeJSON`, which disallows unknown fields. -/
def decodeJSON {Row : Type} (layout : Layout Row) (record : Record) : Except String Row :=
  match record.find? fun entry => entry.1 ∉ layout.tags.map Tag.key with
  | some entry => .error ("json: unknown field \"" ++ entry.1 ++ "\"")
  | none => .ok (layout.read (lookup record))

def decodeList {Row : Type} (layout : Layout Row) (records : List Record) : Except String (List Row) :=
  records.mapM (decodeJSON layout)

/-! ### The client -/

/-- What the builder holds; `pipelineID` is empty for a new pipeline. -/
structure Canvas where
  pipelineID : String
  pipelineName : String
  drawing : FlowReconstruction
  transforms : List Transform
  rules : List RoutingRule
  deriving DecidableEq

/-- The server as far as it has come, and the status codes it has answered. -/
structure Wire (World Key Rule : Type) where
  state : ServerState World Key Rule
  statuses : List Nat := []

/-- `res.ok`. -/
def Accepted (status : Nat) : Prop :=
  200 ≤ status ∧ status < 300

instance (status : Nat) : Decidable (Accepted status) :=
  inferInstanceAs (Decidable (_ ∧ _))

/-- The builder's session: who is signed in, what surrounds its requests by their number, what a hot
reload answers, and the clock. A rate limiter or the CSRF check stops a request with an error. -/
structure Session (World Document Key Rule : Type) where
  server : Server World Document Key Rule
  caller : Principal
  around : Nat → Surroundings Rule := fun _ => {}
  reloads : Except String Nat := .ok 0
  now : Nat := 0
  stops : ∀ number status message, (around number).refusal = some (status, message) → 400 ≤ status

namespace Session

variable {World Document Key Rule : Type} (session : Session World Document Key Rule) (browser : Browser)

def tenantID : String := session.caller.claim.tenantID

/-- The context of the next request. -/
def context (wire : Wire World Key Rule) : Context World Document Key Rule where
  server := session.server
  around := session.around wire.statuses.length
  caller := session.caller
  state := wire.state

/-- A request of the browser, answered by the server. -/
def send (wire : Wire World Key Rule) (route : Route World Key Rule) : Response Rule × Wire World Key Rule :=
  let outcome := Server.passOn (session.context wire) route
  (outcome.response,
    { state := outcome.state, statuses := wire.statuses ++ [outcome.response.status] })

/-- `request`: go on with the body of an answer that is accepted, or throw. -/
def request {Value : Type} (wire : Wire World Key Rule) (route : Route World Key Rule)
    (next : Body Rule → Wire World Key Rule → Except FlowError Value × Wire World Key Rule) :
    Except FlowError Value × Wire World Key Rule :=
  let answer := session.send wire route
  if Accepted answer.1.status then next answer.1.body answer.2
  else (.error (.refused answer.1.status), answer.2)

/-- What the builder holds of a stored pipeline: its drawing, with the two lists in their order. -/
def canvasOf (id : String) (row : Pipeline) (stages : List StageRow)
    (transforms : List Transform) (rules : List RoutingRule) : Canvas where
  pipelineID := id
  pipelineName := row.name
  drawing := pipelineToFlow browser row.sourceID row.destinationID stages rules
  transforms := transforms.insertionSort fun first second => first.order ≤ second.order
  rules := rules.insertionSort fun first second => first.priority ≤ second.priority

/-- `loadExistingPipeline`. The four requests are sent whatever is answered to the others. -/
def loadExistingPipeline (id : String) (wire : Wire World Key Rule) :
    Except FlowError Canvas × Wire World Key Rule :=
  let pipe := session.send wire (.getPipeline id)
  let stages := session.send pipe.2 (.listStages id)
  let loadedRules := session.send stages.2 (.listRoutingRules id)
  let txs := session.send loadedRules.2 (.listTransforms id)
  match [pipe.1, stages.1, loadedRules.1, txs.1].find? fun answer => ¬ Accepted answer.status with
  | some answer => (.error (.refused answer.status), txs.2)
  | none =>
    (.ok (canvasOf browser id (pipelineLayout.read (lookup (pipelineObject pipe.1.body)))
      (stageList stages.1.body) (transformList txs.1.body) (ruleList loadedRules.1.body)), txs.2)

/-- The object that updates the pipeline: the one that is there, with what the canvas shows. -/
def updatedObject (current : Record) (canvas : Canvas) (checked : FlowReconstruction.Checked) : Record :=
  let name := orElse canvas.pipelineName (pipelineLayout.read (lookup current)).name
  assign "destination_id" (.text checked.defaultDest.connectionID)
    (assign "source_id" (.text checked.source.connectionID)
      (assign "name" (.text name) (assign "id" (.text canvas.pipelineID) current)))

/-- The body that a new pipeline is posted with. -/
def createdObject (canvas : Canvas) (checked : FlowReconstruction.Checked) : Record := [
  ("name", .text (orElse canvas.pipelineName ("flow-" ++ toString session.now))),
  ("source_id", .text checked.source.connectionID),
  ("destination_id", .text checked.defaultDest.connectionID),
  ("output_format", .text "same"), ("filter_paths", .texts []), ("enabled", .flag true)]

def createdID : Body Rule → String
  | .pipeline row => row.id
  | _ => ""

/-- The first step of a save: the pipeline is updated or created. -/
def savePipeline (canvas : Canvas) (checked : FlowReconstruction.Checked) (wire : Wire World Key Rule)
    (next : String → Wire World Key Rule → Except FlowError Unit × Wire World Key Rule) :
    Except FlowError Unit × Wire World Key Rule :=
  if canvas.pipelineID = "" then
    session.request wire (.createPipeline (decodeJSON pipelineLayout (session.createdObject canvas checked)))
      fun body wire => next (createdID body) wire
  else
    session.request wire (.getPipeline canvas.pipelineID) fun body wire =>
      session.request wire (.updatePipeline canvas.pipelineID
        (decodeJSON pipelineLayout (updatedObject (pipelineObject body) canvas checked))) fun _ wire =>
          next canvas.pipelineID wire

/-- The stages that are sent: every one is enabled. -/
def stageObjects (stageNodes : List FlowNode) : List Record :=
  (stageNodes.filter fun node => node.kind ≠ .destination).zipIdx.map fun entry => [
    ("stage_order", .number (entry.2 + 1)), ("stage_type", .text entry.1.kind.name),
    ("stage_config", .text (orElse entry.1.config "\x7b\x7d")), ("enabled", .flag true)]

/-- The transforms that are sent, if a stage of the chain uses them. -/
def transformObjects (transforms : List Transform) (stageNodes : List FlowNode) : List Record :=
  if stageNodes.any fun node => node.kind = .transform then
    transforms.zipIdx.map fun entry =>
      assign "order" (.number (entry.2 + 1)) (transformLayout.record entry.1)
  else []

/-- The rules that are sent, if there is a route stage in the chain; a rule of priority zero gets its
place. -/
def ruleObjects (rules : List RoutingRule) (stageNodes : List FlowNode) : List Record :=
  if stageNodes.any fun node => node.kind = .route then
    let numbered := rules.zipIdx.map fun entry =>
      { entry.1 with priority := if entry.1.priority = 0 then (entry.2 + 1 : Int) else entry.1.priority }
    (numbered.insertionSort fun first second => first.priority ≤ second.priority).map routingRuleLayout.record
  else []

/-- `saveAndDeploy`. -/
def saveAndDeploy (canvas : Canvas) (wire : Wire World Key Rule) :
    Except FlowError Unit × Wire World Key Rule :=
  match canvas.drawing.check browser with
  | .error error => (.error error, wire)
  | .ok checked =>
    session.savePipeline canvas checked wire fun id wire =>
      session.request wire (.replaceStages id (decodeList stageLayout (stageObjects checked.stageNodes)))
        fun _ wire =>
      session.request wire (.replaceTransforms id
        (decodeList transformLayout (transformObjects canvas.transforms checked.stageNodes))) fun _ wire =>
      session.request wire (.replaceRoutingRules id
        (decodeList routingRuleLayout (ruleObjects canvas.rules checked.stageNodes))) fun _ wire =>
      session.request wire (.reload session.reloads) fun _ wire => (.ok (), wire)

/-- A pipeline is opened and saved without an edit. A canvas that could not be loaded is empty, and
nothing is sent for it. -/
def reopen (id : String) (wire : Wire World Key Rule) : Except FlowError Unit × Wire World Key Rule :=
  match session.loadExistingPipeline browser id wire with
  | (.error error, loaded) => (.error error, loaded)
  | (.ok canvas, loaded) => session.saveAndDeploy browser canvas loaded

/-! ### Opening a pipeline -/

section Opening

variable {session : Session World Document Key Rule} {browser : Browser} {id : String}
  {wire : Wire World Key Rule}

/-- What was sent only read. -/
structure Reads (session : Session World Document Key Rule) (wire : Wire World Key Rule)
    (route : Route World Key Rule) (body : Body Rule → Prop) : Prop where
  state : (session.send wire route).2.state = wire.state
  body : Accepted (session.send wire route).1.status → body (session.send wire route).1.body

theorem not_accepted_of_le {status : Nat} (high : 400 ≤ status) : ¬ Accepted status := fun accepted => by
  have low := accepted.2
  omega

theorem passOn_cases (wire : Wire World Key Rule) (route : Route World Key Rule) :
    (∃ status message, 400 ≤ status ∧
        Server.passOn (session.context wire) route = (session.context wire).refuse status message) ∨
      Server.passOn (session.context wire) route = (session.context wire).handle route := by
  unfold Server.passOn
  rcases refused : (session.context wire).around.refusal with _ | ⟨status, message⟩
  · exact Or.inr rfl
  · exact Or.inl ⟨status, message, session.stops _ status message refused, rfl⟩

theorem reads_of_handle {route : Route World Key Rule} {body : Body Rule → Prop}
    (state : ((session.context wire).handle route).state = wire.state)
    (answers : Accepted ((session.context wire).handle route).response.status →
      body ((session.context wire).handle route).response.body) : Reads session wire route body := by
  rcases @passOn_cases World Document Key Rule session wire route with ⟨status, message, high, same⟩ | same
  · refine ⟨?_, fun accepted => absurd accepted ?_⟩
    · unfold send
      rw [same]
      rfl
    · unfold send
      rw [same]
      exact not_accepted_of_le high
  · refine ⟨?_, fun accepted => ?_⟩
    · unfold send
      rw [same]
      exact state
    · unfold send at accepted ⊢
      rw [same] at accepted ⊢
      exact answers accepted

theorem reads_getPipeline (session : Session World Document Key Rule) (wire : Wire World Key Rule)
    (id : String) :
    Reads session wire (.getPipeline id) fun body => ∃ row role,
      wire.state.pipeline session.tenantID id = some row ∧ body = .pipelines [(row, role)] := by
  have reads : ((session.context wire).handleGetPipeline id).state = wire.state ∧
      (Accepted ((session.context wire).handleGetPipeline id).response.status → ∃ row role,
        wire.state.pipeline session.tenantID id = some row ∧
          ((session.context wire).handleGetPipeline id).response.body = .pipelines [(row, role)]) := by
    unfold Context.handleGetPipeline Context.query Context.found
    rcases (session.context wire).repoError (.get .pipelines) with _ | error
    · rcases found : (session.context wire).state.pipeline (session.context wire).tenantID id with _ | row
      · exact ⟨rfl, fun accepted => absurd accepted (not_accepted_of_le (show 400 ≤ 404 by decide))⟩
      · exact ⟨rfl, fun _ => ⟨row, _, found, rfl⟩⟩
    · exact ⟨rfl, fun accepted => absurd accepted (not_accepted_of_le (show 400 ≤ 500 by decide))⟩
  exact reads_of_handle reads.1 reads.2

theorem listChildren_reads (table : Table) (id : String) (body : Body Rule) :
    ((session.context wire).listChildren table id body).state = wire.state ∧
      (Accepted ((session.context wire).listChildren table id body).response.status →
        ((session.context wire).listChildren table id body).response.body = body) := by
  unfold Context.listChildren Context.ensurePipelineInTenant Context.query Context.found
  rcases (session.context wire).repoError (.get .pipelines) with _ | error
  · rcases (session.context wire).state.pipeline (session.context wire).tenantID id with _ | row
    · exact ⟨rfl, fun accepted => absurd accepted (not_accepted_of_le (show 400 ≤ 404 by decide))⟩
    · rcases (session.context wire).repoError (.list table) with _ | error
      · exact ⟨rfl, fun _ => rfl⟩
      · exact ⟨rfl, fun accepted => absurd accepted (not_accepted_of_le (show 400 ≤ 500 by decide))⟩
  · exact ⟨rfl, fun accepted => absurd accepted (not_accepted_of_le (show 400 ≤ 500 by decide))⟩

theorem reads_listStages (session : Session World Document Key Rule) (wire : Wire World Key Rule)
    (id : String) :
    Reads session wire (.listStages id) fun body => body = .stages (wire.state.stages session.tenantID id) :=
  have reads := listChildren_reads .stages id _
  reads_of_handle reads.1 reads.2

theorem reads_listRoutingRules (session : Session World Document Key Rule) (wire : Wire World Key Rule)
    (id : String) : Reads session wire (.listRoutingRules id) fun body =>
      body = .routingRules (wire.state.routingRules session.tenantID id) :=
  have reads := listChildren_reads .routingRules id _
  reads_of_handle reads.1 reads.2

theorem reads_listTransforms (session : Session World Document Key Rule) (wire : Wire World Key Rule)
    (id : String) : Reads session wire (.listTransforms id) fun body =>
      body = .transforms (wire.state.transforms session.tenantID id) :=
  have reads := listChildren_reads .transforms id _
  reads_of_handle reads.1 reads.2

theorem read_pipelineWithRole (row : Pipeline) (role : Role) :
    pipelineLayout.read (lookup (pipelineWithRole row role)) = row := by
  refine pipelineLayout.read_eq_of_agrees fun tag member => ?_
  have different : "effective_role" ≠ tag.key :=
    (show ∀ tag ∈ pipelineLayout.tags, "effective_role" ≠ tag.key by decide) tag member
  unfold pipelineWithRole lookup
  rw [List.find?_append, List.find?_singleton]
  simp [different]

theorem mem_statuses_send {route : Route World Key Rule} {status : Nat} :
    status ∈ (session.send wire route).2.statuses ↔
      status ∈ wire.statuses ∨ status = (session.send wire route).1.status := by
  show status ∈ wire.statuses ++ [(session.send wire route).1.status] ↔ _
  rw [List.mem_append, List.mem_singleton]

/-- A canvas that opens shows a pipeline of the tenant. -/
theorem loadExistingPipeline_ok {canvas : Canvas} {loaded : Wire World Key Rule}
    (opens : session.loadExistingPipeline browser id wire = (.ok canvas, loaded)) :
    ∃ row, wire.state.pipeline session.tenantID id = some row ∧
      canvas = canvasOf browser id row (wire.state.stages session.tenantID id)
        (wire.state.transforms session.tenantID id) (wire.state.routingRules session.tenantID id) ∧
      loaded.state = wire.state ∧ ∀ status ∈ loaded.statuses, status ∈ wire.statuses ∨ Accepted status := by
  unfold loadExistingPipeline at opens
  dsimp only at opens
  have pipe := reads_getPipeline session wire id
  have stages := reads_listStages session (session.send wire (.getPipeline id)).2 id
  have rules := reads_listRoutingRules session
    (session.send (session.send wire (.getPipeline id)).2 (.listStages id)).2 id
  have transforms := reads_listTransforms session (session.send
    (session.send (session.send wire (.getPipeline id)).2 (.listStages id)).2 (.listRoutingRules id)).2 id
  split at opens
  · exact absurd (congrArg Prod.fst opens) (by simp)
  · rename_i accepted
    have accepted := fun answer member => not_not.mp fun refused =>
      List.find?_eq_none.mp accepted answer member (decide_eq_true refused)
    simp only [List.forall_mem_cons] at accepted
    obtain ⟨pipeAccepted, stagesAccepted, rulesAccepted, transformsAccepted, -⟩ := accepted
    obtain ⟨row, role, stored, pipeBody⟩ := pipe.body pipeAccepted
    have stagesBody := stages.body stagesAccepted
    have rulesBody := rules.body rulesAccepted
    have transformsBody := transforms.body transformsAccepted
    rw [pipe.state] at stagesBody
    rw [stages.state, pipe.state] at rulesBody
    rw [rules.state, stages.state, pipe.state] at transformsBody
    obtain ⟨same, rfl⟩ := Prod.mk.inj opens
    refine ⟨row, stored, ?_, ?_, fun status answered => ?_⟩
    · rw [← Except.ok.inj same, pipeBody, stagesBody, rulesBody, transformsBody, pipelineObject,
        read_pipelineWithRole]
      rfl
    · rw [transforms.state, rules.state, stages.state, pipe.state]
    · rw [mem_statuses_send, mem_statuses_send, mem_statuses_send, mem_statuses_send] at answered
      rcases answered with (((before | rfl) | rfl) | rfl) | rfl
      · exact Or.inl before
      · exact Or.inr pipeAccepted
      · exact Or.inr stagesAccepted
      · exact Or.inr rulesAccepted
      · exact Or.inr transformsAccepted

end Opening

/-! ### Saving it -/

section Saving

variable {session : Session World Document Key Rule} {browser : Browser} {id : String}
  {wire : Wire World Key Rule}

theorem mem_keys_assign {key other : String} {value : Scalar} {record : Record}
    (member : other ∈ record.map Prod.fst) : other ∈ (assign key value record).map Prod.fst := by
  unfold assign
  split
  · rw [List.map_map]
    obtain ⟨entry, among, rfl⟩ := List.mem_map.mp member
    refine List.mem_map.mpr ⟨entry, among, ?_⟩
    rw [Function.comp_apply]
    split
    · rename_i same
      exact same.symm
    · rfl
  · rw [List.map_append]
    exact List.mem_append_left _ member

theorem decodeJSON_of_unknown {Row : Type} {layout : Layout Row} {record : Record} {key : String}
    (member : key ∈ record.map Prod.fst) (unknown : key ∉ layout.tags.map Tag.key) :
    ∃ error, decodeJSON layout record = .error error := by
  obtain ⟨entry, among, rfl⟩ := List.mem_map.mp member
  unfold decodeJSON
  split
  · exact ⟨_, rfl⟩
  · rename_i none
    exact absurd (decide_eq_true unknown) (List.find?_eq_none.mp none entry among)

theorem decodeJSON_updatedObject (row : Pipeline) (role : Role) (canvas : Canvas)
    (checked : FlowReconstruction.Checked) :
    ∃ error, decodeJSON pipelineLayout
      (updatedObject (pipelineObject (.pipelines [(row, role)] : Body Rule)) canvas checked) = .error error := by
  refine @decodeJSON_of_unknown _ _ _ "effective_role" ?_ (by decide)
  refine mem_keys_assign (mem_keys_assign (mem_keys_assign (mem_keys_assign ?_)))
  show "effective_role" ∈ (pipelineLayout.record row ++ [("effective_role", _)]).map Prod.fst
  rw [List.map_append]
  exact List.mem_append_right _ (List.mem_singleton_self _)

theorem not_accepted_updatePipeline {error : String} :
    ¬ Accepted (session.send wire (.updatePipeline id (.error error))).1.status := by
  have handled :
      ¬ Accepted ((session.context wire).handleUpdatePipeline id (.error error)).response.status := by
    unfold Context.handleUpdatePipeline Context.gatePipeline Context.decoded
    split
    · exact not_accepted_of_le (show 400 ≤ 500 by decide)
    · split
      · exact not_accepted_of_le (show 400 ≤ 400 by decide)
      · exact not_accepted_of_le (show 400 ≤ 403 by decide)
  unfold send
  rcases @passOn_cases World Document Key Rule session wire (.updatePipeline id (.error error)) with
    ⟨status, message, high, same⟩ | same
  · rw [same]
    exact not_accepted_of_le high
  · rw [same]
    exact handled

theorem savePipeline_refused {canvas : Canvas} {checked : FlowReconstruction.Checked}
    (identified : canvas.pipelineID ≠ "")
    (next : String → Wire World Key Rule → Except FlowError Unit × Wire World Key Rule) :
    ∃ status ∈ (session.savePipeline canvas checked wire next).2.statuses, ¬ Accepted status := by
  unfold savePipeline
  rw [if_neg identified]
  unfold request
  dsimp only
  by_cases read : Accepted (session.send wire (.getPipeline canvas.pipelineID)).1.status
  · obtain ⟨row, role, -, body⟩ := (reads_getPipeline session wire canvas.pipelineID).body read
    obtain ⟨error, undecoded⟩ := @decodeJSON_updatedObject Rule row role canvas checked
    rw [if_pos read, body, undecoded, if_neg not_accepted_updatePipeline]
    exact ⟨_, mem_statuses_send.mpr (Or.inr rfl), not_accepted_updatePipeline⟩
  · rw [if_neg read]
    exact ⟨_, mem_statuses_send.mpr (Or.inr rfl), read⟩

/-- A drawing that fails its checks sends nothing. -/
theorem saveAndDeploy_of_error {canvas : Canvas} {error : FlowError}
    (fails : canvas.drawing.check browser = .error error) :
    session.saveAndDeploy browser canvas wire = (.error error, wire) := by
  unfold saveAndDeploy
  rw [fails]

theorem saveAndDeploy_refused {canvas : Canvas} {checked : FlowReconstruction.Checked}
    (passes : canvas.drawing.check browser = .ok checked) (identified : canvas.pipelineID ≠ "") :
    ∃ status ∈ (session.saveAndDeploy browser canvas wire).2.statuses, ¬ Accepted status := by
  unfold saveAndDeploy
  rw [passes]
  exact savePipeline_refused identified _

/-- What a stage is, but for its place. -/
def stageContent (stage : StageRow) : String × String × Bool :=
  (stage.stageType, stage.stageConfig, stage.enabled)

/-- The pipeline is stored as it was: its connections, its stages in their order, the transforms in
their order if a stage uses them, and the routing rules if there is a route stage. -/
structure Unchanged (tenantID id : String) (before after : ServerState World Key Rule) : Prop where
  connections : ((after.pipeline tenantID id).map fun row => (row.sourceID, row.destinationID)) =
    (before.pipeline tenantID id).map fun row => (row.sourceID, row.destinationID)
  stages : (after.stages tenantID id).map stageContent = (before.stages tenantID id).map stageContent
  transforms : (∃ stage ∈ before.stages tenantID id, stage.stageType = "transform") →
    ((after.transforms tenantID id).map fun transform => { transform with order := 0 }) =
      (before.transforms tenantID id).map fun transform => { transform with order := 0 }
  routingRules : (∃ stage ∈ before.stages tenantID id, stage.stageType = "route") →
    after.routingRules tenantID id = before.routingRules tenantID id

/-- A pipeline that is opened and saved again goes through without a refusal, and as it was, if and
only if the builder sends nothing because a connection is missing. -/
theorem reopen_iff (session : Session World Document Key Rule) (browser : Browser) (id : String)
    (state : ServerState World Key Rule) (row : Pipeline) (canvas : Canvas) (loaded : Wire World Key Rule)
    (identified : id ≠ "") (stored : state.pipeline session.tenantID id = some row)
    (known : ∀ stage ∈ state.stages session.tenantID id, stage.stageType ∈ stageKinds)
    (valid : ∀ stage ∈ state.stages session.tenantID id, browser.parses stage.stageConfig = true)
    (opens : session.loadExistingPipeline browser id { state } = (.ok canvas, loaded)) :
    let after := (session.reopen browser id { state }).2
    ((∀ status ∈ after.statuses, Accepted status) ∧ Unchanged session.tenantID id state after.state) ↔
      Unconnected row.sourceID row.destinationID (state.stages session.tenantID id)
        (state.routingRules session.tenantID id) := by
  intro after
  obtain ⟨other, storedToo, rfl, kept, accepted⟩ := loadExistingPipeline_ok opens
  obtain rfl := Option.some.inj (stored.symm.trans storedToo)
  have saved : after = (session.saveAndDeploy browser (canvasOf browser id row
      (state.stages session.tenantID id) (state.transforms session.tenantID id)
      (state.routingRules session.tenantID id)) loaded).2 := by
    show (session.reopen browser id { state }).2 = _
    unfold reopen
    rw [opens]
  by_cases missing : Unconnected row.sourceID row.destinationID (state.stages session.tenantID id)
      (state.routingRules session.tenantID id)
  · rw [saved, saveAndDeploy_of_error (check_of_unconnected known missing)]
    refine iff_of_true ⟨fun status member => ?_, ?_⟩ missing
    · exact (accepted status member).resolve_left List.not_mem_nil
    · rw [kept]
      exact ⟨rfl, rfl, fun _ => rfl, fun _ => rfl⟩
  · obtain ⟨order, passes⟩ := @check_of_connected browser row.sourceID row.destinationID
      (state.stages session.tenantID id) (state.routingRules session.tenantID id) known valid missing
    obtain ⟨status, member, refused⟩ := @saveAndDeploy_refused World Document Key Rule session browser loaded
      (canvasOf browser id row (state.stages session.tenantID id) (state.transforms session.tenantID id)
        (state.routingRules session.tenantID id)) _ passes identified
    rw [saved]
    exact iff_of_false (fun holds => refused (holds.1 status member)) missing

end Saving

/-! ### Samples -/

section Samples

/-- An administrator of the tenant `t` at the builder. -/
def sampleSession : Session Unit Unit Unit Unit where
  server := Server.officeServer
  caller := ⟨⟨"ann", "ann", ""⟩, ⟨"t", .admin⟩⟩
  stops _ _ _ refused := absurd refused.symm (Option.some_ne_none _)

/-- `JSON` on the configuration of the sample. -/
def sampleBrowser : Browser where
  parses text := text = "\x7b\x7d"
  stringify := plainRecord
  parses_empty := by decide

def sampleState : ServerState Unit Unit Unit :=
  { Server.office with
    store := DlqService.gateStore [
      { id := "s", tenantID := "t", pipelineID := "p", stageOrder := 1, stageType := "filter"
        stageConfig := "\x7b\x7d" }] }

/-- It is loaded by four requests, read once more, and refused. -/
theorem save_is_refused :
    (∀ stage ∈ sampleState.stages "t" "p",
        stage.stageType ∈ stageKinds ∧ sampleBrowser.parses stage.stageConfig = true) ∧
      (sampleSession.reopen sampleBrowser "p" { state := sampleState }).2.statuses =
        [200, 200, 200, 200, 200, 400] := by
  decide

/-- With both connections it does not go through. -/
theorem reopen_filter :
    ¬ ((∀ status ∈ (sampleSession.reopen sampleBrowser "p" { state := sampleState }).2.statuses, Accepted status) ∧
      Unchanged "t" "p" sampleState (sampleSession.reopen sampleBrowser "p" { state := sampleState }).2.state) := by
  refine (reopen_iff sampleSession sampleBrowser "p" sampleState _ _ _ (by decide) rfl (by decide)
    (by decide) rfl).not.mpr ?_
  decide

end Samples

end Session

end Flow

end MqConnector
