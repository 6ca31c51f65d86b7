/-
This file models `mq/connector_kafka.go`, and asks whether a message that was
Nacked comes again.

A session claims each partition from its committed offset on and forwards what it
claims, in order, into one bounded channel, from which `ReceiveMessage` takes the
pending delivery. `Commit` marks the pending offset and flushes it; `Nack` only
forgets it. A rebalance starts a new session and leaves in the channel what the
old one put there; a reconnect starts with a fresh channel. It is assumed that a
mark never moves the committed offset backwards, and that a session resumes at it.

Committed offsets are cumulative. In one session a Commit after a Nack on the same
partition passes the Nacked message, which is then never claimed again.

`owed` holds the messages Nacked and not committed since, `refused` the sessions
and partitions in which a message was Nacked, and `front` how far a session's
deliveries have been settled. No step reads them.
-/

import MqConnector.Runs
import MqConnector.Models
import Mathlib.Data.List.Infix
import Mathlib.Data.List.Range

namespace MqConnector

/-! ### The connector -/

/-- `kafkaDelivery`: a message and the session that claimed it. -/
structure KafkaDelivery where
  session : Nat
  partition : Nat
  offset : Nat
  value : Bytes
  deriving DecidableEq

/-- `KafkaConnector` and what the broker keeps for its group. -/
structure KafkaState where
  log : Nat → List Bytes
  committed : Nat → Nat
  session : Nat
  next : Nat → Nat
  deliveries : List KafkaDelivery
  pending : Option KafkaDelivery
  owed : List (Nat × Nat)
  refused : List (Nat × Nat)
  front : Nat → Nat → Nat

/-- What happens at the source. `claim` is one round of `ConsumeClaim`; `receive`, `commit` and
`nack` are the calls of `processOne`. -/
inductive KafkaLabel
  | produce (partition : Nat) (value : Bytes)
  | claim (partition : Nat)
  | receive
  | commit
  | nack
  | rebalance
  | reconnect
  deriving DecidableEq

def deliveriesSize : Nat := 16

namespace KafkaState

/-- A first session over a topic and the offsets its group has committed. -/
def initial (log : Nat → List Bytes) (committed : Nat → Nat) : KafkaState where
  log := log
  committed := committed
  session := 0
  next := committed
  deliveries := []
  pending := none
  owed := []
  refused := []
  front := fun _ => committed

/-- `ConsumeClaim`: forward the next message of the partition while the channel has room. -/
def consumeClaim (state : KafkaState) (partition : Nat) : Option KafkaState :=
  if state.deliveries.length < deliveriesSize then
    (state.log partition)[state.next partition]?.map fun value =>
      { state with
        next := Function.update state.next partition (state.next partition + 1)
        deliveries := state.deliveries ++
          [{ session := state.session, partition, offset := state.next partition, value }] }
  else none

/-- `ReceiveMessage`, called when the last delivery has been settled. -/
def receiveMessage (state : KafkaState) : Option KafkaState :=
  match state.pending, state.deliveries with
  | none, delivery :: rest => some { state with pending := some delivery, deliveries := rest }
  | _, _ => none

/-- The session's deliveries of the partition are settled up to this one. -/
def settle (state : KafkaState) (delivery : KafkaDelivery) : KafkaState :=
  { state with
    pending := none
    front := Function.update state.front delivery.session
      (Function.update (state.front delivery.session) delivery.partition (delivery.offset + 1)) }

/-- `Commit`: `MarkMessage` and the flush of the session. -/
def commit (state : KafkaState) : KafkaState :=
  match state.pending with
  | none => state
  | some delivery =>
    { state.settle delivery with
      committed := Function.update state.committed delivery.partition
        (max (state.committed delivery.partition) (delivery.offset + 1))
      owed := state.owed.filter (· ≠ (delivery.partition, delivery.offset)) }

def nack (state : KafkaState) : KafkaState :=
  match state.pending with
  | none => state
  | some delivery =>
    { state.settle delivery with
      owed := (delivery.partition, delivery.offset) :: state.owed
      refused := (delivery.session, delivery.partition) :: state.refused }

/-- `Consume` again: the next session resumes every partition at its committed offset. -/
def rebalance (state : KafkaState) : KafkaState :=
  { state with
    session := state.session + 1
    next := state.committed
    front := Function.update state.front (state.session + 1) state.committed }

/-- `Disconnect` and `Connect`. -/
def reconnect (state : KafkaState) : KafkaState :=
  { state.rebalance with deliveries := [], pending := none }

def step (state : KafkaState) : KafkaLabel → Option KafkaState
  | .produce partition value =>
    some { state with
      log := Function.update state.log partition (state.log partition ++ [value]) }
  | .claim partition => state.consumeClaim partition
  | .receive => state.receiveMessage
  | .commit => some state.commit
  | .nack => some state.nack
  | .rebalance => some state.rebalance
  | .reconnect => some state.reconnect

/-! ### The property and the condition -/

/-- A session that starts now can come to hand the message out again. -/
def DeliveredAgain (state : KafkaState) (partition offset : Nat) : Prop :=
  ∃ after, Runs.Reachable step state.reconnect after ∧
    ∃ delivery ∈ after.pending, delivery.partition = partition ∧ delivery.offset = offset

/-- No Nacked message is lost. -/
def NothingLost (state : KafkaState) : Prop :=
  ∀ message ∈ state.owed, state.DeliveredAgain message.1 message.2

/-- The condition on a call: a delivery is committed only if its session has Nacked nothing of its
partition, and one is Nacked only if the group has not committed past it. -/
def InOrder (state : KafkaState) : KafkaLabel → Prop
  | .commit => ∀ delivery ∈ state.pending, (delivery.session, delivery.partition) ∉ state.refused
  | .nack => ∀ delivery ∈ state.pending, state.committed delivery.partition ≤ delivery.offset
  | _ => True

instance (state : KafkaState) : (label : KafkaLabel) → Decidable (state.InOrder label)
  | .commit => inferInstanceAs (Decidable (∀ delivery ∈ state.pending, _))
  | .nack => inferInstanceAs (Decidable (∀ delivery ∈ state.pending, _))
  | .produce _ _ | .claim _ | .receive | .rebalance | .reconnect => isTrue trivial

/-- What has been claimed and not settled, in the order it will be. -/
def inLine (state : KafkaState) : List KafkaDelivery :=
  state.pending.toList ++ state.deliveries

/-! ### Deliveries come in offset order -/

variable {state after : KafkaState}

/-- The offsets a session has claimed of a partition and that are not settled. -/
def offsets (state : KafkaState) (session partition : Nat) : List Nat :=
  (state.inLine.filter fun delivery =>
    delivery.session = session ∧ delivery.partition = partition).map KafkaDelivery.offset

/-- Nothing is left out: a session's unsettled offsets follow on what is settled, up to where the
current session claims next. -/
def Lined (state : KafkaState) : Prop :=
  ∀ session partition, ∃ count,
    state.offsets session partition = List.range' (state.front session partition) count ∧
      (session = state.session → state.front session partition + count = state.next partition)

theorem inLine_of_pending {delivery : KafkaDelivery} (pending : state.pending = some delivery) :
    state.inLine = delivery :: state.deliveries := by
  rw [inLine, pending]
  rfl

theorem mem_inLine_of_deliveries {delivery : KafkaDelivery} (waiting : delivery ∈ state.deliveries) :
    delivery ∈ state.inLine :=
  List.mem_append_right _ waiting

theorem mem_inLine_of_pending {delivery : KafkaDelivery} (pending : state.pending = some delivery) :
    delivery ∈ state.inLine := by
  rw [inLine_of_pending pending]
  exact List.mem_cons_self

theorem settle_front (state : KafkaState) (delivery : KafkaDelivery) :
    (state.settle delivery).front delivery.session delivery.partition = delivery.offset + 1 := by
  show Function.update state.front delivery.session _ delivery.session delivery.partition = _
  rw [Function.update_self, Function.update_self]

theorem settle_front_of_ne (state : KafkaState) {delivery : KafkaDelivery} {session partition : Nat}
    (different : ¬ (delivery.session = session ∧ delivery.partition = partition)) :
    (state.settle delivery).front session partition = state.front session partition := by
  show Function.update state.front delivery.session _ session partition = _
  by_cases same : session = delivery.session
  · subst same
    rw [Function.update_self, Function.update_of_ne fun found => different ⟨rfl, found.symm⟩]
  · rw [Function.update_of_ne same]

theorem Lined.front_eq {delivery : KafkaDelivery} (lined : state.Lined)
    (pending : state.pending = some delivery) :
    state.front delivery.session delivery.partition = delivery.offset := by
  obtain ⟨count, line, -⟩ := lined delivery.session delivery.partition
  rw [offsets, inLine_of_pending pending, List.filter_cons_of_pos (by simp), List.map_cons] at line
  cases count with
  | zero => cases line
  | succ count => exact (List.cons.inj line).1.symm

theorem Lined.settle {delivery : KafkaDelivery} (lined : state.Lined)
    (pending : state.pending = some delivery) : (state.settle delivery).Lined := by
  intro session partition
  obtain ⟨count, line, current⟩ := lined session partition
  by_cases same : delivery.session = session ∧ delivery.partition = partition
  · obtain ⟨rfl, rfl⟩ := same
    have front := lined.front_eq pending
    rw [offsets, inLine_of_pending pending, List.filter_cons_of_pos (by simp), List.map_cons] at line
    cases count with
    | zero => cases line
    | succ count =>
      refine ⟨count, ?_, fun newest => ?_⟩
      · rw [settle_front, ← front]
        exact (List.cons.inj line).2
      · have total := current newest
        rw [settle_front]
        rw [front] at total
        exact (by omega : delivery.offset + 1 + count = state.next delivery.partition)
  · rw [offsets, inLine_of_pending pending, List.filter_cons_of_neg (by simpa using same)] at line
    rw [settle_front_of_ne state same]
    exact ⟨count, line, current⟩

theorem Lined.consumeClaim {partition : Nat} (lined : state.Lined)
    (fired : state.consumeClaim partition = some after) : after.Lined := by
  unfold KafkaState.consumeClaim at fired
  split at fired
  · obtain ⟨value, -, rfl⟩ := Option.map_eq_some_iff.mp fired
    intro session other
    obtain ⟨count, line, current⟩ := lined session other
    have grown : ∀ delivery : KafkaDelivery, state.pending.toList ++ (state.deliveries ++ [delivery]) =
        state.inLine ++ [delivery] := fun delivery => (List.append_assoc ..).symm
    by_cases same : state.session = session ∧ partition = other
    · obtain ⟨rfl, rfl⟩ := same
      have total := current rfl
      refine ⟨count + 1, ?_, fun _ => ?_⟩
      · rw [offsets, inLine, grown, List.filter_append, List.map_append, List.range'_1_concat, total]
        rw [offsets] at line
        rw [line, List.filter_cons_of_pos (by simp)]
        rfl
      · dsimp only
        rw [Function.update_self]
        omega
    · refine ⟨count, ?_, fun newest => ?_⟩
      · rw [offsets, inLine, grown, List.filter_append, List.filter_cons_of_neg (by simpa using same),
          List.filter_nil, List.append_nil]
        exact line
      · dsimp only at newest ⊢
        rw [Function.update_of_ne fun found => same ⟨newest.symm, found.symm⟩]
        exact current newest
  · cases fired

/-! ### The invariant -/

/-- What links the committed offsets with the messages that are owed. -/
structure OffsetsKept (state : KafkaState) : Prop where
  lined : state.Lined
  sorted : state.inLine.Pairwise fun former latter => former.session ≤ latter.session
  past : ∀ delivery ∈ state.inLine, delivery.session ≤ state.session
  logged : ∀ delivery ∈ state.inLine, delivery.offset < (state.log delivery.partition).length
  owedLogged : ∀ message ∈ state.owed, message.2 < (state.log message.1).length
  /-- A session that has Nacked nothing of a partition has committed all it settled there. -/
  unrefused : ∀ session partition, (session, partition) ∉ state.refused →
    state.front session partition ≤ state.committed partition
  uncommitted : ∀ message ∈ state.owed, state.committed message.1 ≤ message.2
  /-- Deliveries of earlier sessions are settled before a session's first Nack. -/
  refusedPast : ∀ session partition, (session, partition) ∈ state.refused →
    session ≤ state.session ∧ ∀ delivery ∈ state.inLine, session ≤ delivery.session
  /-- A session that has Nacked something of a partition has gone past a message that is owed. -/
  skipped : ∀ session partition, (session, partition) ∈ state.refused →
    (session = state.session ∨ ∃ delivery ∈ state.inLine, delivery.session = session) →
    ∃ offset < state.front session partition, (partition, offset) ∈ state.owed

theorem initial_offsetsKept (log : Nat → List Bytes) (committed : Nat → Nat) :
    (initial log committed).OffsetsKept where
  lined _ _ := ⟨0, rfl, fun _ => rfl⟩
  sorted := List.Pairwise.nil
  past _ member := absurd member List.not_mem_nil
  logged _ member := absurd member List.not_mem_nil
  owedLogged _ member := absurd member List.not_mem_nil
  unrefused _ _ _ := le_rfl
  uncommitted _ member := absurd member List.not_mem_nil
  refusedPast _ _ member := absurd member List.not_mem_nil
  skipped _ _ member := absurd member List.not_mem_nil

theorem OffsetsKept.produce (kept : state.OffsetsKept) (partition : Nat) (value : Bytes) :
    OffsetsKept { state with
      log := Function.update state.log partition (state.log partition ++ [value]) } := by
  have grown : ∀ other, (state.log other).length ≤
      (Function.update state.log partition (state.log partition ++ [value]) other).length := by
    intro other
    by_cases same : other = partition
    · rw [same, Function.update_self, List.length_append]
      exact Nat.le_add_right ..
    · rw [Function.update_of_ne same]
  exact { kept with
          logged := fun delivery member => (kept.logged delivery member).trans_le (grown _)
          owedLogged := fun message member => (kept.owedLogged message member).trans_le (grown _) }

theorem OffsetsKept.consumeClaim {partition : Nat} (kept : state.OffsetsKept)
    (fired : state.consumeClaim partition = some after) : after.OffsetsKept := by
  have lined := kept.lined.consumeClaim fired
  unfold KafkaState.consumeClaim at fired
  split at fired
  · obtain ⟨value, found, rfl⟩ := Option.map_eq_some_iff.mp fired
    obtain ⟨inside, -⟩ := List.getElem?_eq_some_iff.mp found
    -- the line grows at its end, by a delivery of the current session
    have member : ∀ {delivery newest : KafkaDelivery},
        delivery ∈ state.pending.toList ++ (state.deliveries ++ [newest]) →
          delivery ∈ state.inLine ∨ delivery = newest := by
      intro delivery newest found
      rw [← List.append_assoc] at found
      exact (List.mem_append.mp found).imp_right List.mem_singleton.mp
    refine { kept with lined, sorted := ?_, past := ?_, logged := ?_, refusedPast := ?_, skipped := ?_ }
    · rw [inLine, ← List.append_assoc]
      refine List.pairwise_append.mpr ⟨kept.sorted, List.pairwise_singleton .., ?_⟩
      intro former waiting latter last
      rw [List.mem_singleton.mp last]
      exact kept.past former waiting
    · intro delivery waiting
      rcases member waiting with earlier | rfl
      · exact kept.past delivery earlier
      · exact le_rfl
    · intro delivery waiting
      rcases member waiting with earlier | rfl
      · exact kept.logged delivery earlier
      · exact inside
    · intro session other refused
      obtain ⟨begun, before⟩ := kept.refusedPast session other refused
      refine ⟨begun, fun delivery waiting => ?_⟩
      rcases member waiting with earlier | rfl
      · exact before delivery earlier
      · exact begun
    · intro session other refused present
      refine kept.skipped session other refused ?_
      rcases present with newest | ⟨delivery, waiting, same⟩
      · exact Or.inl newest
      · rcases member waiting with earlier | rfl
        · exact Or.inr ⟨delivery, earlier, same⟩
        · exact Or.inl same.symm
  · cases fired

theorem inLine_receiveMessage (fired : state.receiveMessage = some after) :
    ∃ delivery rest, state.pending = none ∧ state.deliveries = delivery :: rest ∧
      after = { state with pending := some delivery, deliveries := rest } ∧
      after.inLine = state.inLine := by
  unfold receiveMessage at fired
  split at fired
  · rename_i delivery rest settled waiting
    cases fired
    refine ⟨delivery, rest, settled, waiting, rfl, ?_⟩
    rw [inLine, inLine, settled, waiting]
    rfl
  · cases fired

theorem OffsetsKept.receiveMessage (kept : state.OffsetsKept)
    (fired : state.receiveMessage = some after) : after.OffsetsKept := by
  obtain ⟨delivery, rest, -, -, rfl, line⟩ := inLine_receiveMessage fired
  have offsets : ∀ session partition,
      KafkaState.offsets { state with pending := some delivery, deliveries := rest } session partition =
        state.offsets session partition := by
    intro session partition
    rw [KafkaState.offsets, line]
    rfl
  refine { kept with lined := ?_, sorted := ?_, past := ?_, logged := ?_, refusedPast := ?_, skipped := ?_ }
  · intro session partition
    rw [offsets]
    exact kept.lined session partition
  · rw [line]
    exact kept.sorted
  · rw [line]
    exact kept.past
  · rw [line]
    exact kept.logged
  · rw [line]
    exact kept.refusedPast
  · rw [line]
    exact kept.skipped

theorem OffsetsKept.sorted_deliveries {delivery : KafkaDelivery} (kept : state.OffsetsKept)
    (pending : state.pending = some delivery) :
    (∀ later ∈ state.deliveries, delivery.session ≤ later.session) ∧
      state.deliveries.Pairwise fun former latter => former.session ≤ latter.session := by
  have sorted := kept.sorted
  rw [inLine_of_pending pending] at sorted
  exact List.pairwise_cons.mp sorted

theorem OffsetsKept.commit (kept : state.OffsetsKept) (ordered : state.InOrder .commit) :
    state.commit.OffsetsKept := by
  unfold KafkaState.commit
  split
  · exact kept
  · rename_i delivery pending
    have unrefused := ordered delivery pending
    have front := kept.lined.front_eq pending
    have reached : delivery.offset ≤ state.committed delivery.partition :=
      front ▸ kept.unrefused _ _ unrefused
    have owes : ∀ {message : Nat × Nat},
        message ∈ state.owed.filter (· ≠ (delivery.partition, delivery.offset)) →
          message ∈ state.owed ∧ message ≠ (delivery.partition, delivery.offset) := by
      intro message member
      obtain ⟨owed, different⟩ := List.mem_filter.mp member
      exact ⟨owed, of_decide_eq_true different⟩
    have grows : ∀ partition, state.committed partition ≤ Function.update state.committed
        delivery.partition (max (state.committed delivery.partition) (delivery.offset + 1))
          partition := by
      intro partition
      by_cases same : partition = delivery.partition
      · rw [same, Function.update_self]
        exact le_max_left ..
      · rw [Function.update_of_ne same]
    refine { lined := ?_, sorted := ?_, past := ?_, logged := ?_, owedLogged := ?_, unrefused := ?_,
             uncommitted := ?_, refusedPast := ?_, skipped := ?_ }
    · exact kept.lined.settle pending
    · exact (kept.sorted_deliveries pending).2
    · exact fun other waiting => kept.past other (mem_inLine_of_deliveries waiting)
    · exact fun other waiting => kept.logged other (mem_inLine_of_deliveries waiting)
    · exact fun message member => kept.owedLogged message (owes member).1
    · intro session partition free
      show (state.settle delivery).front session partition ≤ _
      by_cases same : delivery.session = session ∧ delivery.partition = partition
      · obtain ⟨rfl, rfl⟩ := same
        rw [settle_front]
        dsimp only
        rw [Function.update_self]
        exact le_max_right ..
      · rw [settle_front_of_ne state same]
        exact (kept.unrefused session partition free).trans (grows partition)
    · intro message member
      obtain ⟨owed, different⟩ := owes member
      have before := kept.uncommitted message owed
      dsimp only
      by_cases same : message.1 = delivery.partition
      · rw [same, Function.update_self]
        rw [same] at before
        have apart : message.2 ≠ delivery.offset := fun found => different (Prod.ext same found)
        exact max_le before (by omega)
      · rw [Function.update_of_ne same]
        exact before
    · intro session partition refused
      obtain ⟨begun, before⟩ := kept.refusedPast session partition refused
      exact ⟨begun, fun other waiting => before other (mem_inLine_of_deliveries waiting)⟩
    · intro session partition refused present
      have among := mem_inLine_of_pending pending
      obtain ⟨begun, before⟩ := kept.refusedPast session partition refused
      -- the session that commits comes first in line and has Nacked nothing of its partition
      have apart : ¬ (delivery.session = session ∧ delivery.partition = partition) := by
        rintro ⟨rfl, rfl⟩
        exact unrefused refused
      have other : partition ≠ delivery.partition := by
        intro same
        refine apart ⟨le_antisymm ?_ (before delivery among), same.symm⟩
        rcases present with rfl | ⟨later, waiting, rfl⟩
        · exact kept.past delivery among
        · exact (kept.sorted_deliveries pending).1 later waiting
      obtain ⟨offset, passed, owed⟩ := kept.skipped session partition refused (present.imp_right
        fun ⟨later, waiting, same⟩ => ⟨later, mem_inLine_of_deliveries waiting, same⟩)
      refine ⟨offset, ?_, List.mem_filter.mpr ⟨owed, decide_eq_true fun same => ?_⟩⟩
      · show offset < (state.settle delivery).front session partition
        rw [settle_front_of_ne state apart]
        exact passed
      · exact other (congrArg Prod.fst same)

theorem OffsetsKept.nack (kept : state.OffsetsKept) (ordered : state.InOrder .nack) :
    state.nack.OffsetsKept := by
  unfold KafkaState.nack
  split
  · exact kept
  · rename_i delivery pending
    have among := mem_inLine_of_pending pending
    refine { lined := ?_, sorted := ?_, past := ?_, logged := ?_, owedLogged := ?_, unrefused := ?_,
             uncommitted := ?_, refusedPast := ?_, skipped := ?_ }
    · exact kept.lined.settle pending
    · exact (kept.sorted_deliveries pending).2
    · exact fun other waiting => kept.past other (mem_inLine_of_deliveries waiting)
    · exact fun other waiting => kept.logged other (mem_inLine_of_deliveries waiting)
    · intro message member
      rcases List.mem_cons.mp member with rfl | owed
      · exact kept.logged delivery among
      · exact kept.owedLogged message owed
    · intro session partition free
      have apart : ¬ (delivery.session = session ∧ delivery.partition = partition) := by
        rintro ⟨rfl, rfl⟩
        exact free List.mem_cons_self
      show (state.settle delivery).front session partition ≤ _
      rw [settle_front_of_ne state apart]
      exact kept.unrefused session partition fun refused => free (List.mem_cons_of_mem _ refused)
    · intro message member
      rcases List.mem_cons.mp member with rfl | owed
      · exact ordered delivery pending
      · exact kept.uncommitted message owed
    · intro session partition member
      rcases List.mem_cons.mp member with found | refused
      · obtain ⟨rfl, rfl⟩ := Prod.mk.inj found
        exact ⟨kept.past delivery among, (kept.sorted_deliveries pending).1⟩
      · obtain ⟨begun, before⟩ := kept.refusedPast session partition refused
        exact ⟨begun, fun other waiting => before other (mem_inLine_of_deliveries waiting)⟩
    · intro session partition member present
      show ∃ offset < (state.settle delivery).front session partition, _
      by_cases same : delivery.session = session ∧ delivery.partition = partition
      · obtain ⟨rfl, rfl⟩ := same
        rw [settle_front]
        exact ⟨delivery.offset, Nat.lt_succ_self _, List.mem_cons_self⟩
      · rw [settle_front_of_ne state same]
        have refused : (session, partition) ∈ state.refused := by
          rcases List.mem_cons.mp member with found | refused
          · obtain ⟨rfl, rfl⟩ := Prod.mk.inj found
            exact absurd ⟨rfl, rfl⟩ same
          · exact refused
        obtain ⟨offset, passed, owed⟩ := kept.skipped session partition refused (present.imp_right
          fun ⟨later, waiting, same⟩ => ⟨later, mem_inLine_of_deliveries waiting, same⟩)
        exact ⟨offset, passed, List.mem_cons_of_mem _ owed⟩

theorem Lined.restart (lined : state.Lined) (pending : Option KafkaDelivery)
    (deliveries : List KafkaDelivery)
    (line : pending.toList ++ deliveries = state.inLine ∨ pending.toList ++ deliveries = [])
    (past : ∀ delivery ∈ pending.toList ++ deliveries, delivery.session ≤ state.session) :
    Lined { state.rebalance with pending, deliveries } := by
  intro session partition
  show ∃ count, ((pending.toList ++ deliveries).filter fun delivery =>
      delivery.session = session ∧ delivery.partition = partition).map KafkaDelivery.offset =
    List.range' (Function.update state.front (state.session + 1) state.committed session partition)
      count ∧ (session = state.session + 1 → Function.update state.front (state.session + 1)
        state.committed session partition + count = state.committed partition)
  by_cases newest : session = state.session + 1
  · subst newest
    have none : ((pending.toList ++ deliveries).filter fun delivery =>
        delivery.session = state.session + 1 ∧ delivery.partition = partition) = [] := by
      refine List.filter_eq_nil_iff.mpr fun delivery member found => ?_
      have older := past delivery member
      have same := (of_decide_eq_true found).1
      omega
    rw [none, Function.update_self]
    exact ⟨0, rfl, fun _ => rfl⟩
  · rw [Function.update_of_ne newest]
    rcases line with same | none
    · obtain ⟨count, offsets, -⟩ := lined session partition
      rw [same]
      exact ⟨count, offsets, fun found => absurd found newest⟩
    · rw [none]
      exact ⟨0, rfl, fun found => absurd found newest⟩

theorem OffsetsKept.restart (kept : state.OffsetsKept) (pending : Option KafkaDelivery)
    (deliveries : List KafkaDelivery)
    (line : pending.toList ++ deliveries = state.inLine ∨ pending.toList ++ deliveries = []) :
    OffsetsKept { state.rebalance with pending, deliveries } := by
  have still : ∀ delivery ∈ pending.toList ++ deliveries, delivery ∈ state.inLine := by
    intro delivery member
    rcases line with same | none
    · exact same ▸ member
    · exact absurd (none ▸ member) List.not_mem_nil
  have front : ∀ session ≤ state.session, ∀ partition,
      Function.update state.front (state.session + 1) state.committed session partition =
        state.front session partition := by
    intro session older partition
    rw [Function.update_of_ne (by omega)]
  refine { lined := ?_, sorted := ?_, past := ?_, logged := ?_, owedLogged := kept.owedLogged,
           unrefused := ?_, uncommitted := kept.uncommitted, refusedPast := ?_, skipped := ?_ }
  · exact kept.lined.restart pending deliveries line fun delivery member =>
      kept.past delivery (still delivery member)
  · show (pending.toList ++ deliveries).Pairwise _
    rcases line with same | none
    · rw [same]
      exact kept.sorted
    · rw [none]
      exact List.Pairwise.nil
  · exact fun delivery member => (kept.past delivery (still delivery member)).trans (Nat.le_succ _)
  · exact fun delivery member => kept.logged delivery (still delivery member)
  · intro session partition free
    show Function.update state.front (state.session + 1) state.committed session partition ≤
      state.committed partition
    by_cases newest : session = state.session + 1
    · rw [newest, Function.update_self]
    · rw [Function.update_of_ne newest]
      exact kept.unrefused session partition free
  · intro session partition refused
    obtain ⟨begun, before⟩ := kept.refusedPast session partition refused
    exact ⟨begun.trans (Nat.le_succ _),
      fun delivery member => before delivery (still delivery member)⟩
  · intro session partition refused present
    have begun := (kept.refusedPast session partition refused).1
    show ∃ offset < Function.update state.front (state.session + 1) state.committed session partition,
      (partition, offset) ∈ state.owed
    rw [front session begun]
    refine kept.skipped session partition refused (Or.inr ?_)
    rcases present with newest | ⟨delivery, member, same⟩
    · exact absurd (newest ▸ begun) (Nat.not_succ_le_self _)
    · exact ⟨delivery, still delivery member, same⟩

/-- Every step in order keeps the offsets. -/
theorem step_offsetsKept {label : KafkaLabel} (kept : state.OffsetsKept)
    (ordered : state.InOrder label) (fired : state.step label = some after) : after.OffsetsKept := by
  cases label with
  | produce partition value =>
    cases fired
    exact kept.produce partition value
  | claim partition => exact kept.consumeClaim fired
  | receive => exact kept.receiveMessage fired
  | commit =>
    cases fired
    exact kept.commit ordered
  | nack =>
    cases fired
    exact kept.nack ordered
  | rebalance =>
    cases fired
    exact kept.restart state.pending state.deliveries (Or.inl rfl)
  | reconnect =>
    cases fired
    exact kept.restart none [] (Or.inr rfl)

/-! ### Being delivered again -/

theorem reachable_pending {partition : Nat} (settled : state.pending = none)
    (empty : state.deliveries = []) (inside : state.next partition < (state.log partition).length) :
    ∃ delivery, delivery.partition = partition ∧ delivery.offset = state.next partition ∧
      Runs.Reachable step state { state with
        next := Function.update state.next partition (state.next partition + 1)
        pending := some delivery } := by
  let delivery : KafkaDelivery :=
    { session := state.session, partition, offset := state.next partition
      value := (state.log partition)[state.next partition] }
  have claims : state.step (.claim partition) = some { state with
      next := Function.update state.next partition (state.next partition + 1)
      deliveries := [delivery] } := by
    rw [step, consumeClaim, empty, List.getElem?_eq_getElem inside]
    rfl
  have receives : KafkaState.step { state with
      next := Function.update state.next partition (state.next partition + 1)
      deliveries := [delivery] } .receive = some { state with
        next := Function.update state.next partition (state.next partition + 1)
        pending := some delivery } := by
    rw [step, receiveMessage, settled, empty]
  exact ⟨delivery, rfl, rfl, .next (.next .start trivial claims) trivial receives⟩

theorem reachable_offset {partition offset : Nat} (ahead : Nat) :
    ∀ {state : KafkaState}, state.pending = none → state.deliveries = [] →
      state.next partition + ahead = offset → offset < (state.log partition).length →
      ∃ after, Runs.Reachable step state after ∧
        ∃ delivery ∈ after.pending, delivery.partition = partition ∧ delivery.offset = offset := by
  induction ahead with
  | zero =>
    intro state settled empty here inside
    obtain rfl : state.next partition = offset := here
    obtain ⟨delivery, same, found, reached⟩ := reachable_pending settled empty inside
    exact ⟨_, reached, delivery, rfl, same, found⟩
  | succ ahead hypothesis =>
    intro state settled empty before inside
    have sooner : state.next partition < (state.log partition).length := by omega
    obtain ⟨delivery, -, -, reached⟩ := reachable_pending settled empty sooner
    have refuses : KafkaState.step { state with
        next := Function.update state.next partition (state.next partition + 1)
        pending := some delivery } .nack = some (KafkaState.nack { state with
          next := Function.update state.next partition (state.next partition + 1)
          pending := some delivery }) := rfl
    have closer : Function.update state.next partition (state.next partition + 1) partition + ahead =
        offset := by
      rw [Function.update_self]
      omega
    obtain ⟨after, further, handed⟩ := @hypothesis (KafkaState.nack { state with
      next := Function.update state.next partition (state.next partition + 1)
      pending := some delivery }) rfl empty closer inside
    exact ⟨after, (reached.next trivial refuses).trans further, handed⟩

theorem claimed_ahead {partition bound : Nat}
    (resumed : bound ≤ state.committed partition ∧ bound ≤ state.next partition ∧
      ∀ delivery ∈ state.inLine, delivery.partition = partition → bound ≤ delivery.offset)
    {label : KafkaLabel} (fired : state.step label = some after) :
    bound ≤ after.committed partition ∧ bound ≤ after.next partition ∧
      ∀ delivery ∈ after.inLine, delivery.partition = partition → bound ≤ delivery.offset := by
  obtain ⟨committed, next, line⟩ := resumed
  cases label with
  | produce other value =>
    cases fired
    exact ⟨committed, next, line⟩
  | claim other =>
    simp only [step, consumeClaim] at fired
    split at fired
    · obtain ⟨value, -, rfl⟩ := Option.map_eq_some_iff.mp fired
      refine ⟨committed, ?_, fun delivery member same => ?_⟩
      · dsimp only
        by_cases here : partition = other
        · rw [← here, Function.update_self]
          omega
        · rw [Function.update_of_ne here]
          exact next
      · rw [inLine, ← List.append_assoc] at member
        rcases List.mem_append.mp member with earlier | newest
        · exact line delivery earlier same
        · cases List.mem_singleton.mp newest
          cases same
          exact next
    · cases fired
  | receive =>
    obtain ⟨delivery, rest, -, -, rfl, same⟩ := inLine_receiveMessage fired
    rw [same]
    exact ⟨committed, next, line⟩
  | commit =>
    cases fired
    unfold KafkaState.commit
    split
    · exact ⟨committed, next, line⟩
    · rename_i delivery pending
      refine ⟨?_, next, fun other waiting => line other (mem_inLine_of_deliveries waiting)⟩
      dsimp only
      by_cases here : partition = delivery.partition
      · rw [here, Function.update_self]
        rw [here] at committed
        exact le_max_of_le_left committed
      · rw [Function.update_of_ne here]
        exact committed
  | nack =>
    cases fired
    unfold KafkaState.nack
    split
    · exact ⟨committed, next, line⟩
    · exact ⟨committed, next, fun other waiting => line other (mem_inLine_of_deliveries waiting)⟩
  | rebalance =>
    cases fired
    exact ⟨committed, committed, line⟩
  | reconnect =>
    cases fired
    exact ⟨committed, committed, fun _ member => absurd member List.not_mem_nil⟩

theorem deliveredAgain_iff {partition offset : Nat} (inside : offset < (state.log partition).length) :
    state.DeliveredAgain partition offset ↔ state.committed partition ≤ offset := by
  constructor
  · rintro ⟨after, reached, delivery, pending, rfl, rfl⟩
    have ahead := reached.invariant
      (fun state' => state.committed delivery.partition ≤ state'.committed delivery.partition ∧
        state.committed delivery.partition ≤ state'.next delivery.partition ∧
        ∀ other ∈ state'.inLine, other.partition = delivery.partition →
          state.committed delivery.partition ≤ other.offset)
      ⟨le_rfl, le_rfl, fun _ member => absurd member List.not_mem_nil⟩
      (fun _ _ _ resumed _ fired => claimed_ahead resumed fired)
    exact ahead.2.2 delivery (mem_inLine_of_pending pending) rfl
  · intro behind
    exact reachable_offset (offset - state.committed partition) rfl rfl
      (show state.committed partition + (offset - state.committed partition) = offset by omega) inside

/-! ### Every run -/

/-- Nothing is lost exactly while no commit has passed a message that is owed. -/
theorem OffsetsKept.nothingLost_iff (kept : state.OffsetsKept) :
    state.NothingLost ↔ ∀ message ∈ state.owed, state.committed message.1 ≤ message.2 := by
  refine forall₂_congr fun message owed => ?_
  exact deliveredAgain_iff (kept.owedLogged message owed)

theorem commit_of_pending {delivery : KafkaDelivery} (pending : state.pending = some delivery) :
    state.commit.log = state.log ∧
      state.commit.committed = Function.update state.committed delivery.partition
        (max (state.committed delivery.partition) (delivery.offset + 1)) ∧
      state.commit.owed = state.owed.filter (· ≠ (delivery.partition, delivery.offset)) := by
  unfold KafkaState.commit
  rw [pending]
  exact ⟨rfl, rfl, rfl⟩

theorem nack_of_pending {delivery : KafkaDelivery} (pending : state.pending = some delivery) :
    state.nack.log = state.log ∧ state.nack.committed = state.committed ∧
      state.nack.owed = (delivery.partition, delivery.offset) :: state.owed := by
  unfold KafkaState.nack
  rw [pending]
  exact ⟨rfl, rfl, rfl⟩

/-- A commit past a message that is owed loses it. -/
theorem OffsetsKept.lost_of_not_inOrder {label : KafkaLabel} (kept : state.OffsetsKept)
    (broken : ¬ state.InOrder label) (fired : state.step label = some after) :
    ¬ after.NothingLost := by
  cases label with
  | commit =>
    cases fired
    obtain ⟨delivery, broken⟩ := Classical.not_forall.mp broken
    obtain ⟨pending, refused⟩ := Classical.not_imp.mp broken
    have among := mem_inLine_of_pending pending
    obtain ⟨offset, passed, owed⟩ := kept.skipped _ _ (Classical.not_not.mp refused)
      (Or.inr ⟨delivery, among, rfl⟩)
    rw [kept.lined.front_eq pending] at passed
    obtain ⟨log, committed, owes⟩ := commit_of_pending pending
    have different : (delivery.partition, offset) ≠ (delivery.partition, delivery.offset) :=
      fun same => absurd (Prod.mk.inj same).2 passed.ne
    have still : (delivery.partition, offset) ∈ state.commit.owed := by
      rw [owes]
      exact List.mem_filter.mpr ⟨owed, decide_eq_true different⟩
    have inside : offset < (state.commit.log delivery.partition).length := by
      rw [log]
      exact kept.owedLogged _ owed
    intro nothing
    have behind := (deliveredAgain_iff inside).mp (nothing _ still)
    rw [committed, Function.update_self] at behind
    omega
  | nack =>
    cases fired
    obtain ⟨delivery, broken⟩ := Classical.not_forall.mp broken
    obtain ⟨pending, passed⟩ := Classical.not_imp.mp broken
    obtain ⟨log, committed, owes⟩ := nack_of_pending pending
    have now : (delivery.partition, delivery.offset) ∈ state.nack.owed := by
      rw [owes]
      exact List.mem_cons_self
    have inside : delivery.offset < (state.nack.log delivery.partition).length := by
      rw [log]
      exact kept.logged delivery (mem_inLine_of_pending pending)
    intro nothing
    have behind := (deliveredAgain_iff inside).mp (nothing _ now)
    rw [committed] at behind
    exact passed behind
  | _ => exact absurd trivial broken

/-- In every run in which no session commits a message of a partition after it has Nacked one
there, and nothing is Nacked that the group has committed past, a Nacked message that was not
committed since is delivered again; and a further step keeps it so exactly when it meets the
condition too. -/
theorem nothingLost_of_inOrder (log : Nat → List Bytes) (committed : Nat → Nat) (state : KafkaState)
    (reached : Runs.Reaches step InOrder (initial log committed) state) :
    (∀ message ∈ state.owed, state.committed message.1 ≤ message.2) ∧ state.NothingLost ∧
      ∀ label after, state.step label = some after → (after.NothingLost ↔ state.InOrder label) := by
  have kept : state.OffsetsKept := reached.invariant OffsetsKept (initial_offsetsKept log committed)
    fun _ _ _ kept ordered fired => step_offsetsKept kept ordered fired
  refine ⟨kept.uncommitted, kept.nothingLost_iff.mpr kept.uncommitted, fun label after fired => ?_⟩
  constructor
  · intro nothing
    by_contra broken
    exact kept.lost_of_not_inOrder broken fired nothing
  · intro ordered
    have still := step_offsetsKept kept ordered fired
    exact still.nothingLost_iff.mpr still.uncommitted

/-- Two messages on the first partition of a topic. -/
def twoMessages : Nat → List Bytes
  | 0 => [[1], [2]]
  | _ => []

/-- The first message is Nacked, and the second committed in the same session. -/
def commitAfterNack : List KafkaLabel :=
  [.claim 0, .claim 0, .receive, .nack, .receive, .commit]

/-- The first message is owed and no session will deliver it again. -/
theorem nacked_message_lost :
    ∃ state, Runs.Reachable step (initial twoMessages fun _ => 0) state ∧ (0, 0) ∈ state.owed ∧
      ¬ state.DeliveredAgain 0 0 := by
  obtain ⟨state, reached, tested⟩ := Runs.exists_reaches_of_exec step (fun _ _ => True)
    (initial twoMessages fun _ => 0) commitAfterNack
    (fun state => decide ((0, 0) ∈ state.owed ∧ 0 < (state.log 0).length ∧ 0 < state.committed 0))
    (by decide)
  obtain ⟨owed, inside, passed⟩ := of_decide_eq_true tested
  refine ⟨state, reached, owed, fun again => ?_⟩
  exact absurd ((deliveredAgain_iff inside).mp again) (not_le.mpr passed)

/-- The first message is Nacked, and the worker commits it after a rebalance. -/
def commitAfterRebalance : List KafkaLabel :=
  [.claim 0, .receive, .nack, .rebalance, .claim 0, .receive]

/-- Committing the redelivered message loses nothing. -/
theorem redelivered_message_owed :
    ∃ state : KafkaState, (0, 0) ∈ state.owed ∧ state.InOrder .commit ∧ state.NothingLost ∧
      state.commit.NothingLost := by
  obtain ⟨state, reached, tested⟩ := Runs.exists_reaches_of_exec step InOrder
    (initial twoMessages fun _ => 0) commitAfterRebalance
    (fun state => decide ((0, 0) ∈ state.owed ∧ state.InOrder .commit)) (by decide)
  obtain ⟨owed, ordered⟩ := of_decide_eq_true tested
  obtain ⟨-, nothing, further⟩ := nothingLost_of_inOrder twoMessages (fun _ => 0) state reached
  exact ⟨state, owed, ordered, nothing, (further .commit state.commit rfl).mpr ordered⟩

end KafkaState

end MqConnector
