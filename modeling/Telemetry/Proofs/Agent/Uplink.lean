import Telemetry.Agent.Clockwork
import Telemetry.Agent.Uplink
import Telemetry.Proofs.Agent.Shutdown

/-!
# What an agent leaves behind

Batches may reach the collector in any order while their sending goes on, and an old batch may overwrite the
readings of a newer one. The last batch is different. When it is sent, no other is on its way, unless one has
been cut off. So once it has arrived, nothing but the batch itself can arrive, and the store keeps the last
readings of the agent.
-/

namespace Telemetry

/-- What has happened to the agent, if something has. -/
def UplinkEvent.agent? : UplinkEvent → Option AgentEvent
  | agent event => some event
  | arrive _ => none

theorem Worker.batch?_of_isOver {worker : Worker} (finished : worker.isOver = true) : worker.batch? = none := by
  cases worker with
  | taking | sending => cases finished
  | stopped | aborted => rfl

/-- An agent whose parts are over has no batch on its way but the last one. -/
theorem Agent.onTheirWay_of_isOver {agent : Agent} (finished : ∀ part, agent.isOver part = true) :
    agent.onTheirWay = agent.stage.batch?.toList := by
  have noneSending : agent.pool.workers.filterMap Worker.batch? = [] := by
    apply List.filterMap_eq_nil_iff.2
    intro worker among
    obtain ⟨number, held⟩ := List.mem_iff_getElem?.1 among
    have ended := finished (.worker number)
    rw [isOver, held] at ended
    exact Worker.batch?_of_isOver ended
  rw [onTheirWay, noneSending, List.nil_append]

/-- Nothing is cut off before some part has been asked to stop. -/
theorem Agent.cutOffBy_eq_nil {agent : Agent} {event : AgentEvent} (inTime : ∀ running, event ≠ .timeUp running)
    (notAsked : ∀ part, event ≠ .yield part) : agent.cutOffBy event = [] := by
  cases event with
  | timeUp running => exact absurd rfl (inTime running)
  | yield part => exact absurd rfl (notAsked part)
  | _ => rfl

namespace Uplink

/-- What has happened to the agent, in order. -/
def agentEvents (events : List UplinkEvent) : List AgentEvent :=
  events.filterMap UplinkEvent.agent?

variable {uplink next reached : Uplink} {events : List UplinkEvent} {effects : List AgentEffect}
  {readings : Readings} {batch : Batch}

theorem run_eq_some_iff :
    uplink.run events = some (reached, effects) ↔ Run step uplink events effects reached :=
  Run.iff_of_equations (fun _ => rfl) fun _ _ _ => rfl

theorem agentEvents_append_singleton (events : List UplinkEvent) (event : UplinkEvent) :
    agentEvents (events ++ [event]) = agentEvents events ++ event.agent?.toList := by
  rw [agentEvents, List.filterMap_append]
  cases event <;> rfl

/-! ## What the steps are -/

theorem step_agent {event : AgentEvent} (stepped : uplink.step (.agent event) = some (next, effects)) :
    ∃ agent, uplink.agent.step event = some (agent, effects) ∧
      next = { uplink with agent, cutOff := uplink.cutOff ++ uplink.agent.cutOffBy event } := by
  obtain ⟨⟨agent, effects⟩, agentStepped, same⟩ := Option.map_eq_some_iff.1 stepped
  cases same
  exact ⟨agent, agentStepped, rfl⟩

theorem step_arrive (stepped : uplink.step (.arrive batch) = some (next, effects)) :
    batch ∈ uplink.agent.onTheirWay ++ uplink.cutOff ∧
      next = { uplink with store := receive uplink.store batch } ∧ effects = [] := by
  simp only [step] at stepped
  split at stepped
  · next isOnItsWay =>
    cases stepped
    exact ⟨isOnItsWay, rfl, rfl⟩
  · cases stepped

/-- The agent does not notice what reaches the collector. -/
theorem agent_run (ran : Run step uplink events effects reached) :
    Run Agent.step uplink.agent (agentEvents events) effects reached.agent := by
  induction ran with
  | nil uplink => exact .nil uplink.agent
  | @cons uplink _ _ event _ _ _ stepped _ inductionHypothesis =>
    cases event with
    | agent event =>
      obtain ⟨agent, agentStepped, rfl⟩ := step_agent stepped
      exact .cons agentStepped inductionHypothesis
    | arrive batch =>
      obtain ⟨_, rfl, rfl⟩ := step_arrive stepped
      exact inductionHypothesis

/-- Nothing is cut off before the time is up. -/
theorem cutOff_of_run {workers : Nat} {samplers : List SamplerTask} {shutdownTimeout : Milliseconds}
    {store : Store}
    (ran : Run step (start (.start workers samplers shutdownTimeout) store) events effects reached)
    (inTime : ∀ running, .timeUp running ∉ agentEvents events) : reached.cutOff = [] := by
  suffices standing : Agent.Course samplers (agentEvents events) reached.agent ∧
      ((∀ running, .timeUp running ∉ agentEvents events) → reached.cutOff = []) from standing.2 inTime
  apply ran.preserves fun events _ uplink => Agent.Course samplers (agentEvents events) uplink.agent ∧
    ((∀ running, .timeUp running ∉ agentEvents events) → uplink.cutOff = [])
  · exact ⟨Agent.course_of_run (.nil _), fun _ => rfl⟩
  · intro events _ uplink event next _ standing stepped
    obtain ⟨course, nothingCutOff⟩ := standing
    rw [agentEvents_append_singleton]
    cases event with
    | arrive batch =>
      obtain ⟨_, rfl, _⟩ := step_arrive stepped
      simpa [UplinkEvent.agent?] using And.intro course nothingCutOff
    | agent event =>
      obtain ⟨agent, agentStepped, rfl⟩ := step_agent stepped
      have turn := Agent.turn_of_step agentStepped
      refine ⟨course.turn turn, fun inTime => ?_⟩
      simp only [UplinkEvent.agent?, Option.toList_some, List.mem_append, List.mem_singleton, not_or] at inTime
      have notRunning := Agent.leftRunning_eq_nil fun running => (inTime running).1
      have nothingMore : uplink.agent.cutOffBy event = [] := by
        apply Agent.cutOffBy_eq_nil fun running same => (inTime running).2 same.symm
        rintro part rfl
        -- Nobody is asked to stop when all are over.
        have ending : uplink.agent.stage.isEnding = true := turn.isEnding_of_yield
        have ended := course.finished ending part (by rw [notRunning]; exact List.not_mem_nil)
        cases ended.symm.trans turn.isOver_of_yield
      show uplink.cutOff ++ _ = []
      rw [nothingMore, nothingCutOff fun running => (inTime running).1, List.append_nil]

/-! ## The store after the last batch -/

/-- The store holds the readings. -/
def Holds (store : Store) (readings : Readings) : Prop :=
  ∀ name value, readings.gauges.get? name = some value → store.gauges.get? name = some value

theorem holds_of_updateBatch {store updated : Store} (final : readings.finalBatch? = some batch)
    (taken : store.updateBatch batch = .ok updated) : Holds updated readings := by
  intro name value isLast
  rw [Readings.get?_of_updateBatch_finalBatch? final taken, isLast]
  rfl

theorem Holds.receive {store : Store} (holds : Holds store readings)
    (final : readings.finalBatch? = some batch) : Holds (receive store batch) readings := by
  unfold Uplink.receive
  split
  · next updated taken => exact holds_of_updateBatch final taken
  · exact holds

/-- The parts of the agent are over, nothing is cut off, and the store holds the last readings. -/
structure Settled (uplink : Uplink) : Prop where
  ending : uplink.agent.stage.isEnding = true
  finished : ∀ part, uplink.agent.isOver part = true
  nothingCutOff : uplink.cutOff = []
  lastBatch : ∀ batch,
    uplink.agent.stage = .flushing batch → uplink.agent.readings.finalBatch? = some batch
  holds : Holds uplink.store uplink.agent.readings

theorem Settled.agent {event : AgentEvent} (settled : uplink.Settled)
    (stepped : uplink.step (.agent event) = some (next, effects)) : next.Settled := by
  obtain ⟨agent, agentStepped, rfl⟩ := step_agent stepped
  have turn := Agent.turn_of_step agentStepped
  have notLast := turn.isFlush_of_isEnding settled.ending
  have inTime (running : List Part) : event ≠ .timeUp running := by
    rintro rfl
    cases notLast
  have notAsked (part : Part) : event ≠ .yield part := by
    rintro rfl
    cases (settled.finished part).symm.trans turn.isOver_of_yield
  have nothingTaken : event.taken? uplink.agent.samplers = none := by
    refine Agent.taken?_of_part? _ fun sampler moves => ?_
    cases (settled.finished (.sampler sampler)).symm.trans (turn.isOver_eq_false moves)
  have sameReadings : agent.readings = uplink.agent.readings := by
    rw [turn.readings_eq, nothingTaken]
    rfl
  constructor
  · exact turn.isEnding settled.ending
  · exact fun part => turn.isOver (settled.finished part)
  · show uplink.cutOff ++ _ = []
    rw [Agent.cutOffBy_eq_nil inTime notAsked, settled.nothingCutOff, List.append_nil]
  · intro batch
    have nobodyRunning : event.leftRunning = [] := by
      cases event with
      | timeUp running => exact absurd rfl (inTime running)
      | _ => rfl
    exact turn.lastBatch (fun _ => settled.finished) (settled.lastBatch batch) nobodyRunning
  · rw [sameReadings]
    exact settled.holds

theorem Settled.arrive (settled : uplink.Settled)
    (stepped : uplink.step (.arrive batch) = some (next, effects)) : next.Settled := by
  obtain ⟨isOnItsWay, rfl, _⟩ := step_arrive stepped
  -- No worker sends and nothing is cut off, so only the last batch can arrive.
  rw [settled.nothingCutOff, List.append_nil, Agent.onTheirWay_of_isOver settled.finished,
    Option.mem_toList] at isOnItsWay
  have flushing : uplink.agent.stage = .flushing batch := by
    cases stage : uplink.agent.stage with
    | flushing last =>
      rw [stage] at isOnItsWay
      cases isOnItsWay
      rfl
    | running | stopping | done =>
      rw [stage] at isOnItsWay
      cases isOnItsWay
  exact { settled with holds := settled.holds.receive (settled.lastBatch batch flushing) }

theorem Settled.run (settled : uplink.Settled) (ran : Run step uplink events effects reached) :
    reached.Settled := by
  induction ran with
  | nil => exact settled
  | @cons _ _ _ event _ _ _ stepped _ inductionHypothesis =>
    cases event with
    | agent event => exact inductionHypothesis (settled.agent stepped)
    | arrive batch => exact inductionHypothesis (settled.arrive stepped)

/-- When the last batch takes effect in the store, nothing else can follow it, if nothing was cut off. -/
theorem settled_of_arrive {samplers : List SamplerTask} {events : List AgentEvent}
    (course : Agent.Course samplers events uplink.agent) (inTime : ∀ running, .timeUp running ∉ events)
    (nothingCutOff : uplink.cutOff = []) (flushing : uplink.agent.stage = .flushing batch)
    (taken : ∃ updated, uplink.store.updateBatch batch = .ok updated)
    (stepped : uplink.step (.arrive batch) = some (next, effects)) : next.Settled := by
  obtain ⟨_, rfl, _⟩ := step_arrive stepped
  obtain ⟨updated, taken⟩ := taken
  have ending : uplink.agent.stage.isEnding = true := by
    rw [flushing]
    rfl
  have received : receive uplink.store batch = updated := by
    rw [receive, taken]
  have nobodyRunning := Agent.leftRunning_eq_nil inTime
  have lastBatch := course.lastBatch nobodyRunning
  constructor
  · exact ending
  · exact fun part => course.finished ending part (by rw [nobodyRunning]; exact List.not_mem_nil)
  · exact nothingCutOff
  · exact lastBatch
  · show Holds (receive uplink.store batch) _
    rw [received]
    exact holds_of_updateBatch (lastBatch batch flushing) taken

/-- An agent turns to its last batch once, and can always get on to it and to its end. It does so when all its
parts are over, of themselves or asked to stop when the time was up, but for those that were running at this
moment. It begins to send one batch that tells all that it has read by then, or none if there was nothing to read.
Afterwards only the parts that were running go on, and of batches they begin to send the first ones that were in
the queue; if none was running, nothing more is read or sent. If the parts were over in time and the last batch
takes effect in the store, the store keeps the last reading of each name, whatever has reached it earlier and in
whatever order. All this as long as a count can hold the number of polls. -/
theorem flushes_once (workers : Nat) (samplers : List SamplerTask) (shutdownTimeout : Milliseconds)
    (store : Store) :
    let agent := Agent.start workers samplers shutdownTimeout
    (∀ events effects reached, agent.run events = some (reached, effects) →
      events.countP AgentEvent.isFlush = reached.stage.isEnding.toNat ∧ reached.CanEnd) ∧
    (∀ before event after effects reached, event.isFlush = true →
      agent.run (before ++ event :: after) = some (reached, effects) →
      Readings.pollsIn (Agent.taken samplers before) < 2 ^ 63 →
      ∃ stopping early flushed during late,
        agent.run before = some (stopping, early) ∧
        stopping.step event = some (flushed, during) ∧
        flushed.run after = some (reached, late) ∧
        Agent.Flushes (Agent.taken samplers before) stopping event flushed during ∧
        Agent.Afterwards event.leftRunning flushed after late ∧
        (event.leftRunning = [] → Agent.taken samplers after = [] ∧ Agent.sent late = [])) ∧
    ∀ before batch after sofar early effects reached,
      (start agent store).run before = some (sofar, early) →
      (∀ running, .timeUp running ∉ agentEvents before) →
      sofar.agent.stage = .flushing batch →
      (∃ updated, sofar.store.updateBatch batch = .ok updated) →
      sofar.run (.arrive batch :: after) = some (reached, effects) →
      Readings.pollsIn (Agent.taken samplers (agentEvents (before ++ .arrive batch :: after))) < 2 ^ 63 →
      ∀ name value,
        Readings.last? name (Agent.taken samplers (agentEvents (before ++ .arrive batch :: after))) =
            some value →
          reached.store.gauges.get? name = some value := by
  intro agent
  refine ⟨?_, ?_, ?_⟩
  · intro events effects reached ran
    exact ⟨(Agent.course_of_run (Agent.run_eq_some_iff.1 ran)).flushes_eq, reached.canEnd⟩
  · intro before event after effects reached isFlush ran inRange
    obtain ⟨stopping, early, flushed, during, late, began, stepped, ended, flushes, afterwards⟩ :=
      Agent.flushes_of_run isFlush inRange ran
    refine ⟨stopping, early, flushed, during, late, began, stepped, ended, flushes, afterwards, ?_⟩
    intro nobodyRunning
    rw [nobodyRunning] at afterwards
    exact ⟨afterwards.taken_eq_nil samplers, afterwards.sent_eq_nil⟩
  · intro before batch after sofar early effects reached began inTime flushing taken ended _ name value isLast
    have beginning := run_eq_some_iff.1 began
    have course := Agent.course_of_run (agent_run beginning)
    have nothingCutOff : sofar.cutOff = [] := cutOff_of_run beginning inTime
    obtain ⟨next, _, _, _, stepped, rest⟩ := Run.cons_iff.1 (run_eq_some_iff.1 ended)
    have settled := (settled_of_arrive course inTime nothingCutOff flushing taken stepped).run rest
    have whole := Agent.course_of_run (agent_run (Run.append_iff.2
      ⟨sofar, early, effects, rfl, beginning, run_eq_some_iff.1 ended⟩))
    apply settled.holds name value
    rw [whole.readings_eq, Readings.get?_ofHistory]
    exact isLast

/-- Two workers; the batch of the first sample reaches the collector after that of the second. And one worker, who
is running when the time is up, and so begins to send what is in the queue after the last batch. -/
theorem flushes_once_after_stale :
    let one : Binary64 := ⟨0x3ff0000000000000⟩
    let two : Binary64 := ⟨0x4000000000000000⟩
    let samplers : List SamplerTask := [⟨"runtime", true, .waiting⟩]
    let agent (workers : Nat) := Agent.start workers samplers 10000
    let early : Batch := [.gauge "Alloc" one, .counter "PollCount" ⟨1, by decide, by decide⟩]
    let last : Batch := [.gauge "Alloc" two, .counter "PollCount" ⟨2, by decide, by decide⟩]
    let running : List UplinkEvent :=
      [.agent (.tick 0), .agent (.sampled 0 (.ok [("Alloc", one)])), .agent .assemble, .agent .offer,
        .agent (.poll 0), .agent (.poll 0), .agent (.poll 1),
        .agent (.tick 0), .agent (.sampled 0 (.ok [("Alloc", two)])), .agent .assemble, .agent .offer,
        .agent (.poll 1), .arrive last, .arrive early]
    let stopping : List UplinkEvent :=
      [.agent .shutdown, .agent (.sent 1 none), .agent (.sent 0 none), .agent (.stopSampler 0),
        .agent .stopAssembler, .agent (.poll 0), .agent (.poll 0), .agent (.poll 1), .agent (.poll 1)]
    let before := running ++ stopping ++ [.agent .allOver]
    let slow : List AgentEvent :=
      [.poll 0, .tick 0, .sampled 0 (.ok [("Alloc", one)]), .assemble, .offer, .poll 0, .assemble, .offer,
        .tick 0, .sampled 0 (.ok [("Alloc", two)]), .shutdown]
    (∃ stopped begun flushed during batch,
      (agent 2).run (agentEvents (running ++ stopping)) = some (stopped, begun) ∧
      stopped.step .allOver = some (flushed, during) ∧
      Agent.sent during = [batch] ∧ .gauge "Alloc" two ∈ batch) ∧
    (∃ sofar begun reached effects,
      (start (agent 2) Store.empty).run before = some (sofar, begun) ∧
      sofar.store.gauges.get? "Alloc" = some one ∧
      sofar.run [.arrive last, .agent (.flushed none)] = some (reached, effects) ∧
      reached.store.gauges.get? "Alloc" = some two) ∧
    ∃ stopped begun flushed during reached late batch,
      (agent 1).run slow = some (stopped, begun) ∧
      stopped.step (.timeUp [.worker 0]) = some (flushed, during) ∧
      flushed.run [.sent 0 none, .poll 0, .poll 0] = some (reached, late) ∧
      Agent.sent during = [batch] ∧ .gauge "Alloc" two ∈ batch ∧
      Agent.Afterwards [.worker 0] flushed [.sent 0 none, .poll 0, .poll 0] late := by
  intro one two samplers agent early last running stopping before slow
  obtain ⟨_, flushes, arrives⟩ := flushes_once 2 samplers 10000 Store.empty
  refine ⟨?_, ?_, ?_⟩
  · obtain ⟨⟨reached, effects⟩, ran⟩ := Option.isSome_iff_exists.1
      (show ((agent 2).run (agentEvents (running ++ stopping) ++ .allOver :: [])).isSome = true by decide)
    obtain ⟨stopped, begun, flushed, during, _, started, stepped, _, flush, _⟩ :=
      flushes _ .allOver _ _ _ rfl ran (by decide)
    obtain ⟨batch, sent, _, tells⟩ :=
      flush.tells ⟨([("Alloc", one)], true), List.mem_cons_self, .inl rfl⟩
    have listed := (tells.gauge_mem_iff "Alloc" two).2 rfl
    exact ⟨stopped, begun, flushed, during, batch, started, stepped, sent, listed⟩
  · obtain ⟨⟨sofar, begun⟩, ran⟩ := Option.isSome_iff_exists.1
      (show ((start (agent 2) Store.empty).run before).isSome = true by decide)
    have atFlush : ((start (agent 2) Store.empty).run before).all (fun done =>
        decide (done.1.agent.stage = .flushing last ∧ done.1.store.gauges.get? "Alloc" = some one ∧
          (done.1.store.updateBatch last).toOption.isSome ∧
          (done.1.run [.arrive last, .agent (.flushed none)]).isSome)) = true := by
      decide
    rw [ran, Option.all_some, decide_eq_true_iff] at atFlush
    obtain ⟨flushing, stale, takes, ends⟩ := atFlush
    obtain ⟨⟨reached, effects⟩, ended⟩ := Option.isSome_iff_exists.1 ends
    have taken : ∃ updated, sofar.store.updateBatch last = .ok updated := by
      cases updated : sofar.store.updateBatch last with
      | ok => exact ⟨_, rfl⟩
      | error cause =>
        rw [updated] at takes
        cases takes
    have inTime (left : List Part) : .timeUp left ∉ agentEvents before := by
      simp [before, running, stopping, agentEvents, UplinkEvent.agent?]
    refine ⟨sofar, begun, reached, effects, ran, stale, ended, ?_⟩
    exact arrives before last _ sofar begun effects reached ran inTime flushing taken ended (by decide) "Alloc" two
      rfl
  · obtain ⟨_, slowFlushes, _⟩ := flushes_once 1 samplers 10000 Store.empty
    obtain ⟨⟨reached, effects⟩, ran⟩ := Option.isSome_iff_exists.1
      (show ((agent 1).run (slow ++ .timeUp [.worker 0] :: [.sent 0 none, .poll 0, .poll 0])).isSome = true by
        decide)
    obtain ⟨stopped, begun, flushed, during, late, started, stepped, ended, flush, afterwards, _⟩ :=
      slowFlushes slow (.timeUp [.worker 0]) _ _ _ rfl ran (by decide)
    obtain ⟨batch, sent, _, tells⟩ :=
      flush.tells ⟨([("Alloc", one)], true), List.mem_cons_self, .inl rfl⟩
    have listed := (tells.gauge_mem_iff "Alloc" two).2 rfl
    exact ⟨stopped, begun, flushed, during, reached, late, batch, started, stepped, ended, sent, listed, afterwards⟩

/-- There are agents that cannot even begin, so they never turn to a last batch: they have too many workers. And
what runs when the time is up goes on: after the last batch, a worker begins to send another one, and a sampler
records a reading that the last batch does not tell. -/
theorem goes_on_after_last_batch :
    let one : Binary64 := ⟨0x3ff0000000000000⟩
    let two : Binary64 := ⟨0x4000000000000000⟩
    let samplers : List SamplerTask := [⟨"runtime", true, .waiting⟩]
    let queued : Batch := [.gauge "Alloc" one, .counter "PollCount" ⟨1, by decide, by decide⟩]
    let before : List AgentEvent :=
      [.poll 0, .tick 0, .sampled 0 (.ok [("Alloc", one)]), .assemble, .offer, .poll 0, .assemble, .offer,
        .tick 0, .shutdown]
    let after : List AgentEvent := [.sent 0 none, .poll 0, .poll 0, .sampled 0 (.ok [("Alloc", two)])]
    (∀ overflow, Clockwork.ofSettings? overflow { rateLimit := 2 ^ 60 } = none) ∧
    ∃ stopping early flushed during reached late last,
      (Agent.start 1 samplers 10000).run before = some (stopping, early) ∧
      stopping.step (.timeUp [.sampler 0, .worker 0]) = some (flushed, during) ∧
      flushed.run after = some (reached, late) ∧
      Agent.sent during = [last] ∧ Agent.sent late = [queued] ∧
      Readings.last? "Alloc" (Agent.taken samplers (before ++ after)) = some two ∧
      .gauge "Alloc" two ∉ last := by
  intro one two samplers queued before after
  constructor
  · intro overflow
    have noQueue : Queue.create? overflow (2 ^ 60) = (none : Option (Queue Batch)) := by
      cases overflow <;> decide
    rw [Clockwork.ofSettings?, Clockwork.start?]
    exact Option.map_eq_none_iff.2 noQueue
  · let course (agent : Agent) := agent.run before >>= fun sofar =>
      sofar.1.step (.timeUp [.sampler 0, .worker 0]) >>= fun flush =>
        (flush.1.run after).map fun last => (Agent.sent flush.2, Agent.sent last.2)
    have came : course (Agent.start 1 samplers 10000) = some ([queued], [queued]) := by decide
    obtain ⟨⟨stopping, early⟩, started, rest⟩ := Option.bind_eq_some_iff.1 came
    obtain ⟨⟨flushed, during⟩, stepped, rest⟩ := Option.bind_eq_some_iff.1 rest
    obtain ⟨⟨reached, late⟩, ended, sent⟩ := Option.map_eq_some_iff.1 rest
    obtain ⟨sentLast, sentLate⟩ := Prod.ext_iff.1 sent
    exact ⟨stopping, early, flushed, during, reached, late, queued, started, stepped, ended, sentLast, sentLate,
      by decide, by decide⟩

end Uplink

end Telemetry
