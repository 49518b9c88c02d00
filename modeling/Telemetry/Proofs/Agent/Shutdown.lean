import Telemetry.Agent.Basic
import Telemetry.Proofs.Agent.Drain
import Telemetry.Proofs.Agent.History

/-!
# How an agent ends

An agent turns to its last batch once: when all its parts are over, or when it has asked them to stop because
the time was up. The last batch tells all that has been read by then. Afterwards only those parts go on that
were running when they were asked to stop, and of batches they begin to send the first ones of those that were
in the queue. If there are no such parts, the last batch is the last one that the agent begins to send.
-/

namespace Telemetry

/-- The sample that has been taken, if one has, and whether it counts as a poll. -/
def AgentEvent.taken? (samplers : List SamplerTask) : AgentEvent → Option (Sample × Bool)
  | sampled sampler (.ok sample) => samplers[sampler]?.map fun task => (sample, task.countsPolls)
  | _ => none

/-- Whether the agent turns to its last batch. -/
def AgentEvent.isFlush : AgentEvent → Bool
  | allOver | timeUp _ => true
  | _ => false

/-- The part that goes on, if one does. -/
def AgentEvent.part? : AgentEvent → Option Part
  | tick sampler | sampled sampler _ | stopSampler sampler => some (.sampler sampler)
  | assemble | offer | stopAssembler => some .assembler
  | poll worker | sent worker _ => some (.worker worker)
  | _ => none

/-- The step of the pool that an event is, if it is one. -/
def AgentEvent.pool? : AgentEvent → Option PoolEvent
  | poll worker => some (.poll worker)
  | sent worker failure => some (.sent worker failure)
  | endTakes => some .endTakes
  | _ => none

/-- The parts that were running when they were asked to stop. -/
def AgentEvent.leftRunning : AgentEvent → List Part
  | timeUp running => running
  | _ => []

/-- The batch that the agent begins to send, if it does. -/
def AgentEffect.batch? : AgentEffect → Option Batch
  | pool effect => effect.passed?
  | flushing batch => some batch
  | _ => none

theorem Worker.afterTake_ne_aborted {waiting : Taking} {progress : TakeProgress Batch} :
    afterTake waiting progress ≠ aborted := by
  rcases progress with _ | (_ | batch)
  · nofun
  · cases waiting <;> nofun
  · nofun

theorem Worker.next_ne_aborted {draining : Bool} : next draining ≠ aborted := nofun

@[simp]
theorem Worker.isOver_abort (worker : Worker) : worker.abort.isOver = true := by
  cases worker <;> rfl

namespace Pool

variable {pool next : Pool} {event : PoolEvent} {effects : List PoolEffect} {batch : Batch} {number : Nat}

theorem isOver_workers_set {worker : Nat} {held : Worker} (present : pool.workers[worker]? = some held)
    (working : held.isOver = false) (after : Worker)
    (ended : pool.workers[number]?.all Worker.isOver = true) :
    (pool.workers.set worker after)[number]?.all Worker.isOver = true := by
  have another : worker ≠ number := by
    rintro rfl
    rw [present, Option.all_some, working] at ended
    cases ended
  rwa [List.getElem?_set_ne another]

/-- A worker that is over stays so. -/
theorem isOver_workers_step (stepped : pool.step event = some (next, effects))
    (ended : pool.workers[number]?.all Worker.isOver = true) :
    next.workers[number]?.all Worker.isOver = true := by
  cases event with
  | offer batch heeds =>
    obtain ⟨_, _, _, _, rfl, _⟩ := step_offer stepped
    exact ended
  | poll worker =>
    obtain ⟨_, _, _, held, _, rfl, _⟩ := step_poll stepped
    exact isOver_workers_set held rfl _ ended
  | sent worker failure =>
    obtain ⟨_, _, held, rfl, _⟩ := step_sent stepped
    exact isOver_workers_set held rfl _ ended
  | endTakes =>
    obtain ⟨rfl, _⟩ := step_endTakes stepped
    exact ended
  | abort =>
    cases stepped
    show (pool.workers.map Worker.abort)[number]?.all Worker.isOver = true
    rw [List.getElem?_map]
    cases pool.workers[number]? <;> simp
  | cancel | endOffers =>
    cases stepped
    exact ended

@[simp]
theorem content_stop (pool : Pool) (stops : Nat → Bool) :
    (pool.stop stops).queue.content = pool.queue.content := by
  unfold stop
  dsimp only
  split <;> rfl

theorem cancelled_step (stepped : pool.step event = some (next, effects)) (cancelled : pool.cancelled = true) :
    next.cancelled = true := by
  cases event with
  | offer batch heeds =>
    obtain ⟨_, _, _, _, rfl, _⟩ := step_offer stepped
    exact cancelled
  | poll worker =>
    obtain ⟨_, _, _, _, _, rfl, _⟩ := step_poll stepped
    exact cancelled
  | sent worker failure =>
    obtain ⟨_, _, _, rfl, _⟩ := step_sent stepped
    exact cancelled
  | endTakes =>
    obtain ⟨rfl, _⟩ := step_endTakes stepped
    exact cancelled
  | cancel =>
    cases stepped
    rfl
  | endOffers | abort =>
    cases stepped
    exact cancelled

/-- Only an offer brings something into the queue. -/
theorem queued_eq_nil (notOffer : ∀ batch heeds, event ≠ .offer batch heeds)
    (stepped : pool.step event = some (next, effects)) : queued effects = [] := by
  cases event with
  | offer batch heeds => exact absurd rfl (notOffer batch heeds)
  | poll worker =>
    obtain ⟨_, _, _, _, _, _, rfl⟩ := step_poll stepped
    exact queued_begun _
  | sent worker failure =>
    obtain ⟨_, _, _, _, rfl⟩ := step_sent stepped
    cases failure <;> rfl
  | endTakes =>
    obtain ⟨_, rfl⟩ := step_endTakes stepped
    rfl
  | cancel | endOffers | abort =>
    cases stepped
    rfl

/-- A worker begins to send by going on. -/
theorem step_sending {worker : Nat} (stepped : pool.step event = some (next, effects))
    (begins : .sending worker batch ∈ effects) : event = .poll worker := by
  cases event with
  | offer other heeds =>
    obtain ⟨_, _, _, _, _, rfl⟩ := step_offer stepped
    cases List.mem_singleton.1 begins
  | poll other =>
    obtain ⟨_, _, _, _, _, _, rfl⟩ := step_poll stepped
    revert begins
    generalize Worker.afterTake _ _ = after
    cases after with
    | sending sent draining =>
      intro begins
      cases List.mem_singleton.1 begins
      rfl
    | taking | stopped | aborted => exact nofun
  | sent other failure =>
    obtain ⟨_, _, _, _, rfl⟩ := step_sent stepped
    cases failure with
    | none => cases begins
    | some cause => cases List.mem_singleton.1 begins
  | endTakes =>
    obtain ⟨_, rfl⟩ := step_endTakes stepped
    cases begins
  | cancel | endOffers | abort =>
    cases stepped
    cases begins

/-- Workers are made to stop from outside only. -/
theorem aborted_notMem_step (working : .aborted ∉ pool.workers) (notAborted : event ≠ .abort)
    (stepped : pool.step event = some (next, effects)) : .aborted ∉ next.workers := by
  intro among
  cases event with
  | offer batch heeds =>
    obtain ⟨_, _, _, _, rfl, _⟩ := step_offer stepped
    exact working among
  | poll worker =>
    obtain ⟨_, _, _, _, _, rfl, _⟩ := step_poll stepped
    rcases List.mem_or_eq_of_mem_set among with among | same
    · exact working among
    · exact Worker.afterTake_ne_aborted same.symm
  | sent worker failure =>
    obtain ⟨_, _, _, rfl, _⟩ := step_sent stepped
    rcases List.mem_or_eq_of_mem_set among with among | same
    · exact working among
    · exact Worker.next_ne_aborted same.symm
  | endTakes =>
    obtain ⟨rfl, _⟩ := step_endTakes stepped
    exact working among
  | abort => exact notAborted rfl
  | cancel | endOffers =>
    cases stepped
    exact working among

end Pool

namespace Agent

/-- The samples that have been taken, in order, each with whether it counts as a poll. -/
def taken (samplers : List SamplerTask) (events : List AgentEvent) : List (Sample × Bool) :=
  events.filterMap (AgentEvent.taken? samplers)

/-- The batches that the agent has begun to send, in order. -/
def sent (effects : List AgentEffect) : List Batch :=
  effects.filterMap AgentEffect.batch?

variable {agent next reached : Agent} {event : AgentEvent} {events : List AgentEvent}
  {effects earlier later : List AgentEffect} {samplers : List SamplerTask} {batch : Batch}

theorem run_eq_some_iff :
    agent.run events = some (reached, effects) ↔ Run step agent events effects reached :=
  Run.iff_of_equations (fun _ => rfl) fun _ _ _ => rfl

theorem sent_append : sent (earlier ++ later) = sent earlier ++ sent later :=
  List.filterMap_append

theorem sent_map_pool (effects : List PoolEffect) : sent (effects.map .pool) = Pool.passed effects :=
  List.filterMap_map

/-! ## The last batch and the end of the parts -/

@[simp]
theorem readings_flush (agent : Agent) : agent.flush.1.readings = agent.readings := by
  unfold flush
  split <;> rfl

@[simp]
theorem samplers_flush (agent : Agent) : agent.flush.1.samplers = agent.samplers := by
  unfold flush
  split <;> rfl

@[simp]
theorem pool_flush (agent : Agent) : agent.flush.1.pool = agent.pool := by
  unfold flush
  split <;> rfl

@[simp]
theorem isOver_flush (agent : Agent) (part : Part) : agent.flush.1.isOver part = agent.isOver part := by
  unfold flush
  split <;> rfl

@[simp]
theorem isEnding_flush (agent : Agent) : agent.flush.1.stage.isEnding = true := by
  unfold flush
  split <;> rfl

theorem sent_flush (agent : Agent) : sent agent.flush.2 = agent.readings.finalBatch?.toList := by
  unfold flush
  split
  · next none => rw [none]; rfl
  · next batch some => rw [some]; rfl

theorem stage_flush_eq_flushing_iff :
    agent.flush.1.stage = .flushing batch ↔ agent.readings.finalBatch? = some batch := by
  unfold flush
  split
  · next none => simp [none]
  · next batch some => simp [some]

/-- All is over when every part is. -/
theorem allOver_iff : agent.allOver = true ↔ ∀ part, agent.isOver part = true := by
  simp only [allOver, Bool.and_eq_true, List.all_eq_true]
  constructor
  · rintro ⟨⟨samplersOver, assemblerOver⟩, workersOver⟩ part
    cases part with
    | sampler number =>
      rw [isOver, Option.all_eq_true]
      exact fun task held => samplersOver task (List.mem_of_getElem? held)
    | assembler => exact assemblerOver
    | worker number =>
      rw [isOver, Option.all_eq_true]
      exact fun worker held => workersOver worker (List.mem_of_getElem? held)
  · intro ended
    refine ⟨⟨fun task among => ?_, ended .assembler⟩, fun worker among => ?_⟩
    · obtain ⟨number, held⟩ := List.mem_iff_getElem?.1 among
      have finished := ended (.sampler number)
      rwa [isOver, held] at finished
    · obtain ⟨number, held⟩ := List.mem_iff_getElem?.1 among
      have finished := ended (.worker number)
      rwa [isOver, held] at finished

theorem isOver_stop (agent : Agent) (stops : Part → Bool) (part : Part) :
    (agent.stop stops).isOver part = (stops part || agent.isOver part) := by
  cases part with
  | sampler number =>
    simp only [isOver, stop, List.getElem?_mapIdx]
    cases agent.samplers[number]? with
    | none => simp
    | some task => cases stops (.sampler number) <;> simp [SamplerTask.isOver, SamplerTask.inPhase]
  | assembler =>
    simp only [isOver, stop]
    cases stops .assembler <;> simp
  | worker number =>
    have sameWorkers : (if stops .assembler then agent.pool.endOffers else agent.pool).workers =
        agent.pool.workers := by
      split <;> rfl
    simp only [isOver, stop, Pool.stop, sameWorkers, List.getElem?_mapIdx]
    cases agent.pool.workers[number]? with
    | none => simp
    | some worker => by_cases stopped : stops (.worker number) = true <;> simp [stopped]

/-- What has stopped takes nothing out of the queue. -/
@[simp]
theorem content_stop (agent : Agent) (stops : Part → Bool) :
    (agent.stop stops).pool.queue.content = agent.pool.queue.content := by
  rw [stop, Pool.content_stop]
  split <;> rfl

@[simp]
theorem cancelled_stop (agent : Agent) (stops : Part → Bool) :
    (agent.stop stops).pool.cancelled = agent.pool.cancelled := by
  show (if stops .assembler then agent.pool.endOffers else agent.pool).cancelled = _
  split <;> rfl

/-! ## What the steps are -/

/-- What a step of an agent is: it is one of a sampler, of the assembler, of the pool or of the whole. -/
inductive Turn (agent : Agent) : AgentEvent → Agent → List AgentEffect → Prop
  /-- A sampler goes on without a sample. -/
  | sampler {event : AgentEvent} {sampler : Nat} {task : SamplerTask} {effects : List AgentEffect}
      (phase : SamplerPhase) (held : agent.samplers[sampler]? = some task) (working : task.phase ≠ .stopped)
      (moves : event.part? = some (.sampler sampler)) (nothingTaken : ∀ samplers, event.taken? samplers = none)
      (nothingSent : sent effects = []) : Turn agent event (agent.setPhase sampler phase) effects
  | sample {sampler : Nat} {task : SamplerTask} (sample : Sample)
      (held : agent.samplers[sampler]? = some task) (working : task.phase ≠ .stopped) :
      Turn agent (.sampled sampler (.ok sample))
        { agent.setPhase sampler .waiting with readings := agent.readings.record sample task.countsPolls } []
  | assembler {event : AgentEvent} {effects : List AgentEffect} (assembler : AssemblerPhase)
      (queue : Queue Batch) (working : agent.assembler ≠ .stopped) (moves : event.part? = some .assembler)
      (offersNothing : agent.pool.cancelled = true → queue.content = agent.pool.queue.content)
      (nothingSent : sent effects = []) :
      Turn agent event { agent with assembler, pool := { agent.pool with queue } } effects
  | pool {event : AgentEvent} {poolEvent : PoolEvent} {pool : Pool} {effects : List PoolEffect}
      (isPool : event.pool? = some poolEvent) (stepped : agent.pool.step poolEvent = some (pool, effects)) :
      Turn agent event { agent with pool } (effects.map .pool)
  | shutdown (running : agent.stage = .running) :
      Turn agent .shutdown { agent with stage := .stopping, pool := { agent.pool with cancelled := true } } []
  | allOver (stopping : agent.stage = .stopping) (finished : agent.allOver = true) :
      Turn agent .allOver agent.flush.1 agent.flush.2
  | timeUp (running : List Part) (stopping : agent.stage = .stopping) :
      Turn agent (.timeUp running) (agent.abort running).flush.1
        (.log agent.timeUpLine :: (agent.abort running).flush.2)
  | yield {part : Part} (ending : agent.stage.isEnding = true) (working : agent.isOver part = false) :
      Turn agent (.yield part) (agent.stop (· == part)) []
  | flushed {batch : Batch} {effects : List AgentEffect} (failure : Option SendError)
      (flushing : agent.stage = .flushing batch) (nothingSent : sent effects = []) :
      Turn agent (.flushed failure) { agent with stage := .done } effects

theorem turn_of_poolStep {poolEvent : PoolEvent} (isPool : event.pool? = some poolEvent)
    (stepped : agent.poolStep poolEvent = some (next, effects)) : agent.Turn event next effects := by
  obtain ⟨⟨pool, effects⟩, poolStepped, same⟩ := Option.map_eq_some_iff.1 stepped
  cases same
  exact .pool isPool poolStepped

theorem held_of_phase? {sampler : Nat} {phase : SamplerPhase} (found : agent.phase? sampler = some phase) :
    ∃ task, agent.samplers[sampler]? = some task ∧ task.phase = phase :=
  Option.map_eq_some_iff.1 found

theorem turn_of_step (stepped : agent.step event = some (next, effects)) : agent.Turn event next effects := by
  cases event with
  | tick sampler =>
    simp only [step] at stepped
    split at stepped
    · next waiting =>
      cases stepped
      obtain ⟨task, held, phase⟩ := held_of_phase? waiting
      exact .sampler .sampling held (by simp [phase]) rfl (fun _ => rfl) rfl
    · cases stepped
  | sampled sampler sample =>
    simp only [step] at stepped
    split at stepped
    · next task held =>
      split at stepped
      · next sampling =>
        cases sample with
        | ok sample =>
          cases stepped
          exact .sample sample held (by simp [sampling])
        | error reason =>
          cases stepped
          exact .sampler .stopped held (by simp [sampling]) rfl (fun _ => rfl) rfl
      · cases stepped
    · cases stepped
  | stopSampler sampler =>
    simp only [step, Bool.and_eq_true, beq_iff_eq] at stepped
    split at stepped
    · next waiting =>
      cases stepped
      obtain ⟨task, held, phase⟩ := held_of_phase? waiting.2
      exact .sampler .stopped held (by simp [phase]) rfl (fun _ => rfl) rfl
    · cases stepped
  | assemble =>
    simp only [step] at stepped
    split at stepped
    · next waiting =>
      cases stepped
      exact .assembler _ agent.pool.queue (by simp [waiting]) rfl (fun _ => rfl) rfl
    · cases stepped
  | offer =>
    simp only [step] at stepped
    split at stepped
    · next batch offering =>
      obtain ⟨⟨outcome, queue⟩, came, same⟩ := Option.map_eq_some_iff.1 stepped
      have working : agent.assembler ≠ .stopped := by simp [offering]
      cases outcome with
      | queued =>
        cases same
        refine .assembler _ _ working rfl (fun cancelled => ?_) rfl
        -- A cancelled offer comes to nothing, so the batch was queued before.
        rw [cancelled, Queue.offer?, if_pos rfl] at came
        cases came
      | cancelled | closed =>
        cases same
        exact .assembler _ _ working rfl (fun _ => rfl) rfl
    · cases stepped
  | stopAssembler =>
    simp only [step, Bool.and_eq_true, beq_iff_eq] at stepped
    split at stepped
    · next waiting =>
      cases stepped
      exact .assembler _ _ (by simp [waiting.2]) rfl (fun _ => rfl) rfl
    · cases stepped
  | poll worker => exact turn_of_poolStep rfl stepped
  | sent worker failure => exact turn_of_poolStep rfl stepped
  | endTakes => exact turn_of_poolStep rfl stepped
  | shutdown =>
    simp only [step] at stepped
    split at stepped
    · next running =>
      cases stepped
      exact .shutdown running
    · cases stepped
  | allOver =>
    simp only [step] at stepped
    split at stepped
    · next stopping =>
      have turn := Turn.allOver stopping.1 stopping.2
      rw [Option.some.inj stepped] at turn
      exact turn
    · cases stepped
  | timeUp running =>
    simp only [step] at stepped
    split at stepped
    · next stopping =>
      cases stepped
      exact .timeUp running stopping
    · cases stepped
  | yield part =>
    simp only [step, Bool.and_eq_true, Bool.not_eq_true'] at stepped
    split at stepped
    · next going =>
      cases stepped
      exact .yield going.1 going.2
    · cases stepped
  | flushed failure =>
    simp only [step] at stepped
    split at stepped
    · next batch flushing =>
      cases stepped
      refine .flushed failure flushing ?_
      cases failure <;> rfl
    · cases stepped

theorem taken?_of_part? (samplers : List SamplerTask)
    (notSampler : ∀ sampler, event.part? ≠ some (.sampler sampler)) :
    event.taken? samplers = none := by
  cases event with
  | sampled sampler => exact absurd rfl (notSampler sampler)
  | _ => rfl

theorem isFlush_of_part? {part : Part} (moves : event.part? = some part) : event.isFlush = false := by
  cases event with
  | allOver | timeUp => cases moves
  | _ => rfl

/-- A step of the pool is one of its workers, or the end of its takes. -/
theorem pool?_cases {poolEvent : PoolEvent} (isPool : event.pool? = some poolEvent) :
    (event.isFlush = false ∧ ∀ sampler, event.part? ≠ some (.sampler sampler)) ∧
      poolEvent ≠ .abort ∧ ∀ batch heeds, poolEvent ≠ .offer batch heeds := by
  cases event with
  | poll | sent | endTakes =>
    cases isPool
    exact ⟨⟨rfl, nofun⟩, nofun, nofun⟩
  | _ => cases isPool

/-! ## What a step keeps -/

theorem countsPolls_setPhase (agent : Agent) (sampler : Nat) (phase : SamplerPhase) :
    (agent.setPhase sampler phase).samplers.map SamplerTask.countsPolls =
      agent.samplers.map SamplerTask.countsPolls := by
  apply List.ext_getElem?
  intro index
  rw [setPhase, List.getElem?_map, List.getElem?_modify, List.getElem?_map]
  cases agent.samplers[index]? with
  | none => rfl
  | some task => by_cases same : sampler = index <;> simp [same, SamplerTask.inPhase]

theorem countsPolls_stop (agent : Agent) (stops : Part → Bool) :
    (agent.stop stops).samplers.map SamplerTask.countsPolls = agent.samplers.map SamplerTask.countsPolls := by
  apply List.ext_getElem?
  intro index
  rw [stop, List.getElem?_map, List.getElem?_mapIdx, List.getElem?_map]
  cases agent.samplers[index]? with
  | none => rfl
  | some task => cases stops (.sampler index) <;> rfl

theorem Turn.countsPolls_eq (turn : agent.Turn event next effects) :
    next.samplers.map SamplerTask.countsPolls = agent.samplers.map SamplerTask.countsPolls := by
  cases turn with
  | sampler => exact countsPolls_setPhase ..
  | sample => exact countsPolls_setPhase ..
  | allOver => rw [samplers_flush]
  | timeUp => rw [samplers_flush]; exact countsPolls_stop ..
  | yield => exact countsPolls_stop ..
  | assembler | pool | shutdown | flushed => rfl

theorem Turn.readings_eq (turn : agent.Turn event next effects) :
    next.readings =
      (event.taken? agent.samplers).elim agent.readings fun entry =>
        agent.readings.record entry.1 entry.2 := by
  cases turn with
  | sampler _ _ _ _ nothingTaken => rw [nothingTaken]; rfl
  | sample _ held => rw [AgentEvent.taken?, held]; rfl
  | assembler _ _ _ moves => rw [taken?_of_part? _ (by simp [moves])]; rfl
  | pool isPool => rw [taken?_of_part? _ (pool?_cases isPool).1.2]; rfl
  | allOver => exact readings_flush _
  | timeUp => exact readings_flush _
  | shutdown | yield | flushed => rfl

/-- The agent turns to its last batch where an event makes it do so, and never turns back. -/
theorem Turn.isEnding_eq (turn : agent.Turn event next effects) :
    next.stage.isEnding.toNat = agent.stage.isEnding.toNat + event.isFlush.toNat := by
  cases turn with
  | sampler _ _ _ moves => rw [isFlush_of_part? moves]; rfl
  | sample => rfl
  | assembler _ _ _ moves => rw [isFlush_of_part? moves]; rfl
  | pool isPool => rw [(pool?_cases isPool).1.1]; rfl
  | shutdown running => rw [running]; rfl
  | allOver stopping => rw [isEnding_flush, stopping]; rfl
  | timeUp _ stopping => rw [isEnding_flush, stopping]; rfl
  | yield => rfl
  | flushed _ flushing => rw [flushing]; rfl

theorem Turn.isEnding (turn : agent.Turn event next effects) (ending : agent.stage.isEnding = true) :
    next.stage.isEnding = true := by
  have counted := turn.isEnding_eq
  rw [ending, Bool.toNat_true] at counted
  cases ended : next.stage.isEnding with
  | true => rfl
  | false =>
    rw [ended, Bool.toNat_false] at counted
    omega

theorem Turn.isFlush_of_isEnding (turn : agent.Turn event next effects) (ending : agent.stage.isEnding = true) :
    event.isFlush = false := by
  have counted := turn.isEnding_eq
  rw [ending, turn.isEnding ending] at counted
  cases isFlush : event.isFlush with
  | true =>
    rw [isFlush] at counted
    cases counted
  | false => rfl

/-- The pool is cancelled as soon as the agent is told to stop, and stays so. -/
theorem Turn.cancelled (turn : agent.Turn event next effects)
    (cancelled : agent.stage ≠ .running → agent.pool.cancelled = true) (stopping : next.stage ≠ .running) :
    next.pool.cancelled = true := by
  cases turn with
  | sampler | sample | assembler => exact cancelled stopping
  | pool _ stepped => exact Pool.cancelled_step stepped (cancelled stopping)
  | shutdown => rfl
  | allOver isStopping =>
    rw [pool_flush]
    exact cancelled (by simp [isStopping])
  | timeUp _ isStopping =>
    rw [pool_flush, abort, cancelled_stop]
    exact cancelled (by simp [isStopping])
  | yield =>
    rw [cancelled_stop]
    exact cancelled stopping
  | flushed _ flushing => exact cancelled (by simp [flushing])

/-! ## Parts -/

/-- Only a part that is not over goes on. -/
theorem Turn.isOver_eq_false {part : Part} (turn : agent.Turn event next effects)
    (moves : event.part? = some part) : agent.isOver part = false := by
  have ofHeld {sampler : Nat} {task : SamplerTask} (held : agent.samplers[sampler]? = some task)
      (working : task.phase ≠ .stopped) : agent.isOver (.sampler sampler) = false := by
    rw [isOver, held, Option.all_some, SamplerTask.isOver, beq_eq_false_iff_ne]
    exact working
  cases turn with
  | sampler _ held working isPart =>
    cases moves.symm.trans isPart
    exact ofHeld held working
  | sample _ held working =>
    cases moves
    exact ofHeld held working
  | assembler _ _ working isPart =>
    cases moves.symm.trans isPart
    exact beq_eq_false_iff_ne.2 working
  | pool isPool stepped =>
    cases event with
    | poll worker =>
      cases isPool
      cases moves
      obtain ⟨_, _, _, held, _, _, _⟩ := Pool.step_poll stepped
      rw [isOver, held]
      rfl
    | sent worker failure =>
      cases isPool
      cases moves
      obtain ⟨_, _, held, _, _⟩ := Pool.step_sent stepped
      rw [isOver, held]
      rfl
    | endTakes => cases moves
    | _ => cases isPool
  | shutdown | allOver | timeUp | yield | flushed => cases moves

/-- Only a part that is not over has to be waited for. -/
theorem Turn.isOver_of_yield {part : Part} (turn : agent.Turn (.yield part) next effects) :
    agent.isOver part = false := by
  cases turn with
  | sampler _ _ _ moves => cases moves
  | assembler _ _ _ moves => cases moves
  | pool isPool => cases isPool
  | yield _ working => exact working

theorem Turn.isEnding_of_yield {part : Part} (turn : agent.Turn (.yield part) next effects) :
    agent.stage.isEnding = true := by
  cases turn with
  | sampler _ _ _ moves => cases moves
  | assembler _ _ _ moves => cases moves
  | pool isPool => cases isPool
  | yield ending => exact ending

theorem isOver_setPhase {sampler : Nat} {task : SamplerTask} {part : Part} (phase : SamplerPhase)
    (held : agent.samplers[sampler]? = some task) (working : task.phase ≠ .stopped)
    (ended : agent.isOver part = true) : (agent.setPhase sampler phase).isOver part = true := by
  cases part with
  | sampler number =>
    have another : sampler ≠ number := by
      rintro rfl
      rw [isOver, held, Option.all_some, SamplerTask.isOver, beq_iff_eq] at ended
      exact working ended
    have same : (agent.setPhase sampler phase).samplers[number]? = agent.samplers[number]? := by
      simp [setPhase, another]
    rw [isOver, same]
    exact ended
  | assembler | worker => exact ended

/-- A part that is over stays so. -/
theorem Turn.isOver {part : Part} (turn : agent.Turn event next effects) (ended : agent.isOver part = true) :
    next.isOver part = true := by
  cases turn with
  | sampler phase held working => exact isOver_setPhase phase held working ended
  | sample _ held working => exact (isOver_setPhase .waiting held working ended :)
  | assembler _ _ working =>
    cases part with
    | assembler => exact absurd (beq_iff_eq.1 ended) working
    | sampler | worker => exact ended
  | pool _ stepped =>
    cases part with
    | worker number => exact Pool.isOver_workers_step stepped ended
    | sampler | assembler => exact ended
  | allOver => rwa [isOver_flush]
  | timeUp => rw [isOver_flush, abort, isOver_stop, ended, Bool.or_true]
  | yield => rw [isOver_stop, ended, Bool.or_true]
  | shutdown | flushed => cases part <;> exact ended

/-- A batch that is not the last one is begun by a worker. -/
theorem Turn.sending {effect : AgentEffect} (turn : agent.Turn event next effects)
    (notLast : event.isFlush = false) (done : effect ∈ effects) (begins : effect.batch?.isSome = true) :
    ∃ worker batch, event = .poll worker ∧ effect = .pool (.sending worker batch) := by
  have nothing (none : sent effects = []) : False := by
    rw [List.filterMap_eq_nil_iff.1 none effect done] at begins
    cases begins
  cases turn with
  | sampler _ _ _ _ _ nothingSent => exact (nothing nothingSent).elim
  | assembler _ _ _ _ _ nothingSent => exact (nothing nothingSent).elim
  | flushed _ _ nothingSent => exact (nothing nothingSent).elim
  | sample | shutdown | yield => cases done
  | allOver | timeUp => cases notLast
  | pool isPool stepped =>
    obtain ⟨poolEffect, among, rfl⟩ := List.mem_map.1 done
    cases poolEffect with
    | sending worker batch =>
      cases Pool.step_sending stepped among
      cases event with
      | poll number =>
        cases isPool
        exact ⟨_, batch, rfl, rfl⟩
      | _ => cases isPool
    | offered | log => cases begins

/-- What a step begins to send has been in front of the queue, once the pool is cancelled. -/
theorem Turn.content_eq (turn : agent.Turn event next effects) (notLast : event.isFlush = false)
    (cancelled : agent.pool.cancelled = true) :
    agent.pool.queue.content = sent effects ++ next.pool.queue.content := by
  cases turn with
  | sampler _ _ _ _ _ nothingSent =>
    rw [nothingSent]
    rfl
  | assembler _ _ _ _ offersNothing nothingSent => rw [nothingSent, List.nil_append, offersNothing cancelled]
  | pool isPool stepped =>
    have nothingQueued : Pool.queued _ = [] := Pool.queued_eq_nil (pool?_cases isPool).2.2 stepped
    rw [sent_map_pool, ← Pool.content_step stepped, nothingQueued, List.append_nil]
  | yield => exact (content_stop ..).symm
  | flushed _ _ nothingSent =>
    rw [nothingSent]
    rfl
  | allOver | timeUp => cases notLast
  | sample | shutdown => rfl

/-! ## The course of an agent -/

/-- The parts that were running when they were asked to stop. -/
def leftRunning (events : List AgentEvent) : List Part :=
  events.flatMap AgentEvent.leftRunning

/-- How an agent stands after events that began with these samplers. -/
structure Course (samplers : List SamplerTask) (events : List AgentEvent) (agent : Agent) : Prop where
  readings_eq : agent.readings = Readings.ofHistory (taken samplers events)
  countsPolls_eq : agent.samplers.map SamplerTask.countsPolls = samplers.map SamplerTask.countsPolls
  flushes_eq : events.countP AgentEvent.isFlush = agent.stage.isEnding.toNat
  cancelled : agent.stage ≠ .running → agent.pool.cancelled = true
  finished : agent.stage.isEnding = true → ∀ part, part ∉ leftRunning events → agent.isOver part = true
  working : agent.stage.isEnding = false → .aborted ∉ agent.pool.workers
  lastBatch : leftRunning events = [] → ∀ batch,
    agent.stage = .flushing batch → agent.readings.finalBatch? = some batch

theorem taken?_congr {others : List SamplerTask}
    (same : samplers.map SamplerTask.countsPolls = others.map SamplerTask.countsPolls) (event : AgentEvent) :
    event.taken? samplers = event.taken? others := by
  have unfolded (tasks : List SamplerTask) (sampler : Nat) (sample : Sample) :
      AgentEvent.taken? tasks (.sampled sampler (.ok sample)) =
        (tasks.map SamplerTask.countsPolls)[sampler]?.map fun countsPoll => (sample, countsPoll) := by
    rw [List.getElem?_map, Option.map_map]
    rfl
  cases event with
  | sampled sampler sample =>
    cases sample with
    | ok sample => rw [unfolded, unfolded, same]
    | error reason => rfl
  | _ => rfl

theorem leftRunning_append_singleton (events : List AgentEvent) (event : AgentEvent) :
    leftRunning (events ++ [event]) = leftRunning events ++ event.leftRunning := by
  rw [leftRunning, List.flatMap_append, List.flatMap_singleton]
  rfl

/-- As long as the time is not up, nobody is left running. -/
theorem leftRunning_eq_nil (inTime : ∀ running, .timeUp running ∉ events) : leftRunning events = [] := by
  rw [leftRunning, List.flatMap_eq_nil_iff]
  intro event happened
  cases event with
  | timeUp running => exact absurd happened (inTime running)
  | _ => rfl

/-- When the agent turns to its last batch, the parts that were not running are over. -/
theorem Turn.isOver_of_isFlush {part : Part} (turn : agent.Turn event next effects)
    (isFlush : event.isFlush = true) (notRunning : part ∉ event.leftRunning) : next.isOver part = true := by
  cases turn with
  | sampler _ _ _ moves => cases (isFlush_of_part? moves).symm.trans isFlush
  | assembler _ _ _ moves => cases (isFlush_of_part? moves).symm.trans isFlush
  | pool isPool => cases (pool?_cases isPool).1.1.symm.trans isFlush
  | sample | shutdown | yield | flushed => cases isFlush
  | allOver _ finished =>
    rw [isOver_flush]
    exact allOver_iff.1 finished part
  | timeUp running =>
    have stops : (!running.contains part) = true := by simpa [AgentEvent.leftRunning] using notRunning
    rw [isOver_flush, abort, isOver_stop, stops, Bool.true_or]

theorem Turn.working (turn : agent.Turn event next effects) (ending : next.stage.isEnding = false)
    (working : .aborted ∉ agent.pool.workers) : .aborted ∉ next.pool.workers := by
  cases turn with
  | sampler | sample | assembler | shutdown => exact working
  | pool isPool stepped => exact Pool.aborted_notMem_step working (pool?_cases isPool).2.1 stepped
  | allOver | timeUp => cases (isEnding_flush _).symm.trans ending
  | yield began => cases began.symm.trans ending
  | flushed => cases ending

theorem Turn.lastBatch (turn : agent.Turn event next effects)
    (finished : agent.stage.isEnding = true → ∀ part, agent.isOver part = true)
    (lastBatch : agent.stage = .flushing batch → agent.readings.finalBatch? = some batch)
    (nobodyRunning : event.leftRunning = [])
    (flushing : next.stage = .flushing batch) : next.readings.finalBatch? = some batch := by
  cases turn with
  | sampler | assembler | pool | yield => exact lastBatch flushing
  | sample taken held working =>
    -- No sample comes in between: the samplers are over by now.
    have ending : agent.stage.isEnding = true := congrArg Stage.isEnding flushing
    have notOver := (Turn.sample taken held working).isOver_eq_false rfl
    cases (finished ending _).symm.trans notOver
  | shutdown | flushed => cases flushing
  | allOver => rwa [readings_flush, ← stage_flush_eq_flushing_iff]
  | timeUp => rwa [readings_flush, ← stage_flush_eq_flushing_iff]

theorem Course.turn (course : Course samplers events agent) (turn : agent.Turn event next effects) :
    Course samplers (events ++ [event]) next where
  readings_eq := by
    rw [turn.readings_eq, taken?_congr course.countsPolls_eq, course.readings_eq, taken, taken,
      List.filterMap_append]
    cases came : event.taken? samplers with
    | none =>
      rw [List.filterMap_cons_none came, List.filterMap_nil, List.append_nil]
      rfl
    | some entry =>
      rw [List.filterMap_cons_some came, List.filterMap_nil, Readings.ofHistory_append_singleton]
      rfl
  countsPolls_eq := turn.countsPolls_eq.trans course.countsPolls_eq
  flushes_eq := by
    rw [turn.isEnding_eq, ← course.flushes_eq, List.countP_append, List.countP_singleton]
    cases event.isFlush <;> rfl
  cancelled := turn.cancelled course.cancelled
  finished ending part notRunning := by
    rw [leftRunning_append_singleton, List.mem_append, not_or] at notRunning
    cases began : agent.stage.isEnding with
    | true => exact turn.isOver (course.finished began part notRunning.1)
    | false =>
      have counted := turn.isEnding_eq
      rw [began, ending, Bool.toNat_true, Bool.toNat_false, Nat.zero_add] at counted
      exact turn.isOver_of_isFlush (Bool.toNat_eq_one.1 counted.symm) notRunning.2
  working ending := by
    refine turn.working ending (course.working ?_)
    rw [← Bool.not_eq_true] at ending ⊢
    exact fun began => ending (turn.isEnding began)
  lastBatch nobodyRunning batch := by
    rw [leftRunning_append_singleton, List.append_eq_nil_iff] at nobodyRunning
    refine turn.lastBatch (fun ending part => ?_) (course.lastBatch nobodyRunning.1 batch) nobodyRunning.2
    exact course.finished ending part (by rw [nobodyRunning.1]; exact List.not_mem_nil)

theorem course_of_run {workers : Nat} {shutdownTimeout : Milliseconds}
    (ran : Run step (start workers samplers shutdownTimeout) events effects reached) :
    Course samplers events reached := by
  apply ran.preserves fun events _ agent => Course samplers events agent
  · have working : .aborted ∉ (start workers samplers shutdownTimeout).pool.workers := by
      intro among
      cases List.eq_of_mem_replicate among
    exact ⟨rfl, rfl, rfl, fun stopping => absurd rfl stopping, nofun, fun _ => working, fun _ => nofun⟩
  · exact fun course stepped => course.turn (turn_of_step stepped)

/-! ## The last batch -/

/-- What an agent does when it turns to its last batch: its parts are over, of themselves unless the time was
up and but for those that were running then, and it begins to send one batch that tells of the history, if there
is anything to tell. -/
structure Flushes (history : List (Sample × Bool)) (stopping : Agent) (event : AgentEvent) (flushed : Agent)
    (effects : List AgentEffect) : Prop where
  stopped : event = .allOver → stopping.allOver = true ∧ .aborted ∉ stopping.pool.workers
  finished : ∀ part, part ∉ event.leftRunning → flushed.isOver part = true
  tells : Readings.HasNews history →
    ∃ batch, sent effects = [batch] ∧ batch ≠ [] ∧ batch.Tells history
  silent : ¬Readings.HasNews history → sent effects = []

/-- Only an agent that has been told to stop turns to its last batch, and that is what it sends. -/
theorem Turn.of_isFlush (turn : agent.Turn event next effects) (isFlush : event.isFlush = true) :
    agent.stage = .stopping ∧ (event = .allOver → agent.allOver = true) ∧
      next.pool.queue.content = agent.pool.queue.content ∧
      sent effects = agent.readings.finalBatch?.toList := by
  cases turn with
  | sampler _ _ _ moves => cases (isFlush_of_part? moves).symm.trans isFlush
  | assembler _ _ _ moves => cases (isFlush_of_part? moves).symm.trans isFlush
  | pool isPool => cases (pool?_cases isPool).1.1.symm.trans isFlush
  | sample | shutdown | yield | flushed => cases isFlush
  | allOver stopping finished =>
    exact ⟨stopping, fun _ => finished, by rw [pool_flush], sent_flush agent⟩
  | timeUp running stopping =>
    exact ⟨stopping, nofun, by rw [pool_flush, abort, content_stop], sent_flush (agent.abort running)⟩

theorem Turn.isEnding_of_isFlush (turn : agent.Turn event next effects) (isFlush : event.isFlush = true) :
    next.stage.isEnding = true := by
  rw [← Bool.toNat_eq_one, turn.isEnding_eq, (turn.of_isFlush isFlush).1, isFlush]
  rfl

theorem Course.flushes (course : Course samplers events agent) (isFlush : event.isFlush = true)
    (inRange : Readings.pollsIn (taken samplers events) < 2 ^ 63)
    (stepped : agent.step event = some (next, effects)) :
    Flushes (taken samplers events) agent event next effects := by
  have turn := turn_of_step stepped
  obtain ⟨stopping, finished, _, sentLast⟩ := turn.of_isFlush isFlush
  rw [course.readings_eq] at sentLast
  constructor
  · intro same
    exact ⟨finished same, course.working (by rw [stopping]; rfl)⟩
  · exact fun part => turn.isOver_of_isFlush isFlush
  · intro hasNews
    obtain ⟨batch, final⟩ := Readings.exists_finalBatch? hasNews
    rw [final] at sentLast
    exact ⟨batch, sentLast, Readings.ne_nil_of_finalBatch? final, Readings.tells_of_finalBatch? inRange final⟩
  · intro noNews
    rw [Readings.finalBatch?_eq_none_iff.2 (Readings.isEmpty_ofHistory_iff.2 noNews)] at sentLast
    exact sentLast

/-! ## What comes after it -/

/-- What an agent does after it has turned to its last batch. Of its parts only those go on that were running
when they were asked to stop. Of batches they begin to send the first ones that were in the queue, and no
others. -/
structure Afterwards (running : List Part) (flushed : Agent) (events : List AgentEvent)
    (effects : List AgentEffect) : Prop where
  goesOn : ∀ event ∈ events, ∀ part, event.part? = some part → part ∈ running
  sending : ∀ effect ∈ effects, effect.batch?.isSome = true →
    ∃ worker batch, .worker worker ∈ running ∧ effect = .pool (.sending worker batch)
  sent_prefix : sent effects <+: flushed.pool.queue.content

namespace Afterwards

variable {running : List Part} {flushed : Agent}

/-- If no part was running, nothing is sent. -/
theorem sent_eq_nil (afterwards : Afterwards [] flushed events effects) : sent effects = [] := by
  rw [sent, List.filterMap_eq_nil_iff]
  intro effect done
  rw [← Option.not_isSome_iff_eq_none]
  intro begins
  obtain ⟨_, _, among, _⟩ := afterwards.sending effect done begins
  cases among

/-- If no part was running, nothing is recorded. -/
theorem taken_eq_nil (afterwards : Afterwards [] flushed events effects) (samplers : List SamplerTask) :
    taken samplers events = [] := by
  rw [taken, List.filterMap_eq_nil_iff]
  intro event happened
  refine taken?_of_part? samplers fun sampler moves => ?_
  cases afterwards.goesOn event happened (.sampler sampler) moves

end Afterwards

theorem afterwards_of_run {running : List Part} (ran : Run step agent events effects reached)
    (ending : agent.stage.isEnding = true) (cancelled : agent.pool.cancelled = true)
    (finished : ∀ part, part ∉ running → agent.isOver part = true) :
    Afterwards running agent events effects := by
  induction ran with
  | nil => exact ⟨nofun, nofun, List.nil_prefix⟩
  | @cons agent _ _ event events effects later stepped _ inductionHypothesis =>
    have turn := turn_of_step stepped
    have notLast := turn.isFlush_of_isEnding ending
    have goesOn (part : Part) (moves : event.part? = some part) : part ∈ running := by
      by_contra notRunning
      cases (finished part notRunning).symm.trans (turn.isOver_eq_false moves)
    have others := inductionHypothesis (turn.isEnding ending)
      (turn.cancelled (fun _ => cancelled) (fun isRunning => by
        have stillEnding := turn.isEnding ending
        rw [isRunning] at stillEnding
        cases stillEnding))
      (fun part notRunning => turn.isOver (finished part notRunning))
    constructor
    · intro other happened
      rcases List.mem_cons.1 happened with rfl | happened
      · exact goesOn
      · exact others.goesOn other happened
    · intro effect done begins
      rcases List.mem_append.1 done with done | done
      · obtain ⟨worker, batch, rfl, isSending⟩ := turn.sending notLast done begins
        exact ⟨worker, batch, goesOn _ rfl, isSending⟩
      · exact others.sending effect done begins
    · rw [turn.content_eq notLast cancelled, sent_append, List.prefix_append_right_inj]
      exact others.sent_prefix

/-- A run in which the agent turns to its last batch, cut where it does. -/
theorem flushes_of_run {workers : Nat} {shutdownTimeout : Milliseconds} {before after : List AgentEvent}
    (isFlush : event.isFlush = true) (inRange : Readings.pollsIn (taken samplers before) < 2 ^ 63)
    (ran : (start workers samplers shutdownTimeout).run (before ++ event :: after) =
      some (reached, effects)) :
    ∃ stopping early flushed during late,
      (start workers samplers shutdownTimeout).run before = some (stopping, early) ∧
      stopping.step event = some (flushed, during) ∧
      flushed.run after = some (reached, late) ∧
      Flushes (taken samplers before) stopping event flushed during ∧
      Afterwards event.leftRunning flushed after late := by
  obtain ⟨stopping, early, _, _, began, rest⟩ := Run.append_iff.1 (run_eq_some_iff.1 ran)
  obtain ⟨flushed, during, late, _, stepped, ended⟩ := Run.cons_iff.1 rest
  have course := course_of_run began
  have turn := turn_of_step stepped
  have flushes := course.flushes isFlush inRange stepped
  have ending := turn.isEnding_of_isFlush isFlush
  have cancelled := (course.turn turn).cancelled fun isRunning => by
    rw [isRunning] at ending
    cases ending
  exact ⟨stopping, early, flushed, during, late, run_eq_some_iff.2 began, stepped, run_eq_some_iff.2 ended,
    flushes, afterwards_of_run ended ending cancelled flushes.finished⟩

/-! ## The way to the end -/

/-- Some run of the agent leads to its end. -/
def CanEnd (agent : Agent) : Prop :=
  ∃ events effects reached, agent.run events = some (reached, effects) ∧ reached.stage = .done

theorem CanEnd.of_step (canEnd : next.CanEnd) (stepped : agent.step event = some (next, effects)) :
    agent.CanEnd := by
  obtain ⟨events, later, reached, ran, done⟩ := canEnd
  exact ⟨event :: events, effects ++ later, reached,
    run_eq_some_iff.2 (.cons stepped (run_eq_some_iff.1 ran)), done⟩

theorem canEnd_of_isEnding (ending : agent.stage.isEnding = true) : agent.CanEnd := by
  cases stage : agent.stage with
  | running | stopping =>
    rw [stage] at ending
    cases ending
  | flushing batch =>
    have stepped : agent.step (.flushed none) = some ({ agent with stage := .done }, []) := by
      simp only [step, stage]
      rfl
    exact .of_step ⟨[], [], _, rfl, rfl⟩ stepped
  | done => exact ⟨[], [], agent, rfl, stage⟩

/-- Nothing keeps an agent from its end: the time for shutting down will be up, and the last batch is
delivered or not. -/
theorem canEnd (agent : Agent) : agent.CanEnd := by
  have ofStopping {agent : Agent} (stopping : agent.stage = .stopping) : agent.CanEnd := by
    have stepped : agent.step (.timeUp []) =
        some ((agent.abort []).flush.1, .log agent.timeUpLine :: (agent.abort []).flush.2) :=
      if_pos stopping
    exact (canEnd_of_isEnding (isEnding_flush _)).of_step stepped
  cases stage : agent.stage with
  | running =>
    have stepped : agent.step .shutdown =
        some ({ agent with stage := .stopping, pool := { agent.pool with cancelled := true } }, []) :=
      if_pos stage
    exact (ofStopping rfl).of_step stepped
  | stopping => exact ofStopping stage
  | flushing | done => exact canEnd_of_isEnding (by rw [stage]; rfl)

end Agent

end Telemetry
