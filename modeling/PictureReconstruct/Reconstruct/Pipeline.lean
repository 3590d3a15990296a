import PictureReconstruct.Reconstruct.Accumulation
import PictureReconstruct.Reconstruct.BoundedQueue
import Mathlib.Algebra.BigOperators.Fin
import Mathlib.Tactic.Abel

/-! # The pipeline of threads

The producer pushes the packets it receives, the workers turn each packet that decodes into a group
of signals, the accumulator adds the groups up, and `main` joins the threads.  What a thread does to
a queue is one step: a thread that would wait cannot take it.

* `Conserved`: every decodable packet is in one place, as a packet or as its group.
* `ShutDown`: who is gone when, which is what the order of the joins is for.
* `pipeline_deterministic`: the result does not depend on the schedule.
-/

namespace PictureReconstruct.Reconstruct

open Library.Runs

/-! ## What a worker does to a packet -/

structure RawFramePacket where
  frameId : Int
  stageX : ℚ
  stageY : ℚ
  imgBuffer : List UInt8
deriving DecidableEq

structure SpotInfo where
  id : Int
  cameraCenter : ℚ × ℚ
  sampleOffset : ℚ × ℚ
  radius : ℚ
  gain : ℚ
deriving DecidableEq

structure SignalPacket where
  signals : List SpotSignal
deriving DecidableEq

/-- The decoder of OpenCV, and what a worker does with a decoded image: both give the same for the
    same image. -/
structure Imaging (rows cols : Nat) (Raw : Type) where
  /-- `cv::imdecode`, nothing for an empty image -/
  imdecode : List UInt8 → Option Raw
  /-- everything between the decoded image and `pre`, the code of the repository included -/
  preprocess : Raw → Image rows cols

/-- `std::round`, which rounds halves away from zero. -/
def stdRound (x : ℚ) : Int := if x < 0 then -⌊-x + 1 / 2⌋ else ⌊x + 1 / 2⌋

section Worker

variable {rows cols : Nat} {Raw : Type}

/-- The pixel in column `x` and row `y`, if there is one. -/
def pixelAt (frame : Image rows cols) (x y : Int) : Option ℚ :=
  if inside : (0 ≤ x ∧ x < cols) ∧ 0 ≤ y ∧ y < rows then
    some (frame ⟨y.toNat, by omega⟩ ⟨x.toNat, by omega⟩)
  else none

/-- `-r`, …, `r` -/
def offsets (r : Int) : List Int := (List.range (2 * r + 1).toNat).map fun k => (k : Int) - r

def extractCircularRoiMean (frame : Image rows cols) (spot : SpotInfo) : ℚ :=
  let cx := stdRound spot.cameraCenter.1
  let cy := stdRound spot.cameraCenter.2
  let r := stdRound spot.radius
  let samples := (offsets r).flatMap fun dy => (offsets r).filterMap fun dx =>
    if dx * dx + dy * dy > r * r then none else pixelAt frame (cx + dx) (cy + dy)
  if samples.length = 0 then 0 else samples.sum / samples.length

/-- The group of signals of a packet; nothing if the packet does not decode. -/
def frameSignals (imaging : Imaging rows cols Raw) (spots : List SpotInfo)
    (packet : RawFramePacket) : Option SignalPacket :=
  match imaging.imdecode packet.imgBuffer with
  | none => none
  | some raw =>
    let pre := imaging.preprocess raw
    some ⟨spots.map fun spot => {
      frameId := packet.frameId
      spotId := spot.id
      sampleX := packet.stageX + spot.sampleOffset.1
      sampleY := packet.stageY + spot.sampleOffset.2
      intensity := extractCircularRoiMean pre spot / spot.gain }⟩

/-- One thread that does everything, packet by packet. -/
def sequential (imaging : Imaging rows cols Raw) (spots : List SpotInfo)
    (packets : List RawFramePacket) : Sums rows cols :=
  packets.foldl (fun sums packet => match frameSignals imaging spots packet with
    | none => sums
    | some group => accumulate sums group.signals) 0

end Worker

/-! ## The threads -/

inductive WorkerState
  /-- calls `rawQueue.pop` next -/
  | popping
  | decoding (packet : RawFramePacket)
  /-- calls `signalQueue.push` next -/
  | pushing (group : SignalPacket)
  | ended
deriving DecidableEq

inductive AccumulatorState
  /-- calls `signalQueue.pop` next -/
  | popping
  | adding (group : SignalPacket)
  | ended
deriving DecidableEq

/-- What `main` does next. -/
inductive MainState
  | joinProducer
  | joinWorkers
  | setFinished
  | joinAccumulator
  | postprocess
deriving DecidableEq

structure Pipeline (rows cols workers : Nat) where
  /-- the packets that the producer has not pushed yet -/
  incoming : List RawFramePacket
  /-- the producer has not ended -/
  receiving : Bool := true
  rawQueue : BoundedQueue RawFramePacket := { maxSize := 50 }
  worker : Fin workers → WorkerState := fun _ => .popping
  signalQueue : BoundedQueue SignalPacket := { maxSize := 200 }
  accumulator : AccumulatorState := .popping
  sums : Sums rows cols := 0
  allSignals : List SpotSignal := []
  main : MainState := .joinProducer

inductive PipelineAction (workers : Nat)
  | receive
  /-- the stream has ended -/
  | finishRaw
  | popRaw (i : Fin workers)
  | decode (i : Fin workers)
  | pushSignals (i : Fin workers)
  | popSignals
  | add
  | joinProducer
  | joinWorkers
  | finishSignals
  | joinAccumulator
deriving DecidableEq

namespace Pipeline

variable {rows cols workers : Nat} {Raw : Type}

def Enabled : PipelineAction workers → Pipeline rows cols workers → Prop
  | .receive, state => state.receiving = true ∧ state.incoming ≠ [] ∧ state.rawQueue.notFull = true
  | .finishRaw, state => state.receiving = true ∧ state.incoming = []
  | .popRaw i, state => state.worker i = .popping ∧ state.rawQueue.notEmptyOrFinished = true
  | .decode i, state => ∃ packet, state.worker i = .decoding packet
  | .pushSignals i, state =>
    (∃ group, state.worker i = .pushing group) ∧ state.signalQueue.notFull = true
  | .popSignals, state => state.accumulator = .popping ∧
    state.signalQueue.notEmptyOrFinished = true
  | .add, state => ∃ group, state.accumulator = .adding group
  | .joinProducer, state => state.main = .joinProducer ∧ state.receiving = false
  | .joinWorkers, state => state.main = .joinWorkers ∧ ∀ i, state.worker i = .ended
  | .finishSignals, state => state.main = .setFinished
  | .joinAccumulator, state => state.main = .joinAccumulator ∧ state.accumulator = .ended

instance (worker : WorkerState) : Decidable (∃ packet, worker = .decoding packet) :=
  match worker with
  | .decoding packet => isTrue ⟨packet, rfl⟩
  | .popping | .pushing _ | .ended => isFalse nofun

instance (worker : WorkerState) : Decidable (∃ group, worker = .pushing group) :=
  match worker with
  | .pushing group => isTrue ⟨group, rfl⟩
  | .popping | .decoding _ | .ended => isFalse nofun

instance (accumulator : AccumulatorState) : Decidable (∃ group, accumulator = .adding group) :=
  match accumulator with
  | .adding group => isTrue ⟨group, rfl⟩
  | .popping | .ended => isFalse nofun

instance (action : PipelineAction workers) (state : Pipeline rows cols workers) :
    Decidable (Enabled action state) :=
  match action with
  | .receive => inferInstanceAs (Decidable (_ ∧ _ ∧ _))
  | .finishRaw | .popRaw _ | .pushSignals _ | .popSignals | .joinProducer | .joinWorkers
  | .joinAccumulator => inferInstanceAs (Decidable (_ ∧ _))
  | .decode i => inferInstanceAs (Decidable (∃ packet, state.worker i = .decoding packet))
  | .add => inferInstanceAs (Decidable (∃ group, state.accumulator = .adding group))
  | .finishSignals => inferInstanceAs (Decidable (_ = _))

def setWorker (state : Pipeline rows cols workers) (i : Fin workers) (next : WorkerState) :
    Pipeline rows cols workers :=
  { state with worker := Function.update state.worker i next }

variable (imaging : Imaging rows cols Raw) (spots : List SpotInfo)

/-- The state after an action. -/
def effect : PipelineAction workers → Pipeline rows cols workers → Pipeline rows cols workers
  | .receive, state =>
    match state.incoming with
    | packet :: incoming => { state with incoming, rawQueue := state.rawQueue.push packet }
    | [] => state
  | .finishRaw, state =>
    { state with rawQueue := state.rawQueue.setFinished, receiving := false }
  | .popRaw i, state =>
    match state.rawQueue.pop with
    | (some packet, rawQueue) => { state.setWorker i (.decoding packet) with rawQueue }
    | (none, rawQueue) => { state.setWorker i .ended with rawQueue }
  | .decode i, state =>
    match state.worker i with
    | .decoding packet =>
      match frameSignals imaging spots packet with
      | some group => state.setWorker i (.pushing group)
      | none => state.setWorker i .popping
    | _ => state
  | .pushSignals i, state =>
    match state.worker i with
    | .pushing group =>
      { state.setWorker i .popping with signalQueue := state.signalQueue.push group }
    | _ => state
  | .popSignals, state =>
    match state.signalQueue.pop with
    | (some group, signalQueue) => { state with accumulator := .adding group, signalQueue }
    | (none, signalQueue) => { state with accumulator := .ended, signalQueue }
  | .add, state =>
    match state.accumulator with
    | .adding group =>
      { state with
        accumulator := .popping
        sums := accumulate state.sums group.signals
        allSignals := state.allSignals ++ group.signals }
    | _ => state
  | .joinProducer, state => { state with main := .joinWorkers }
  | .joinWorkers, state => { state with main := .setFinished }
  | .finishSignals, state =>
    { state with signalQueue := state.signalQueue.setFinished, main := .joinAccumulator }
  | .joinAccumulator, state => { state with main := .postprocess }

/-- What one step can do. -/
inductive Moves (state : Pipeline rows cols workers) : Pipeline rows cols workers → Prop
  | received {packet incoming} : state.receiving = true → state.incoming = packet :: incoming →
    Moves state { state with incoming, rawQueue := state.rawQueue.push packet }
  | rawFinished : state.incoming = [] →
    Moves state { state with rawQueue := state.rawQueue.setFinished, receiving := false }
  | rawPopped {i packet rest} : state.worker i = .popping →
    state.rawQueue.queue = packet :: rest →
    Moves state { state.setWorker i (.decoding packet) with
      rawQueue := { state.rawQueue with queue := rest } }
  | workerEnded {i} : state.rawQueue.queue = [] → state.rawQueue.finished = true →
    state.worker i = .popping → Moves state (state.setWorker i .ended)
  | decoded {i packet group} : state.worker i = .decoding packet →
    frameSignals imaging spots packet = some group →
    Moves state (state.setWorker i (.pushing group))
  | skipped {i packet} : state.worker i = .decoding packet →
    frameSignals imaging spots packet = none → Moves state (state.setWorker i .popping)
  | signalsPushed {i group} : state.worker i = .pushing group →
    Moves state { state.setWorker i .popping with signalQueue := state.signalQueue.push group }
  | signalsPopped {group rest} : state.accumulator = .popping →
    state.signalQueue.queue = group :: rest →
    Moves state { state with
      accumulator := .adding group, signalQueue := { state.signalQueue with queue := rest } }
  | accumulatorEnded : state.signalQueue.queue = [] → state.signalQueue.finished = true →
    state.accumulator = .popping → Moves state { state with accumulator := .ended }
  | added {group} : state.accumulator = .adding group →
    Moves state { state with
      accumulator := .popping
      sums := accumulate state.sums group.signals
      allSignals := state.allSignals ++ group.signals }
  | producerJoined : state.main = .joinProducer → Moves state { state with main := .joinWorkers }
  | workersJoined : state.main = .joinWorkers → (∀ i, state.worker i = .ended) →
    Moves state { state with main := .setFinished }
  | signalsFinished : state.main = .setFinished →
    Moves state { state with
      signalQueue := state.signalQueue.setFinished, main := .joinAccumulator }
  | accumulatorJoined : state.main = .joinAccumulator →
    Moves state { state with main := .postprocess }

variable {imaging spots} {state after : Pipeline rows cols workers}

theorem effect_moves {action : PipelineAction workers} (enabled : Enabled action state) :
    Moves imaging spots state (effect imaging spots action state) := by
  cases action with
  | receive =>
    obtain ⟨receiving, some, _⟩ := enabled
    obtain ⟨packet, incoming, whole⟩ := List.exists_cons_of_ne_nil some
    simp only [effect, whole]
    exact .received receiving whole
  | finishRaw => exact .rawFinished enabled.2
  | popRaw i =>
    obtain ⟨popping, waited⟩ := enabled
    obtain ⟨packet, rest, held, pops⟩ | ⟨nothing, finished, pops⟩ := BoundedQueue.pop_cases waited
    · simp only [effect, pops]
      exact .rawPopped popping held
    · simp only [effect, pops]
      exact .workerEnded nothing finished popping
  | decode i =>
    obtain ⟨packet, decoding⟩ := enabled
    cases signals : frameSignals imaging spots packet with
    | none =>
      simp only [effect, decoding, signals]
      exact .skipped decoding signals
    | some group =>
      simp only [effect, decoding, signals]
      exact .decoded decoding signals
  | pushSignals i =>
    obtain ⟨⟨group, pushing⟩, _⟩ := enabled
    simp only [effect, pushing]
    exact .signalsPushed pushing
  | popSignals =>
    obtain ⟨popping, waited⟩ := enabled
    obtain ⟨group, rest, held, pops⟩ | ⟨nothing, finished, pops⟩ := BoundedQueue.pop_cases waited
    · simp only [effect, pops]
      exact .signalsPopped popping held
    · simp only [effect, pops]
      exact .accumulatorEnded nothing finished popping
  | add =>
    obtain ⟨group, adding⟩ := enabled
    simp only [effect, adding]
    exact .added adding
  | joinProducer => exact .producerJoined enabled.1
  | joinWorkers => exact .workersJoined enabled.1 enabled.2
  | finishSignals => exact .signalsFinished enabled
  | joinAccumulator => exact .accumulatorJoined enabled.1

/-! ## Where the groups are -/

variable (imaging spots)

/-- The groups of the packets that decode. -/
def groupsOf (packets : List RawFramePacket) : List SignalPacket :=
  packets.filterMap (frameSignals imaging spots)

/-- The group that a worker is about to push. -/
def inHand : WorkerState → Multiset SignalPacket
  | .decoding packet => groupsOf imaging spots [packet]
  | .pushing group => {group}
  | .popping | .ended => 0

def adding : AccumulatorState → Multiset SignalPacket
  | .adding group => {group}
  | .popping | .ended => 0

/-- The groups that are not added yet, those of the packets on their way included. -/
def outstanding (state : Pipeline rows cols workers) : Multiset SignalPacket :=
  groupsOf imaging spots state.incoming + groupsOf imaging spots state.rawQueue.queue +
    ∑ i, inHand imaging spots (state.worker i) + state.signalQueue.queue +
    adding state.accumulator

/-- The groups that were added, one by one, and those that are outstanding are those of all
    packets. -/
def Conserved (packets : List RawFramePacket) (state : Pipeline rows cols workers) : Prop :=
  ∃ groups : List SignalPacket,
    (groups : Multiset SignalPacket) + outstanding imaging spots state =
      groupsOf imaging spots packets ∧
    state.allSignals = groups.flatMap SignalPacket.signals ∧
    state.sums = accumulate 0 state.allSignals

variable {imaging spots}

theorem groupsOf_cons (packet : RawFramePacket) (packets : List RawFramePacket) :
    (groupsOf imaging spots (packet :: packets) : Multiset SignalPacket) =
      inHand imaging spots (.decoding packet) + groupsOf imaging spots packets := by
  change (groupsOf imaging spots ([packet] ++ packets) : Multiset SignalPacket) = _
  rw [groupsOf, List.filterMap_append]
  rfl

theorem groupsOf_concat (packet : RawFramePacket) (packets : List RawFramePacket) :
    (groupsOf imaging spots (packets ++ [packet]) : Multiset SignalPacket) =
      groupsOf imaging spots packets + inHand imaging spots (.decoding packet) := by
  rw [groupsOf, List.filterMap_append]
  rfl

/-- One worker among all. -/
theorem sum_inHand (worker : Fin workers → WorkerState) (i : Fin workers) :
    ∑ j, inHand imaging spots (worker j) = inHand imaging spots (worker i) +
      ∑ j ∈ Finset.univ.erase i, inHand imaging spots (worker j) :=
  (Finset.add_sum_erase _ _ (Finset.mem_univ i)).symm

theorem sum_inHand_update (worker : Fin workers → WorkerState) (i : Fin workers)
    (next : WorkerState) :
    ∑ j, inHand imaging spots (Function.update worker i next j) = inHand imaging spots next +
      ∑ j ∈ Finset.univ.erase i, inHand imaging spots (worker j) := by
  rw [sum_inHand _ i, Function.update_self]
  congr 1
  refine Finset.sum_congr rfl fun j member => ?_
  rw [Function.update_of_ne (Finset.ne_of_mem_erase member)]

/-- A step moves a group on, or adds it. -/
theorem moves_outstanding (moves : Moves imaging spots state after) :
    (outstanding imaging spots after = outstanding imaging spots state ∧
      after.allSignals = state.allSignals ∧ after.sums = state.sums) ∨
    ∃ group, outstanding imaging spots state = {group} + outstanding imaging spots after ∧
      after.allSignals = state.allSignals ++ group.signals ∧
      after.sums = accumulate state.sums group.signals := by
  -- the part of the sum that belongs to the other workers stays
  have others : ∀ {i position}, state.worker i = position →
      ∑ j, inHand imaging spots (state.worker j) = inHand imaging spots position +
        ∑ j ∈ Finset.univ.erase i, inHand imaging spots (state.worker j) := fun is =>
    is ▸ sum_inHand state.worker _
  cases moves with
  | received _ whole =>
    refine .inl ⟨?_, rfl, rfl⟩
    simp only [outstanding, whole, BoundedQueue.push, groupsOf_concat, groupsOf_cons]
    abel
  | rawPopped popping held =>
    refine .inl ⟨?_, rfl, rfl⟩
    simp only [outstanding, setWorker, sum_inHand_update, others popping, held, groupsOf_cons]
    simp only [inHand, zero_add]
    abel
  | workerEnded _ _ popping =>
    refine .inl ⟨?_, rfl, rfl⟩
    simp only [outstanding, setWorker, sum_inHand_update, others popping]
    rfl
  | decoded decoding signals =>
    refine .inl ⟨?_, rfl, rfl⟩
    simp only [outstanding, setWorker, sum_inHand_update, others decoding]
    simp [inHand, groupsOf, signals]
  | skipped decoding signals =>
    refine .inl ⟨?_, rfl, rfl⟩
    simp only [outstanding, setWorker, sum_inHand_update, others decoding]
    simp [inHand, groupsOf, signals]
  | @signalsPushed i group pushing =>
    refine .inl ⟨?_, rfl, rfl⟩
    have queued : ((state.signalQueue.push group).queue : Multiset SignalPacket) =
        state.signalQueue.queue + {group} := by
      rw [BoundedQueue.push, ← Multiset.coe_add]
      rfl
    simp only [outstanding, setWorker, sum_inHand_update, others pushing, queued]
    simp only [inHand, zero_add]
    abel
  | @signalsPopped group rest popping held =>
    refine .inl ⟨?_, rfl, rfl⟩
    simp only [outstanding, popping, held, adding, ← Multiset.cons_coe, ← Multiset.singleton_add]
    abel
  | accumulatorEnded _ _ popping =>
    refine .inl ⟨?_, rfl, rfl⟩
    simp only [outstanding, popping, adding]
  | @added group accumulating =>
    refine .inr ⟨group, ?_, rfl, rfl⟩
    simp only [outstanding, accumulating, adding]
    abel
  | _ => exact .inl ⟨rfl, rfl, rfl⟩

theorem Conserved.moves {packets : List RawFramePacket}
    (conserved : Conserved imaging spots packets state) (moves : Moves imaging spots state after) :
    Conserved imaging spots packets after := by
  obtain ⟨groups, whole, signals, sums⟩ := conserved
  obtain ⟨same, signals', sums'⟩ | ⟨group, less, signals', sums'⟩ := moves_outstanding moves
  · exact ⟨groups, by rw [same, whole], signals'.trans signals, by rw [sums', signals', sums]⟩
  · refine ⟨groups ++ [group], ?_, ?_, ?_⟩
    · rw [← whole, less, ← Multiset.coe_add, Multiset.coe_singleton, add_assoc]
    · rw [signals', signals]
      simp
    · rw [sums', signals', sums, accumulate_append]

/-! ## Who is gone when -/

/-- A thread ends only when its queue is finished and empty, and a queue is finished only when all
    of its producers are gone. -/
structure ShutDown (state : Pipeline rows cols workers) : Prop where
  raw : state.rawQueue.finished = true → state.receiving = false ∧ state.incoming = []
  worker : ∀ i, state.worker i = .ended →
    state.rawQueue.finished = true ∧ state.rawQueue.queue = []
  joined : state.main ≠ .joinProducer → state.main ≠ .joinWorkers → ∀ i, state.worker i = .ended
  signals : state.signalQueue.finished = true →
    state.main = .joinAccumulator ∨ state.main = .postprocess
  accumulator : state.accumulator = .ended →
    state.signalQueue.finished = true ∧ state.signalQueue.queue = []

/-- While a worker is not gone, `main` waits and the accumulator goes on. -/
theorem ShutDown.waiting (shutDown : ShutDown state) {i : Fin workers}
    (working : state.worker i ≠ .ended) :
    (state.main = .joinProducer ∨ state.main = .joinWorkers) ∧
      state.signalQueue.finished ≠ true ∧ state.accumulator ≠ .ended := by
  have waits : state.main = .joinProducer ∨ state.main = .joinWorkers := by
    by_cases producer : state.main = .joinProducer
    · exact .inl producer
    · by_cases workers : state.main = .joinWorkers
      · exact .inr workers
      · exact absurd (shutDown.joined producer workers i) working
  have unfinished : state.signalQueue.finished ≠ true := by
    intro finished
    have past := shutDown.signals finished
    cases waits with
    | inl producer => simp [producer] at past
    | inr workers => simp [workers] at past
  exact ⟨waits, unfinished, fun ended => unfinished (shutDown.accumulator ended).1⟩

/-- A worker goes on. -/
theorem ShutDown.works (shutDown : ShutDown state) {i : Fin workers} {next : WorkerState}
    (working : state.worker i ≠ .ended) (moves : after.worker = Function.update state.worker i next)
    (main : after.main = state.main)
    (signals : after.signalQueue.finished = state.signalQueue.finished)
    (accumulator : after.accumulator = state.accumulator)
    (raw : after.rawQueue.finished = true → after.receiving = false ∧ after.incoming = [])
    (ended : next = .ended → after.rawQueue.finished = true ∧ after.rawQueue.queue = [])
    (others : ∀ j, state.worker j = .ended →
      after.rawQueue.finished = true ∧ after.rawQueue.queue = []) : ShutDown after := by
  obtain ⟨waits, unfinished, adds⟩ := shutDown.waiting working
  refine ⟨raw, fun j gone => ?_, fun producer workers => ?_, fun finished => ?_, fun gone => ?_⟩
  · by_cases same : j = i
    · rw [moves, same, Function.update_self] at gone
      exact ended gone
    · rw [moves, Function.update_of_ne same] at gone
      exact others j gone
  · rw [main] at producer workers
    exact absurd waits (not_or.mpr ⟨producer, workers⟩)
  · exact absurd (signals.symm.trans finished) unfinished
  · exact absurd (accumulator.symm.trans gone) adds

theorem ShutDown.moves (shutDown : ShutDown state) (moves : Moves imaging spots state after) :
    ShutDown after := by
  have going := @ShutDown.works _ _ _ state after shutDown
  obtain ⟨raw, worker, joined, signals, accumulator⟩ := shutDown
  cases moves with
  | received receiving whole =>
    have unfinished : state.rawQueue.finished ≠ true := fun finished =>
      absurd receiving (by simp [(raw finished).1])
    exact ⟨fun finished => absurd finished unfinished,
      fun i ended => absurd (worker i ended).1 unfinished, joined, signals, accumulator⟩
  | rawFinished nothing =>
    exact ⟨fun _ => ⟨rfl, nothing⟩, fun i ended => ⟨rfl, (worker i ended).2⟩, joined, signals,
      accumulator⟩
  | rawPopped popping held =>
    refine going (by rw [popping]; nofun) rfl rfl rfl rfl raw nofun fun j ended => ?_
    -- no worker has left a queue that still holds a packet
    exact absurd (held.symm.trans (worker j ended).2) (List.cons_ne_nil _ _)
  | workerEnded nothing finished popping =>
    exact going (by rw [popping]; nofun) rfl rfl rfl rfl raw (fun _ => ⟨finished, nothing⟩) worker
  | decoded decoding _ =>
    exact going (by rw [decoding]; nofun) rfl rfl rfl rfl raw nofun worker
  | skipped decoding _ =>
    exact going (by rw [decoding]; nofun) rfl rfl rfl rfl raw nofun worker
  | signalsPushed pushing =>
    exact going (by rw [pushing]; nofun) rfl rfl rfl rfl raw nofun worker
  | signalsPopped _ _ => exact ⟨raw, worker, joined, signals, nofun⟩
  | accumulatorEnded nothing finished _ =>
    exact ⟨raw, worker, joined, signals, fun _ => ⟨finished, nothing⟩⟩
  | added _ => exact ⟨raw, worker, joined, signals, nofun⟩
  | producerJoined before =>
    refine ⟨raw, worker, fun _ absurd => (absurd rfl).elim, fun finished => ?_, accumulator⟩
    simpa [before] using signals finished
  | workersJoined before ended =>
    refine ⟨raw, worker, fun _ _ => ended, fun finished => ?_, accumulator⟩
    simpa [before] using signals finished
  | signalsFinished before =>
    exact ⟨raw, worker, fun _ _ => joined (by simp [before]) (by simp [before]), fun _ => .inl rfl,
      fun ended => ⟨rfl, (accumulator ended).2⟩⟩
  | accumulatorJoined before =>
    exact ⟨raw, worker, fun _ _ => joined (by simp [before]) (by simp [before]), fun _ => .inr rfl,
      accumulator⟩

/-! ## The result -/

/-- Before the first packet. -/
def initial (packets : List RawFramePacket) : Pipeline rows cols workers where
  incoming := packets

/-- The producer, the workers and the accumulator have ended. -/
structure Finished (state : Pipeline rows cols workers) : Prop where
  producer : state.receiving = false
  workers : ∀ i, state.worker i = .ended
  accumulator : state.accumulator = .ended

theorem conserved_initial (packets : List RawFramePacket) :
    Conserved imaging spots packets (initial packets : Pipeline rows cols workers) := by
  refine ⟨[], ?_, rfl, rfl⟩
  simp [outstanding, initial, groupsOf, inHand, adding]

theorem shutDown_initial (packets : List RawFramePacket) :
    ShutDown (initial packets : Pipeline rows cols workers) :=
  ⟨nofun, nofun, fun absurd => (absurd rfl).elim, nofun, nofun⟩

/-- Nothing is left anywhere. -/
theorem outstanding_finished (shutDown : ShutDown state) (staffed : 0 < workers)
    (finished : Finished state) : outstanding imaging spots state = 0 := by
  obtain ⟨rawFinished, rawEmpty⟩ := shutDown.worker ⟨0, staffed⟩ (finished.workers _)
  have nothing := (shutDown.raw rawFinished).2
  have signalsEmpty := (shutDown.accumulator finished.accumulator).2
  simp [outstanding, nothing, rawEmpty, signalsEmpty, finished.workers, finished.accumulator,
    groupsOf, inHand, adding]

/-- Packet by packet is group by group. -/
theorem sequential_eq (packets : List RawFramePacket) :
    sequential imaging spots packets =
      accumulate 0 ((groupsOf imaging spots packets).flatMap SignalPacket.signals) := by
  have folding : ∀ sums : Sums rows cols,
      packets.foldl (fun sums packet => match frameSignals imaging spots packet with
        | none => sums
        | some group => accumulate sums group.signals) sums =
      accumulate sums ((groupsOf imaging spots packets).flatMap SignalPacket.signals) := by
    induction packets with
    | nil => exact fun _ => rfl
    | cons packet packets ih =>
      intro sums
      rw [List.foldl_cons, ih]
      simp only [groupsOf, List.filterMap_cons]
      cases frameSignals imaging spots packet with
      | none => rfl
      | some group => rw [List.flatMap_cons, accumulate_append]
  exact folding 0

end Pipeline

open Pipeline

/-- Whatever the schedule, when all threads have ended the result is that of a sequential loop: one
    group for each packet that decodes, in some order, and the same images. -/
theorem pipeline_deterministic {rows cols workers : Nat} {Raw : Type}
    (imaging : Imaging rows cols Raw) (spots : List SpotInfo) (packets : List RawFramePacket)
    (staffed : 0 < workers) (actions : List (PipelineAction workers))
    (admits : Admits (effect imaging spots) Enabled actions (initial packets))
    (finished : Finished (run (effect imaging spots) actions (initial packets))) :
    ∃ groups : List SignalPacket, groups.Perm (packets.filterMap (frameSignals imaging spots)) ∧
      (run (effect imaging spots) actions (initial packets)).allSignals =
        groups.flatMap SignalPacket.signals ∧
      (run (effect imaging spots) actions (initial packets)).sums =
        sequential imaging spots packets := by
  obtain ⟨conserved, shutDown⟩ :
      Conserved imaging spots packets (run (effect imaging spots) actions (initial packets)) ∧
        ShutDown (run (effect imaging spots) actions (initial packets)) :=
    run_invariant (I := fun _ state => Conserved imaging spots packets state ∧ ShutDown state)
      (fun _ _ _ safe enabled => ⟨safe.1.moves (effect_moves enabled),
        safe.2.moves (effect_moves enabled)⟩) actions _
      ⟨conserved_initial packets, shutDown_initial packets⟩ admits
  obtain ⟨groups, whole, signals, sums⟩ := conserved
  rw [outstanding_finished shutDown staffed finished, add_zero] at whole
  have perm : groups.Perm (groupsOf imaging spots packets) := Multiset.coe_eq_coe.mp whole
  refine ⟨groups, perm, signals, ?_⟩
  rw [sums, signals, sequential_eq, accumulate_perm 0 (perm.flatMap_right _)]

/-- One grey pixel; an empty buffer does not decode. -/
def grey : Imaging 1 1 UInt8 where
  imdecode := List.head?
  preprocess raw := fun _ _ => raw.toNat

def spot : SpotInfo where
  id := 1
  cameraCenter := (0, 0)
  sampleOffset := (1 / 4, 0)
  radius := 1
  gain := 2

/-- Two workers, the second of which overtakes the first; the packet in between is skipped. -/
def overtaking : List (PipelineAction 2) :=
  [.receive, .receive, .popRaw 0, .receive, .popRaw 1, .decode 1, .popRaw 1, .decode 1,
    .pushSignals 1, .finishRaw, .joinProducer, .popSignals, .decode 0, .pushSignals 0, .popRaw 1,
    .add, .popRaw 0, .joinWorkers, .popSignals, .finishSignals, .add, .popSignals, .joinAccumulator]

theorem pipeline_deterministic_overtaking :
    ∃ groups : List SignalPacket,
      groups.Perm ([⟨1, 0, 0, [8]⟩, ⟨2, 0, 0, []⟩, ⟨3, 0, 0, [6]⟩].filterMap
        (frameSignals grey [spot])) ∧
      (run (effect grey [spot]) overtaking
        (initial [⟨1, 0, 0, [8]⟩, ⟨2, 0, 0, []⟩, ⟨3, 0, 0, [6]⟩])).allSignals =
          groups.flatMap SignalPacket.signals ∧
      (run (effect grey [spot]) overtaking
        (initial [⟨1, 0, 0, [8]⟩, ⟨2, 0, 0, []⟩, ⟨3, 0, 0, [6]⟩])).sums =
          sequential grey [spot] [⟨1, 0, 0, [8]⟩, ⟨2, 0, 0, []⟩, ⟨3, 0, 0, [6]⟩] :=
  pipeline_deterministic grey [spot] _ (by decide) overtaking (by decide +kernel)
    ⟨by decide +kernel, by decide +kernel, by decide +kernel⟩

end PictureReconstruct.Reconstruct
