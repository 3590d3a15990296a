import PictureReconstruct.Library.Text
import PictureReconstruct.PoolDemo.MemoryPool

/-! # The threads of the pool demo

`producer` fills buffers and pushes them, `consumer` pops and sends them, and `main` stops the one,
then the queue, then the pool.  A step ends where a thread locks or unlocks a mutex; a thread that
has to wait takes no step.

* `step`: one step of one of the three threads.
* `Sound`: every buffer is in exactly one place, and the frames on their way are in order.
* `frames_in_order`: what is sent, over every interleaving.
* `Finished`: what `main` prints in the end.
-/

namespace PictureReconstruct.PoolDemo

open Library.Runs Library.Text

/-- A `FrameQueue` without its mutex. -/
structure FrameQueue (blockCount : Nat) where
  queue : List (Fin blockCount) := []
  stop : Bool := false

/-- Where `producer` is. -/
inductive Producer (blockCount : Nat)
  | loop
  /-- calls `acquire` -/
  | acquiring
  | filling (buffer : Fin blockCount)
  /-- calls `push` -/
  | pushing (buffer : Fin blockCount)
  /-- goes on without the frame; its pointer is destroyed -/
  | discarding (buffer : Fin blockCount)
  | ended

/-- Where `consumer` is; its pointer `buf` lives outside of the loop. -/
inductive Consumer (blockCount : Nat)
  /-- calls `pop`, still with the buffer of the frame before -/
  | popping (buf : Option (Fin blockCount))
  /-- in `pop`, under the mutex: `out` has the next buffer, and the one before goes back -/
  | assigning (old buffer : Fin blockCount)
  | sending (buffer : Fin blockCount)
  /-- `pop` has returned `false` -/
  | leaving (buf : Option (Fin blockCount))
  | ended

inductive Main
  | sleeping
  | joiningProducer
  | stoppingQueue
  | joiningConsumer
  | stoppingPool
  | ended
deriving DecidableEq

/-- A line of `consumer`. -/
structure Sent where
  payload : List UInt8
  bufferId : Nat
  size : Nat

structure Demo (blockSize blockCount : Nat) where
  pool : MemoryPool blockSize blockCount
  queue : FrameQueue blockCount := {}
  running : Bool := true
  frameNo : Nat := 0
  producer : Producer blockCount := .loop
  consumer : Consumer blockCount := .popping none
  main : Main := .sleeping
  sent : List Sent := []

/-- The bytes of a text, which is ASCII here. -/
def bytes (text : List Char) : List UInt8 := text.map Char.toUInt8

/-- The text of frame `n`. -/
def fakeFrame (n : Nat) : List UInt8 := bytes ("frame_".toList ++ decimal n)

namespace MemoryPool

variable {blockSize blockCount : Nat}

/-- `memcpy` of a frame that fits, and its length. -/
def fill (pool : MemoryPool blockSize blockCount) (buffer : Fin blockCount) (frame : List UInt8)
    (fits : frame.length ≤ blockSize) : MemoryPool blockSize blockCount :=
  { pool with
    data := Function.update pool.data buffer (frame ++ (pool.data buffer).drop frame.length)
    size := Function.update pool.size buffer frame.length
    sized := by
      intro other
      by_cases same : other = buffer
      · rw [same, Function.update_self, List.length_append, List.length_drop, pool.sized]
        omega
      · rw [Function.update_of_ne same, pool.sized] }

/-- What is read of a buffer. -/
def payload (pool : MemoryPool blockSize blockCount) (buffer : Fin blockCount) : List UInt8 :=
  (pool.data buffer).take (pool.size buffer)

end MemoryPool

inductive Actor
  | producer
  | consumer
  | main
deriving DecidableEq

namespace Demo

variable {blockSize blockCount : Nat}

def start (data : Fin blockCount → List UInt8)
    (sized : ∀ buffer, (data buffer).length = blockSize) : Demo blockSize blockCount where
  pool := { data, sized }

/-- `consumer` has locked the mutex of the queue. -/
def locked (demo : Demo blockSize blockCount) : Bool :=
  match demo.consumer with
  | .assigning _ _ => true
  | _ => false

def producerStep (demo : Demo blockSize blockCount) : Option (Demo blockSize blockCount) :=
  match demo.producer with
  | .loop => some { demo with producer := if demo.running then .acquiring else .ended }
  | .acquiring =>
    if demo.pool.ready then
      match demo.pool.acquire with
      | (some buffer, pool) => some { demo with pool, producer := .filling buffer }
      | (none, pool) => some { demo with pool, producer := .ended }
    else none
  | .filling buffer =>
    let frame := fakeFrame demo.frameNo
    if fits : frame.length ≤ blockSize then
      some { demo with
        pool := demo.pool.fill buffer frame fits
        frameNo := demo.frameNo + 1
        producer := .pushing buffer }
    else some { demo with frameNo := demo.frameNo + 1, producer := .discarding buffer }
  | .pushing buffer =>
    if demo.locked then none
    else some { demo with
      queue := { demo.queue with queue := demo.queue.queue ++ [buffer] }
      producer := .loop }
  | .discarding buffer =>
    some { demo with pool := demo.pool.release buffer, producer := .loop }
  | .ended => none

def consumerStep (demo : Demo blockSize blockCount) : Option (Demo blockSize blockCount) :=
  match demo.consumer with
  | .popping buf =>
    match demo.queue.queue with
    | [] => if demo.queue.stop then some { demo with consumer := .leaving buf } else none
    | buffer :: rest =>
      let queue := { demo.queue with queue := rest }
      match buf with
      | some old => some { demo with queue, consumer := .assigning old buffer }
      | none => some { demo with queue, consumer := .sending buffer }
  | .assigning old buffer =>
    some { demo with pool := demo.pool.release old, consumer := .sending buffer }
  | .sending buffer =>
    some { demo with
      sent := demo.sent ++ [{
        payload := demo.pool.payload buffer
        bufferId := buffer
        size := demo.pool.size buffer }]
      consumer := .popping (some buffer) }
  | .leaving (some buffer) =>
    some { demo with pool := demo.pool.release buffer, consumer := .ended }
  | .leaving none => some { demo with consumer := .ended }
  | .ended => none

def mainStep (demo : Demo blockSize blockCount) : Option (Demo blockSize blockCount) :=
  match demo.main with
  | .sleeping => some { demo with running := false, main := .joiningProducer }
  | .joiningProducer =>
    match demo.producer with
    | .ended => some { demo with main := .stoppingQueue }
    | _ => none
  | .stoppingQueue =>
    -- `shutdown` locks the mutex of the queue
    if demo.locked then none
    else some { demo with queue := { demo.queue with stop := true }, main := .joiningConsumer }
  | .joiningConsumer =>
    match demo.consumer with
    | .ended => some { demo with main := .stoppingPool }
    | _ => none
  | .stoppingPool => some { demo with pool := demo.pool.shutdown, main := .ended }
  | .ended => none

/-- The state after a step of a thread, or nothing where it waits or has ended. -/
def step : Actor → Demo blockSize blockCount → Option (Demo blockSize blockCount)
  | .producer => producerStep
  | .consumer => consumerStep
  | .main => mainStep

def next (actor : Actor) (demo : Demo blockSize blockCount) : Demo blockSize blockCount :=
  (step actor demo).getD demo

/-- What a step can do. -/
inductive Moves (demo : Demo blockSize blockCount) : Demo blockSize blockCount → Prop
  | checks (position : demo.producer = .loop) :
    Moves demo { demo with producer := if demo.running then .acquiring else .ended }
  | acquires {buffer : Fin blockCount} {rest : List (Fin blockCount)}
      (position : demo.producer = .acquiring) (held : demo.pool.freeList = buffer :: rest) :
    Moves demo { demo with pool := demo.pool.handOut.2, producer := .filling buffer }
  | breaks (position : demo.producer = .acquiring) (stopped : demo.pool.stop = true) :
    Moves demo { demo with producer := .ended }
  | fills {buffer : Fin blockCount} (position : demo.producer = .filling buffer)
      (fits : (fakeFrame demo.frameNo).length ≤ blockSize) :
    Moves demo { demo with
      pool := demo.pool.fill buffer (fakeFrame demo.frameNo) fits
      frameNo := demo.frameNo + 1
      producer := .pushing buffer }
  | skips {buffer : Fin blockCount} (position : demo.producer = .filling buffer)
      (large : ¬ (fakeFrame demo.frameNo).length ≤ blockSize) :
    Moves demo { demo with frameNo := demo.frameNo + 1, producer := .discarding buffer }
  | pushes {buffer : Fin blockCount} (position : demo.producer = .pushing buffer) :
    Moves demo { demo with
      queue := { demo.queue with queue := demo.queue.queue ++ [buffer] }
      producer := .loop }
  | discards {buffer : Fin blockCount} (position : demo.producer = .discarding buffer) :
    Moves demo { demo with pool := demo.pool.release buffer, producer := .loop }
  | takesFirst {buffer : Fin blockCount} {rest : List (Fin blockCount)}
      (position : demo.consumer = .popping none) (held : demo.queue.queue = buffer :: rest) :
    Moves demo { demo with
      queue := { demo.queue with queue := rest }
      consumer := .sending buffer }
  | takes {old buffer : Fin blockCount} {rest : List (Fin blockCount)}
      (position : demo.consumer = .popping (some old)) (held : demo.queue.queue = buffer :: rest) :
    Moves demo { demo with
      queue := { demo.queue with queue := rest }
      consumer := .assigning old buffer }
  | assigns {old buffer : Fin blockCount} (position : demo.consumer = .assigning old buffer) :
    Moves demo { demo with pool := demo.pool.release old, consumer := .sending buffer }
  | sends {buffer : Fin blockCount} (position : demo.consumer = .sending buffer) :
    Moves demo { demo with
      sent := demo.sent ++ [{
        payload := demo.pool.payload buffer
        bufferId := buffer
        size := demo.pool.size buffer }]
      consumer := .popping (some buffer) }
  | leaves {buf : Option (Fin blockCount)} (position : demo.consumer = .popping buf)
      (nothing : demo.queue.queue = []) (stopped : demo.queue.stop = true) :
    Moves demo { demo with consumer := .leaving buf }
  | returns {buffer : Fin blockCount} (position : demo.consumer = .leaving (some buffer)) :
    Moves demo { demo with pool := demo.pool.release buffer, consumer := .ended }
  | returnsEmpty (position : demo.consumer = .leaving none) :
    Moves demo { demo with consumer := .ended }
  | wakes (position : demo.main = .sleeping) :
    Moves demo { demo with running := false, main := .joiningProducer }
  | joinsProducer (position : demo.main = .joiningProducer) (ended : demo.producer = .ended) :
    Moves demo { demo with main := .stoppingQueue }
  | stopsQueue (position : demo.main = .stoppingQueue) :
    Moves demo { demo with queue := { demo.queue with stop := true }, main := .joiningConsumer }
  | joinsConsumer (position : demo.main = .joiningConsumer) (ended : demo.consumer = .ended) :
    Moves demo { demo with main := .stoppingPool }
  | stopsPool (position : demo.main = .stoppingPool) :
    Moves demo { demo with pool := demo.pool.shutdown, main := .ended }

section Steps

variable {demo after : Demo blockSize blockCount} {actor : Actor}

theorem producerStep_moves (stepped : demo.producerStep = some after) : Moves demo after := by
  unfold producerStep at stepped
  split at stepped
  · next position =>
    obtain rfl := Option.some.inj stepped
    exact .checks position
  · next position =>
    split at stepped
    · next ready =>
      cases stopped : demo.pool.stop with
      | true =>
        simp only [MemoryPool.acquire, stopped, if_true] at stepped
        obtain rfl := Option.some.inj stepped
        exact .breaks position stopped
      | false =>
        have free : demo.pool.freeList ≠ [] := by simpa [MemoryPool.ready, stopped] using ready
        obtain ⟨buffer, rest, held⟩ := List.exists_cons_of_ne_nil free
        have handed := MemoryPool.handOut_cons held
        have acquired : demo.pool.acquire = demo.pool.handOut := by
          simp [MemoryPool.acquire, stopped]
        have moves : Moves demo _ := .acquires position held
        rw [handed] at moves
        rw [acquired, handed] at stepped
        obtain rfl := Option.some.inj stepped
        exact moves
    · cases stepped
  · next buffer position =>
    simp only at stepped
    split at stepped
    · next fits =>
      obtain rfl := Option.some.inj stepped
      exact .fills position fits
    · next large =>
      obtain rfl := Option.some.inj stepped
      exact .skips position large
  · next buffer position =>
    split at stepped
    · cases stepped
    · obtain rfl := Option.some.inj stepped
      exact .pushes position
  · next buffer position =>
    obtain rfl := Option.some.inj stepped
    exact .discards position
  · cases stepped

theorem consumerStep_moves (stepped : demo.consumerStep = some after) : Moves demo after := by
  unfold consumerStep at stepped
  split at stepped
  · next buf position =>
    split at stepped
    · next nothing =>
      split at stepped
      · next stopped =>
        obtain rfl := Option.some.inj stepped
        exact .leaves position nothing stopped
      · cases stepped
    · next buffer rest held =>
      cases buf with
      | some old =>
        obtain rfl := Option.some.inj stepped
        exact .takes position held
      | none =>
        obtain rfl := Option.some.inj stepped
        exact .takesFirst position held
  · next old buffer position =>
    obtain rfl := Option.some.inj stepped
    exact .assigns position
  · next buffer position =>
    obtain rfl := Option.some.inj stepped
    exact .sends position
  · next buffer position =>
    obtain rfl := Option.some.inj stepped
    exact .returns position
  · next position =>
    obtain rfl := Option.some.inj stepped
    exact .returnsEmpty position
  · cases stepped

theorem mainStep_moves (stepped : demo.mainStep = some after) : Moves demo after := by
  unfold mainStep at stepped
  split at stepped
  · next position =>
    obtain rfl := Option.some.inj stepped
    exact .wakes position
  · next position =>
    split at stepped
    · next ended =>
      obtain rfl := Option.some.inj stepped
      exact .joinsProducer position ended
    · cases stepped
  · next position =>
    split at stepped
    · cases stepped
    · obtain rfl := Option.some.inj stepped
      exact .stopsQueue position
  · next position =>
    split at stepped
    · next ended =>
      obtain rfl := Option.some.inj stepped
      exact .joinsConsumer position ended
    · cases stepped
  · next position =>
    obtain rfl := Option.some.inj stepped
    exact .stopsPool position
  · cases stepped

theorem step_moves (stepped : step actor demo = some after) : Moves demo after := by
  cases actor with
  | producer => exact producerStep_moves stepped
  | consumer => exact consumerStep_moves stepped
  | main => exact mainStep_moves stepped

end Steps

end Demo

/-! ## Where the buffers and the frames are -/

section Places

variable {blockSize blockCount : Nat}

/-- The buffer that `producer` has a pointer to. -/
def Producer.held : Producer blockCount → List (Fin blockCount)
  | .filling buffer | .pushing buffer | .discarding buffer => [buffer]
  | .loop | .acquiring | .ended => []

/-- The buffer with a frame to be sent. -/
def Producer.carried : Producer blockCount → List (Fin blockCount)
  | .pushing buffer => [buffer]
  | _ => []

def Consumer.held : Consumer blockCount → List (Fin blockCount)
  | .popping buf | .leaving buf => buf.toList
  | .assigning old buffer => [old, buffer]
  | .sending buffer => [buffer]
  | .ended => []

/-- The buffer without a frame to be sent. -/
def Producer.spare : Producer blockCount → List (Fin blockCount)
  | .filling buffer | .discarding buffer => [buffer]
  | _ => []

def Consumer.carried : Consumer blockCount → List (Fin blockCount)
  | .assigning _ buffer | .sending buffer => [buffer]
  | _ => []

/-- The buffer whose frame was sent. -/
def Consumer.spare : Consumer blockCount → List (Fin blockCount)
  | .popping buf | .leaving buf => buf.toList
  | .assigning old _ => [old]
  | _ => []

/-- The steps of `main` that are done. -/
def Main.rank : Main → Nat
  | .sleeping => 0
  | .joiningProducer => 1
  | .stoppingQueue => 2
  | .joiningConsumer => 3
  | .stoppingPool => 4
  | .ended => 5

namespace Demo

/-- All buffers, by the place where they are. -/
def places (demo : Demo blockSize blockCount) : List (Fin blockCount) :=
  demo.pool.freeList ++ (demo.producer.held ++ (demo.queue.queue ++ demo.consumer.held))

/-- The buffers with a frame to be sent, the next one first. -/
def onTheWay (demo : Demo blockSize blockCount) : List (Fin blockCount) :=
  demo.consumer.carried ++ (demo.queue.queue ++ demo.producer.carried)

/-- The first frames, without those that are too large for a buffer. -/
def fitting (blockSize frames : Nat) : List (List UInt8) :=
  ((List.range frames).map fakeFrame).filter fun frame => frame.length ≤ blockSize

/-- Every buffer is in one place, and the pool counts those it has handed out. -/
structure Placed (demo : Demo blockSize blockCount) : Prop where
  places : demo.places.Perm (List.finRange blockCount)
  counted : demo.pool.freeList.length + demo.pool.inUseCount = blockCount
  peaked : demo.pool.highWaterMark ≤ blockCount
  unfailed : demo.pool.acquireFailCount = 0

/-- What was sent and what is on its way are the frames that fit, in order. -/
structure Ordered (demo : Demo blockSize blockCount) : Prop where
  frames : demo.sent.map Sent.payload ++ demo.onTheWay.map demo.pool.payload =
    fitting blockSize demo.frameNo
  lines : ∀ line ∈ demo.sent, line.size = line.payload.length ∧ line.bufferId < blockCount
  /-- the frame on its way is no longer than its buffer -/
  sizes : ∀ buffer ∈ demo.onTheWay, demo.pool.size buffer ≤ blockSize
  /-- `consumer` keeps a buffer once it has sent it -/
  kept : ∀ buffer, demo.consumer = .popping (some buffer) → demo.sent ≠ []

/-- How far the threads are. -/
structure Staged (demo : Demo blockSize blockCount) : Prop where
  running : demo.running = decide (demo.main.rank = 0)
  queueStop : demo.queue.stop = decide (3 ≤ demo.main.rank)
  poolStop : demo.pool.stop = decide (5 ≤ demo.main.rank)
  producerLeft : demo.producer = .ended → 1 ≤ demo.main.rank
  producerEnded : 2 ≤ demo.main.rank → demo.producer = .ended
  consumerEnded : 4 ≤ demo.main.rank → demo.consumer = .ended
  drained : demo.consumer = .ended ∨ (∃ buf, demo.consumer = .leaving buf) →
    3 ≤ demo.main.rank ∧ demo.queue.queue = []

structure Sound (demo : Demo blockSize blockCount) : Prop where
  placed : Placed demo
  ordered : Ordered demo
  staged : Staged demo

/-! ## Every step keeps them there -/

section Steps

variable {demo after : Demo blockSize blockCount}

theorem Placed.rearranged (placed : Placed demo) (pool : after.pool.freeList = demo.pool.freeList)
    (count : after.pool.inUseCount = demo.pool.inUseCount)
    (mark : after.pool.highWaterMark = demo.pool.highWaterMark)
    (fails : after.pool.acquireFailCount = demo.pool.acquireFailCount)
    (same : after.places.Perm demo.places) : Placed after where
  places := same.trans placed.places
  counted := by rw [pool, count, placed.counted]
  peaked := mark ▸ placed.peaked
  unfailed := fails.trans placed.unfailed

/-- What `producer` or `consumer` holds is not free. -/
theorem Placed.not_free (placed : Placed demo) {buffer : Fin blockCount}
    (held : buffer ∈ demo.producer.held ++ (demo.queue.queue ++ demo.consumer.held)) :
    buffer ∉ demo.pool.freeList := fun free =>
  (List.nodup_append.mp (placed.places.symm.nodup (List.nodup_finRange blockCount))).2.2
    buffer free buffer held rfl

/-- A buffer goes back. -/
theorem Placed.released (placed : Placed demo) {buffer : Fin blockCount}
    (pool : after.pool = demo.pool.release buffer)
    (back : (demo.producer.held ++ (demo.queue.queue ++ demo.consumer.held)).Perm
      (buffer :: (after.producer.held ++ (after.queue.queue ++ after.consumer.held)))) :
    Placed after := by
  have held := placed.not_free (back.symm.subset List.mem_cons_self)
  have nodup : demo.pool.freeList.Nodup :=
    (List.nodup_append.mp (placed.places.symm.nodup (List.nodup_finRange blockCount))).1
  have fewer : demo.pool.freeList.length < blockCount := by
    have bound := (List.nodup_cons.mpr ⟨held, nodup⟩).length_le_card
    rw [List.length_cons, Fintype.card_fin] at bound
    exact bound
  have counted := placed.counted
  have positive : 0 < demo.pool.inUseCount := by omega
  refine ⟨?_, ?_, ?_, ?_⟩
  · refine .trans ?_ placed.places
    simp only [Demo.places, pool, MemoryPool.release, List.append_assoc, List.singleton_append]
    exact back.symm.append_left _
  · simp only [pool, MemoryPool.release, if_pos positive, List.length_append,
      List.length_singleton]
    omega
  · rw [pool]
    exact placed.peaked
  · rw [pool]
    exact placed.unfailed

theorem Placed.moves (placed : Placed demo) (moves : Moves demo after) : Placed after := by
  cases moves with
  | checks position =>
    refine placed.rearranged rfl rfl rfl rfl ?_
    cases demo.running <;> simp [Demo.places, position, Producer.held]
  | @acquires buffer rest position held =>
    have counted := placed.counted
    have peaked := placed.peaked
    rw [held, List.length_cons] at counted
    rw [MemoryPool.handOut_cons held]
    refine ⟨?_, ?_, ?_, placed.unfailed⟩
    -- from the front of the free list to the hand of `producer`
    · refine .trans ?_ placed.places
      simp only [Demo.places, held, position, Producer.held, List.nil_append, List.cons_append]
      exact List.perm_middle
    · simp only
      omega
    · simp only
      omega
  | breaks position stopped =>
    exact placed.rearranged rfl rfl rfl rfl (by simp [Demo.places, position, Producer.held])
  | fills position fits | skips position large =>
    exact placed.rearranged rfl rfl rfl rfl
      (by simp [Demo.places, position, Producer.held, MemoryPool.fill])
  | pushes position =>
    exact placed.rearranged rfl rfl rfl rfl (by
      simpa [Demo.places, position, Producer.held] using List.perm_middle.append_left _)
  | discards position =>
    exact placed.released rfl (by simp [position, Producer.held])
  | takesFirst position held =>
    refine placed.rearranged rfl rfl rfl rfl ?_
    simp only [Demo.places, position, Consumer.held, held, Option.toList, List.append_nil]
    exact ((List.perm_append_singleton ..).append_left _).append_left _
  | @takes old buffer rest position held =>
    refine placed.rearranged rfl rfl rfl rfl ?_
    simp only [Demo.places, position, Consumer.held, held, Option.toList]
    -- `consumer` keeps the old buffer until it has assigned the new one
    have first : (rest ++ [old, buffer]).Perm (buffer :: (rest ++ [old])) :=
      ((List.Perm.swap buffer old []).append_left rest).trans List.perm_middle
    exact (first.append_left _).append_left _
  | assigns position =>
    refine placed.released rfl ?_
    simp only [position, Consumer.held]
    exact (List.perm_middle.append_left _).trans List.perm_middle
  | sends position =>
    exact placed.rearranged rfl rfl rfl rfl (by simp [Demo.places, position, Consumer.held])
  | leaves position nothing stopped =>
    exact placed.rearranged rfl rfl rfl rfl (by simp [Demo.places, position, Consumer.held])
  | returns position =>
    refine placed.released rfl ?_
    simp only [position, Consumer.held, Option.toList]
    exact (List.perm_middle.append_left _).trans List.perm_middle
  | returnsEmpty position =>
    exact placed.rearranged rfl rfl rfl rfl (by simp [Demo.places, position, Consumer.held])
  | wakes | joinsProducer | stopsQueue | joinsConsumer | stopsPool =>
    exact placed.rearranged rfl rfl rfl rfl (.refl _)

theorem Staged.producing (staged : Staged demo) (busy : demo.producer ≠ .ended) :
    demo.main.rank < 2 :=
  Nat.lt_of_not_le fun late => busy (staged.producerEnded late)

theorem Staged.consuming (staged : Staged demo) (busy : demo.consumer ≠ .ended) :
    demo.main.rank < 4 :=
  Nat.lt_of_not_le fun late => busy (staged.consumerEnded late)

/-- Before the queue is stopped, `consumer` has not left its loop. -/
theorem Staged.looping (staged : Staged demo) (early : demo.main.rank < 3) :
    ¬ (demo.consumer = .ended ∨ ∃ buf, demo.consumer = .leaving buf) :=
  fun left => Nat.not_le_of_lt early (staged.drained left).1

theorem Staged.moves (staged : Staged demo) (moves : Moves demo after) : Staged after := by
  obtain ⟨running, queueStop, poolStop, producerLeft, producerEnded, consumerEnded, drained⟩ :=
    id staged
  cases moves with
  | checks position =>
    have early := staged.producing (by rw [position]; exact nofun)
    refine ⟨running, queueStop, poolStop, ?_, fun late => ?_, consumerEnded, drained⟩
    · simp only [running]
      by_cases asleep : demo.main.rank = 0
      · simp [asleep]
      · intro
        omega
    · exact absurd early (Nat.not_lt_of_le late)
  | breaks position stopped =>
    refine ⟨running, queueStop, poolStop, fun _ => ?_, fun _ => rfl, consumerEnded, drained⟩
    -- `main` stops the pool long behind the join of `producer`
    rw [poolStop, decide_eq_true_eq] at stopped
    exact Nat.le_of_lt (Nat.lt_of_lt_of_le (by decide) stopped)
  | @acquires buffer rest position held =>
    have early := staged.producing (by rw [position]; exact nofun)
    rw [MemoryPool.handOut_cons held]
    exact ⟨running, queueStop, poolStop, nofun, fun late => absurd early (Nat.not_lt_of_le late),
      consumerEnded, drained⟩
  | fills position | skips position | discards position =>
    have early := staged.producing (by rw [position]; exact nofun)
    exact ⟨running, queueStop, poolStop, nofun, fun late => absurd early (Nat.not_lt_of_le late),
      consumerEnded, drained⟩
  | pushes position =>
    have early := staged.producing (by rw [position]; exact nofun)
    -- nothing is pushed behind the end of `producer`
    have looping := staged.looping (Nat.lt_succ_of_lt early)
    exact ⟨running, queueStop, poolStop, nofun, fun late => absurd early (Nat.not_lt_of_le late),
      consumerEnded, fun left => absurd left looping⟩
  | takesFirst position held | takes position held | assigns position | sends position =>
    have early := staged.consuming (by rw [position]; exact nofun)
    refine ⟨running, queueStop, poolStop, producerLeft, producerEnded, fun late => ?_, ?_⟩
    · exact absurd early (Nat.not_lt_of_le late)
    · rintro (ended | ⟨buf, leaving⟩)
      · cases ended
      · cases leaving
  | leaves position nothing stopped =>
    have early := staged.consuming (by rw [position]; exact nofun)
    refine ⟨running, queueStop, poolStop, producerLeft, producerEnded, fun late => ?_, fun _ => ?_⟩
    · exact absurd early (Nat.not_lt_of_le late)
    · rw [queueStop, decide_eq_true_eq] at stopped
      exact ⟨stopped, nothing⟩
  | returns position | returnsEmpty position =>
    exact ⟨running, queueStop, poolStop, producerLeft, producerEnded, fun _ => rfl,
      fun _ => drained (.inr ⟨_, position⟩)⟩
  | wakes position =>
    have looping := staged.looping (by rw [position]; decide)
    rw [position] at queueStop poolStop
    exact ⟨rfl, queueStop, poolStop, fun _ => Nat.le_refl 1, fun late => by simp [Main.rank] at late,
      fun late => by simp [Main.rank] at late, fun left => absurd left looping⟩
  | joinsProducer position ended =>
    have looping := staged.looping (by rw [position]; decide)
    rw [position] at running queueStop poolStop
    exact ⟨running, queueStop, poolStop, fun _ => Nat.le_succ 1, fun _ => ended,
      fun late => by simp [Main.rank] at late, fun left => absurd left looping⟩
  | stopsQueue position =>
    have looping := staged.looping (by rw [position]; decide)
    rw [position] at running poolStop producerEnded
    exact ⟨running, rfl, poolStop, fun _ => by simp [Main.rank], fun _ => producerEnded (by decide),
      fun late => by simp [Main.rank] at late, fun left => absurd left looping⟩
  | joinsConsumer position ended =>
    rw [position] at running queueStop poolStop producerEnded drained
    exact ⟨running, queueStop, poolStop, fun _ => by simp [Main.rank],
      fun _ => producerEnded (by decide), fun _ => ended,
      fun left => ⟨by simp [Main.rank], (drained left).2⟩⟩
  | stopsPool position =>
    rw [position] at running queueStop producerEnded consumerEnded drained
    exact ⟨running, queueStop, rfl, fun _ => by simp [Main.rank],
      fun _ => producerEnded (by decide), fun _ => consumerEnded (by decide),
      fun left => ⟨by simp [Main.rank], (drained left).2⟩⟩

/-- A buffer without a frame to be sent is not one with it. -/
theorem Placed.not_onTheWay (placed : Placed demo) {buffer : Fin blockCount}
    (spare : buffer ∈ demo.pool.freeList ++ (demo.producer.spare ++ demo.consumer.spare)) :
    buffer ∉ demo.onTheWay := by
  have parts : demo.places.Perm
      (demo.pool.freeList ++ (demo.producer.spare ++ demo.consumer.spare) ++ demo.onTheWay) := by
    rw [List.perm_iff_count]
    intro other
    have producer : demo.producer.held.count other =
        demo.producer.spare.count other + demo.producer.carried.count other := by
      cases demo.producer <;> simp [Producer.held, Producer.spare, Producer.carried]
    have consumer : demo.consumer.held.count other =
        demo.consumer.spare.count other + demo.consumer.carried.count other := by
      cases demo.consumer <;>
        simp [Consumer.held, Consumer.spare, Consumer.carried, List.count_cons, Nat.add_comm]
    simp only [Demo.places, onTheWay, List.count_append]
    omega
  have nodup := (parts.symm.trans placed.places).symm.nodup (List.nodup_finRange blockCount)
  exact fun way => (List.nodup_append.mp nodup).2.2 buffer spare buffer way rfl

theorem Ordered.stays (ordered : Ordered demo) (sent : after.sent = demo.sent)
    (frameNo : after.frameNo = demo.frameNo) (way : after.onTheWay = demo.onTheWay)
    (same : ∀ buffer ∈ demo.onTheWay, after.pool.data buffer = demo.pool.data buffer ∧
      after.pool.size buffer = demo.pool.size buffer)
    (kept : ∀ buffer, after.consumer = .popping (some buffer) →
      demo.consumer = .popping (some buffer)) : Ordered after where
  frames := by
    have payloads : demo.onTheWay.map after.pool.payload =
        demo.onTheWay.map demo.pool.payload := by
      refine List.map_congr_left fun buffer member => ?_
      rw [MemoryPool.payload, MemoryPool.payload, (same buffer member).1, (same buffer member).2]
    rw [sent, frameNo, way, payloads, ordered.frames]
  lines := sent ▸ ordered.lines
  sizes buffer member := by
    rw [way] at member
    rw [(same buffer member).2]
    exact ordered.sizes buffer member
  kept buffer is := sent ▸ ordered.kept buffer (kept buffer is)

theorem fitting_succ (blockSize frames : Nat) : fitting blockSize (frames + 1) =
    fitting blockSize frames ++
      if (fakeFrame frames).length ≤ blockSize then [fakeFrame frames] else [] := by
  rw [fitting, List.range_succ, List.map_append, List.filter_append, fitting]
  congr 1
  by_cases fits : (fakeFrame frames).length ≤ blockSize
  · simp [fits]
  · simp [fits]

/-- A buffer that goes back or is handed out changes no frame on its way. -/
theorem size_of_spare (placed : Placed demo) {buffer other : Fin blockCount} {size : Nat}
    (spare : buffer ∈ demo.pool.freeList ++ (demo.producer.spare ++ demo.consumer.spare))
    (way : other ∈ demo.onTheWay) :
    Function.update demo.pool.size buffer size other = demo.pool.size other := by
  refine Function.update_of_ne (fun same => ?_) _ _
  subst same
  exact placed.not_onTheWay spare way

theorem Ordered.fills (ordered : Ordered demo) (placed : Placed demo) {buffer : Fin blockCount}
    (position : demo.producer = .filling buffer)
    (fits : (fakeFrame demo.frameNo).length ≤ blockSize) :
    Ordered { demo with
      pool := demo.pool.fill buffer (fakeFrame demo.frameNo) fits
      frameNo := demo.frameNo + 1
      producer := .pushing buffer } := by
  have spare : buffer ∉ demo.onTheWay :=
    placed.not_onTheWay (by simp [position, Producer.spare])
  have way : onTheWay { demo with
      pool := demo.pool.fill buffer (fakeFrame demo.frameNo) fits
      frameNo := demo.frameNo + 1
      producer := .pushing buffer } = demo.onTheWay ++ [buffer] := by
    simp [onTheWay, position, Producer.carried]
  have others : ∀ other ∈ demo.onTheWay, other ≠ buffer :=
    fun other member same => spare (same ▸ member)
  have payloads : demo.onTheWay.map
      (demo.pool.fill buffer (fakeFrame demo.frameNo) fits).payload =
        demo.onTheWay.map demo.pool.payload := by
    refine List.map_congr_left fun other member => ?_
    simp only [MemoryPool.payload, MemoryPool.fill, Function.update_of_ne (others other member)]
  have new : (demo.pool.fill buffer (fakeFrame demo.frameNo) fits).payload buffer =
      fakeFrame demo.frameNo := by
    simp only [MemoryPool.payload, MemoryPool.fill, Function.update_self, List.take_left]
  refine ⟨?_, ordered.lines, ?_, ordered.kept⟩
  · rw [way, List.map_append, payloads, List.map_singleton, new, ← List.append_assoc,
      ordered.frames, fitting_succ, if_pos fits]
  · rw [way]
    intro other member
    cases List.mem_append.mp member with
    | inl old =>
      simp only [MemoryPool.fill, Function.update_of_ne (others other old)]
      exact ordered.sizes other old
    | inr new =>
      obtain rfl := List.mem_singleton.mp new
      simp only [MemoryPool.fill, Function.update_self]
      exact fits

theorem Ordered.sends (ordered : Ordered demo) {buffer : Fin blockCount}
    (position : demo.consumer = .sending buffer) :
    Ordered { demo with
      sent := demo.sent ++ [{
        payload := demo.pool.payload buffer
        bufferId := buffer
        size := demo.pool.size buffer }]
      consumer := .popping (some buffer) } := by
  have way : demo.onTheWay = buffer :: (demo.queue.queue ++ demo.producer.carried) := by
    simp [onTheWay, position, Consumer.carried]
  obtain ⟨frames, lines, sizes, _⟩ := ordered
  refine ⟨?_, ?_, fun other member => sizes other ?_, fun _ _ => by simp⟩
  · rw [way, List.map_cons] at frames
    simp [onTheWay, Consumer.carried, ← frames]
  · intro line member
    cases List.mem_append.mp member with
    | inl old => exact lines line old
    | inr new =>
      obtain rfl := List.mem_singleton.mp new
      have bound := sizes buffer (way ▸ List.mem_cons_self)
      refine ⟨?_, buffer.isLt⟩
      rw [MemoryPool.payload, List.length_take, demo.pool.sized buffer, Nat.min_eq_left bound]
  · rw [way]
    exact List.mem_cons_of_mem buffer member

theorem Ordered.moves (ordered : Ordered demo) (placed : Placed demo) (moves : Moves demo after) :
    Ordered after := by
  cases moves with
  | fills position fits => exact ordered.fills placed position fits
  | sends position => exact ordered.sends position
  | checks position =>
    refine ordered.stays rfl rfl ?_ (fun _ _ => ⟨rfl, rfl⟩) (fun _ is => is)
    cases running : demo.running <;> simp [onTheWay, position, Producer.carried]
  | @acquires buffer rest position held =>
    rw [MemoryPool.handOut_cons held]
    exact ordered.stays rfl rfl (by simp [onTheWay, position, Producer.carried])
      (fun other way => ⟨rfl, size_of_spare placed (by simp [held]) way⟩) (fun _ is => is)
  | breaks position stopped =>
    exact ordered.stays rfl rfl (by simp [onTheWay, position, Producer.carried])
      (fun _ _ => ⟨rfl, rfl⟩) (fun _ is => is)
  | @skips buffer position large =>
    obtain ⟨frames, lines, sizes, kept⟩ := ordered
    have way : onTheWay { demo with
        frameNo := demo.frameNo + 1, producer := .discarding buffer } = demo.onTheWay := by
      simp [onTheWay, position, Producer.carried]
    refine ⟨?_, lines, way ▸ sizes, kept⟩
    rw [way, fitting_succ, if_neg large, List.append_nil, ← frames]
  | pushes position =>
    exact ordered.stays rfl rfl (by simp [onTheWay, position, Producer.carried])
      (fun _ _ => ⟨rfl, rfl⟩) (fun _ is => is)
  | discards position =>
    exact ordered.stays rfl rfl (by simp [onTheWay, position, Producer.carried])
      (fun other way => ⟨rfl, size_of_spare placed (by simp [position, Producer.spare]) way⟩)
      (fun _ is => is)
  | takesFirst position held | takes position held =>
    exact ordered.stays rfl rfl (by simp [onTheWay, position, held, Consumer.carried])
      (fun _ _ => ⟨rfl, rfl⟩) nofun
  | assigns position =>
    exact ordered.stays rfl rfl (by simp [onTheWay, position, Consumer.carried])
      (fun other way => ⟨rfl, size_of_spare placed (by simp [position, Consumer.spare]) way⟩)
      nofun
  | leaves position nothing stopped =>
    exact ordered.stays rfl rfl (by simp [onTheWay, position, Consumer.carried])
      (fun _ _ => ⟨rfl, rfl⟩) nofun
  | returns position =>
    exact ordered.stays rfl rfl (by simp [onTheWay, position, Consumer.carried])
      (fun other way => ⟨rfl, size_of_spare placed (by simp [position, Consumer.spare]) way⟩)
      nofun
  | returnsEmpty position =>
    exact ordered.stays rfl rfl (by simp [onTheWay, position, Consumer.carried])
      (fun _ _ => ⟨rfl, rfl⟩) nofun
  | wakes | joinsProducer | stopsQueue | joinsConsumer | stopsPool =>
    exact ordered.stays rfl rfl rfl (fun _ _ => ⟨rfl, rfl⟩) (fun _ is => is)

theorem Sound.moves (sound : Sound demo) (moves : Moves demo after) : Sound after :=
  ⟨sound.placed.moves moves, sound.ordered.moves sound.placed moves, sound.staged.moves moves⟩

theorem start_sound (data : Fin blockCount → List UInt8)
    (sized : ∀ buffer, (data buffer).length = blockSize) : Sound (start data sized) where
  placed := ⟨by simp [start, Demo.places, Producer.held, Consumer.held], by simp [start],
    Nat.zero_le _, rfl⟩
  ordered := ⟨rfl, nofun, nofun, nofun⟩
  staged := ⟨rfl, rfl, rfl, nofun, nofun, nofun, fun left => by
    obtain ended | ⟨buf, leaving⟩ := left
    · cases ended
    · cases leaving⟩

end Steps

/-! ## Over every interleaving -/

theorem run_sound (data : Fin blockCount → List UInt8)
    (sized : ∀ buffer, (data buffer).length = blockSize) (actors : List Actor) :
    Sound (run next actors (start data sized)) :=
  run_keeps (attempt_keeps fun _ _ _ sound stepped => sound.moves (step_moves stepped)) actors _
    (start_sound data sized)

end Demo

end Places

end PictureReconstruct.PoolDemo
