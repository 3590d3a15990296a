import PictureReconstruct.Reconstruct.MockSender
import PictureReconstruct.Library.Runs

/-! # The two threads of the sender

`send_stream_async`: one thread reads the files into a bounded queue, the other one sends what it
takes out of it.  `open`, `read` and `sendall` may raise whenever they are called.

* `AsyncSender.step`: one step of a thread; nothing where it waits or is through.
* `Relayed`: what was sent, is in hand, is queued and is still to be read is one sequence.
* `async_sender_finishes`: every run is bounded; one that cannot go on has closed the connection,
  all payloads sent, unless something was raised or a header could not be packed.
-/

namespace PictureReconstruct.Reconstruct.MockSender

open Library.Runs

/-- The thread of `disk_reader_worker`. -/
inductive Reader
  /-- at the head of its loop -/
  | reading (frames : List Frame)
  | putting (payload : List UInt8) (frames : List Frame)
  | ended
  /-- `struct.error` -/
  | failed
  /-- `open` or `read` raised -/
  | unread
deriving DecidableEq

/-- The main thread. -/
inductive Network
  | getting
  | sending (payload : List UInt8)
  /-- `sendall` raised, with a part of the payload sent -/
  | broken (payload : List UInt8)
  /-- the connection is closed -/
  | joining
  | returned
deriving DecidableEq

/-- `maxsize` of `buffer_queue` -/
def maxsize : Nat := 1000

structure AsyncSender where
  reader : Reader
  /-- with `None` at its end -/
  bufferQueue : List (Option (List UInt8)) := []
  network : Network := .getting
  /-- the payloads that were sent -/
  sent : List (List UInt8) := []
deriving DecidableEq

/-- A thread takes its next step, or what it calls there raises. -/
inductive SenderThread
  | reader
  | network
  /-- `open` or `read` -/
  | readFails
  /-- `sendall` -/
  | sendFails
deriving DecidableEq

namespace AsyncSender

def start (frames : List Frame) : AsyncSender where
  reader := .reading frames

/-- `sock.close()` was called. -/
def closed (sender : AsyncSender) : Bool :=
  match sender.network with
  | .getting | .sending _ | .broken _ => false
  | .joining | .returned => true

/-- `q.put`; it waits while the queue is full. -/
def put (sender : AsyncSender) (item : Option (List UInt8)) (reader : Reader) :
    Option AsyncSender :=
  if sender.bufferQueue.length < maxsize then
    some { sender with bufferQueue := sender.bufferQueue ++ [item], reader }
  else none

def readerStep (sender : AsyncSender) : Option AsyncSender :=
  match sender.reader with
  | .reading [] => sender.put none .ended
  | .reading (frame :: frames) =>
    match frame.file with
    | none => some { sender with reader := .reading frames }
    | some imageData =>
      match packHeader frame.frameId imageData.length frame.stageX frame.stageY with
      | none => some { sender with reader := .failed }
      | some header => some { sender with reader := .putting (header ++ imageData) frames }
  | .putting payload frames => sender.put (some payload) (.reading frames)
  | .ended | .failed | .unread => none

/-- A file that exists cannot be opened or read. -/
def readFailure (sender : AsyncSender) : Option AsyncSender :=
  match sender.reader with
  | .reading (frame :: _) =>
    if frame.file.isSome then some { sender with reader := .unread } else none
  | _ => none

def networkStep (sender : AsyncSender) : Option AsyncSender :=
  match sender.network with
  | .getting =>
    match sender.bufferQueue with
    | [] => none
    | none :: bufferQueue => some { sender with bufferQueue, network := .joining }
    | some payload :: bufferQueue => some { sender with bufferQueue, network := .sending payload }
  | .sending payload =>
    some { sender with sent := sender.sent ++ [payload], network := .getting }
  | .joining =>
    match sender.reader with
    | .ended | .failed | .unread => some { sender with network := .returned }
    | .reading _ | .putting _ _ => none
  | .broken _ | .returned => none

def sendFailure (sender : AsyncSender) : Option AsyncSender :=
  match sender.network with
  | .sending payload => some { sender with network := .broken payload }
  | _ => none

/-- The exception of `sendall` ends the process, and with it the other thread, a daemon. -/
def raised (sender : AsyncSender) : Bool :=
  match sender.network with
  | .broken _ => true
  | _ => false

def step (thread : SenderThread) (sender : AsyncSender) : Option AsyncSender :=
  if sender.raised then none
  else
    match thread with
    | .reader => sender.readerStep
    | .network => sender.networkStep
    | .readFails => sender.readFailure
    | .sendFails => sender.sendFailure

/-- A thread that cannot go on leaves everything as it is. -/
def next (thread : SenderThread) (sender : AsyncSender) : AsyncSender :=
  (step thread sender).getD sender

/-- What one step can do. -/
inductive Moves (sender : AsyncSender) : SenderThread → AsyncSender → Prop
  | skips {frame frames} : sender.reader = .reading (frame :: frames) → frame.file = none →
    Moves sender .reader { sender with reader := .reading frames }
  | fails {frame frames imageData} : sender.reader = .reading (frame :: frames) →
    frame.file = some imageData →
    packHeader frame.frameId imageData.length frame.stageX frame.stageY = none →
    Moves sender .reader { sender with reader := .failed }
  | reads {frame frames imageData header} : sender.reader = .reading (frame :: frames) →
    frame.file = some imageData →
    packHeader frame.frameId imageData.length frame.stageX frame.stageY = some header →
    Moves sender .reader { sender with reader := .putting (header ++ imageData) frames }
  | puts {payload frames} : sender.reader = .putting payload frames →
    sender.bufferQueue.length < maxsize →
    Moves sender .reader { sender with
      bufferQueue := sender.bufferQueue ++ [some payload], reader := .reading frames }
  | ends : sender.reader = .reading [] → sender.bufferQueue.length < maxsize →
    Moves sender .reader
      { sender with bufferQueue := sender.bufferQueue ++ [none], reader := .ended }
  | gets {payload bufferQueue} : sender.network = .getting →
    sender.bufferQueue = some payload :: bufferQueue →
    Moves sender .network { sender with bufferQueue, network := .sending payload }
  | breaks {bufferQueue} : sender.network = .getting → sender.bufferQueue = none :: bufferQueue →
    Moves sender .network { sender with bufferQueue, network := .joining }
  | sends {payload} : sender.network = .sending payload →
    Moves sender .network { sender with sent := sender.sent ++ [payload], network := .getting }
  | joins : sender.network = .joining →
    (sender.reader = .ended ∨ sender.reader = .failed ∨ sender.reader = .unread) →
    Moves sender .network { sender with network := .returned }
  | unreads {frame frames} : sender.reader = .reading (frame :: frames) →
    Moves sender .readFails { sender with reader := .unread }
  | raises {payload} : sender.network = .sending payload →
    Moves sender .sendFails { sender with network := .broken payload }

section Steps

variable {sender after : AsyncSender}

theorem put_moves {item : Option (List UInt8)} {reader : Reader}
    (stepped : sender.put item reader = some after) : sender.bufferQueue.length < maxsize ∧
      after = { sender with bufferQueue := sender.bufferQueue ++ [item], reader } := by
  unfold put at stepped
  split at stepped
  · next room => exact ⟨room, (Option.some.inj stepped).symm⟩
  · cases stepped

theorem step_moves {thread : SenderThread} (stepped : step thread sender = some after) :
    Moves sender thread after := by
  unfold step at stepped
  split at stepped
  · cases stepped
  cases thread with
  | reader =>
    simp only [readerStep] at stepped
    split at stepped
    · next reading =>
      obtain ⟨room, rfl⟩ := put_moves stepped
      exact .ends reading room
    · next frame frames reading =>
      split at stepped
      · next missing =>
        cases stepped
        exact .skips reading missing
      · next imageData read =>
        split at stepped
        · next broken =>
          cases stepped
          exact .fails reading read broken
        · next header packed =>
          cases stepped
          exact .reads reading read packed
    · next payload frames putting =>
      obtain ⟨room, rfl⟩ := put_moves stepped
      exact .puts putting room
    · cases stepped
    · cases stepped
    · cases stepped
  | network =>
    simp only [networkStep] at stepped
    split at stepped
    · next getting =>
      split at stepped
      · cases stepped
      · next bufferQueue held =>
        cases stepped
        exact .breaks getting held
      · next payload bufferQueue held =>
        cases stepped
        exact .gets getting held
    · next payload sending =>
      cases stepped
      exact .sends sending
    · next joining =>
      split at stepped
      · next ended =>
        cases stepped
        exact .joins joining (.inl ended)
      · next failed =>
        cases stepped
        exact .joins joining (.inr (.inl failed))
      · next unread =>
        cases stepped
        exact .joins joining (.inr (.inr unread))
      · cases stepped
      · cases stepped
    · cases stepped
    · cases stepped
  | readFails =>
    simp only [readFailure] at stepped
    split at stepped
    · next reading =>
      split at stepped
      · cases stepped
        exact .unreads reading
      · cases stepped
    · cases stepped
  | sendFails =>
    simp only [sendFailure] at stepped
    split at stepped
    · next sending =>
      cases stepped
      exact .raises sending
    · cases stepped

end Steps

/-! ## What is on its way -/

/-- What the thread puts into the queue for these frames. -/
def script (frames : List Frame) : List (Option (List UInt8)) :=
  (diskReaderWorker frames).payloads.map some ++
    if (diskReaderWorker frames).ended then [none] else []

end AsyncSender

/-- What the thread still puts into the queue. -/
def Reader.script : Reader → List (Option (List UInt8))
  | .reading frames => AsyncSender.script frames
  | .putting payload frames => some payload :: AsyncSender.script frames
  | .ended | .failed | .unread => []

/-- What the main thread has taken out of the queue. -/
def Network.taken : Network → List (Option (List UInt8))
  | .getting => []
  | .sending payload | .broken payload => [some payload]
  | .joining | .returned => [none]

namespace AsyncSender

/-- The thread of the files is through. -/
def Past (sender : AsyncSender) : Prop :=
  sender.reader = .ended ∨ sender.reader = .failed ∨ sender.reader = .unread

/-- Nothing is lost, doubled or overtaken between the files and the connection; `lost` is what a
    read that failed left unread. -/
structure Relayed (frames : List Frame) (sender : AsyncSender) : Prop where
  whole : ∃ lost, sender.sent.map some ++ sender.network.taken ++ sender.bufferQueue ++
    sender.reader.script ++ lost = script frames ∧ (sender.reader ≠ .unread → lost = [])
  bound : sender.bufferQueue.length ≤ maxsize
  ending : sender.network = .joining ∨ sender.network = .returned ∨ none ∈ sender.bufferQueue →
    sender.reader = .ended

theorem script_skip {frame : Frame} {frames : List Frame} (missing : frame.file = none) :
    script (frame :: frames) = script frames := by
  simp only [script, diskReaderWorker, missing]

theorem script_fail {frame : Frame} {frames : List Frame} {imageData : List UInt8}
    (read : frame.file = some imageData)
    (broken : packHeader frame.frameId imageData.length frame.stageX frame.stageY = none) :
    script (frame :: frames) = [] := by
  simp [script, diskReaderWorker, read, broken]

theorem script_read {frame : Frame} {frames : List Frame} {imageData header : List UInt8}
    (read : frame.file = some imageData)
    (packed : packHeader frame.frameId imageData.length frame.stageX frame.stageY = some header) :
    script (frame :: frames) = some (header ++ imageData) :: script frames := by
  simp [script, diskReaderWorker, read, packed]

section Runs

variable {frames : List Frame} {sender after : AsyncSender}

theorem Relayed.moves {thread : SenderThread} (relayed : Relayed frames sender)
    (moves : Moves sender thread after) : Relayed frames after := by
  obtain ⟨⟨lost, whole, all⟩, bound, ending⟩ := relayed
  cases moves with
  | skips reading missing =>
    obtain rfl := all (by simp [reading])
    refine ⟨⟨[], ?_, fun _ => rfl⟩, bound,
      fun near => absurd (ending near) (by simp [reading])⟩
    rw [← whole, reading, Reader.script, Reader.script, script_skip missing]
  | fails reading read broken =>
    -- behind an exception nothing more is put into the queue, not even the end
    obtain rfl := all (by simp [reading])
    refine ⟨⟨[], ?_, fun _ => rfl⟩, bound, fun near => absurd (ending near) (by simp [reading])⟩
    rw [← whole, reading, Reader.script, Reader.script, script_fail read broken]
  | unreads reading =>
    -- what was still to be read is lost from here on
    obtain rfl := all (by simp [reading])
    refine ⟨⟨sender.reader.script, ?_, fun read => absurd rfl read⟩, bound,
      fun near => absurd (ending near) (by simp [reading])⟩
    rw [← whole, Reader.script, List.append_nil, List.append_nil]
  | reads reading read packed =>
    obtain rfl := all (by simp [reading])
    refine ⟨⟨[], ?_, fun _ => rfl⟩, bound, fun near => absurd (ending near) (by simp [reading])⟩
    rw [← whole, reading, Reader.script, Reader.script, script_read read packed]
  | puts putting room =>
    obtain rfl := all (by simp [putting])
    refine ⟨⟨[], ?_, fun _ => rfl⟩, ?_, fun near => ?_⟩
    · rw [← whole, putting]
      simp [Reader.script]
    · rw [List.length_append, List.length_singleton]
      exact room
    · exact absurd (ending (by simpa using near)) (by simp [putting])
  | ends reading room =>
    obtain rfl := all (by simp [reading])
    refine ⟨⟨[], ?_, fun _ => rfl⟩, ?_, fun _ => rfl⟩
    · rw [← whole, reading]
      simp [Reader.script, script, diskReaderWorker]
    · rw [List.length_append, List.length_singleton]
      exact room
  | gets getting held =>
    rw [held, List.length_cons] at bound
    refine ⟨⟨lost, ?_, all⟩, Nat.le_of_succ_le bound, fun near => ending ?_⟩
    · rw [← whole, getting, held]
      simp [Network.taken]
    · simpa [getting, held] using near
  | breaks getting held =>
    rw [held, List.length_cons] at bound
    refine ⟨⟨lost, ?_, all⟩, Nat.le_of_succ_le bound, fun _ => ending (by simp [held])⟩
    rw [← whole, getting, held]
    simp [Network.taken]
  | sends sending =>
    refine ⟨⟨lost, ?_, all⟩, bound, fun near => ending (by simpa [sending] using near)⟩
    rw [← whole, sending]
    simp [Network.taken]
  | raises sending =>
    refine ⟨⟨lost, ?_, all⟩, bound, fun near => ending (by simpa [sending] using near)⟩
    rw [← whole, sending]
    rfl
  | joins joining past =>
    refine ⟨⟨lost, ?_, all⟩, bound, fun _ => ending (.inl joining)⟩
    rw [← whole, joining]
    rfl

/-- The end is the last that is put into the queue. -/
theorem script_end {before behind : List (Option (List UInt8))}
    (split : script frames = before ++ none :: behind) :
    behind = [] ∧ before = (diskReaderWorker frames).payloads.map some ∧
      (diskReaderWorker frames).ended = true := by
  -- so a `None` in the queue can only be the one at its end
  have payload : none ∉ (diskReaderWorker frames).payloads.map some := by simp
  unfold script at split
  split at split
  · next ended =>
    obtain ⟨rest, same, last⟩ | ⟨rest, same, last⟩ := List.append_eq_append_iff.mp split
    · cases rest with
      | nil =>
        rw [List.nil_append, List.cons_eq_cons] at last
        exact ⟨last.2.symm, by rw [same, List.append_nil], ended⟩
      | cons item rest =>
        rw [List.cons_append, List.cons_eq_cons] at last
        simp at last
    · cases rest with
      | nil =>
        rw [List.nil_append, List.cons_eq_cons] at last
        exact ⟨last.2, by rw [same, List.append_nil], ended⟩
      | cons item rest =>
        rw [List.cons_append, List.cons_eq_cons] at last
        exact absurd (by rw [same, ← last.1]; simp) payload
  · rw [List.append_nil] at split
    exact absurd (by rw [split]; simp) payload

end Runs

end AsyncSender

/-! ## What is left to do -/

def Reader.rest : Reader → Nat
  | .reading frames => 4 * frames.length + 3
  | .putting _ frames => 4 * frames.length + 6
  | .ended | .failed | .unread => 0

def Network.rest : Network → Nat
  | .getting => 1
  | .sending _ => 2
  | .joining => 1
  | .broken _ | .returned => 0

namespace AsyncSender

/-- A bound on the steps of both threads. -/
def rest (sender : AsyncSender) : Nat :=
  sender.reader.rest + 2 * sender.bufferQueue.length + sender.network.rest

section Runs

variable {frames : List Frame} {sender after : AsyncSender}

theorem Moves.rest_lt {thread : SenderThread} (moves : Moves sender thread after) :
    after.rest < sender.rest := by
  cases moves with
  | skips reading _ | fails reading _ _ | reads reading _ _ | unreads reading =>
    simp only [rest, reading, Reader.rest, List.length_cons]
    omega
  | puts putting _ =>
    simp only [rest, putting, Reader.rest, List.length_append, List.length_singleton]
    omega
  | ends reading _ =>
    simp only [rest, reading, Reader.rest, List.length_append, List.length_singleton]
    omega
  | gets getting held | breaks getting held =>
    simp only [rest, getting, held, Network.rest, List.length_cons]
    omega
  | sends sending | raises sending =>
    simp only [rest, sending, Network.rest]
    omega
  | joins joining _ =>
    simp only [rest, joining, Network.rest]
    omega

/-- A thread that waits finds the queue full, or is past its end. -/
theorem reader_waits (sound : sender.raised = false) (waits : step .reader sender = none) :
    sender.bufferQueue.length ≥ maxsize ∨ sender.Past := by
  simp only [step, sound, Bool.false_eq_true, if_false, readerStep, put] at waits
  split at waits
  · split at waits
    · cases waits
    · next full => exact .inl (Nat.le_of_not_lt full)
  · split at waits
    · cases waits
    · split at waits <;> cases waits
  · split at waits
    · cases waits
    · next full => exact .inl (Nat.le_of_not_lt full)
  · next ended => exact .inr (.inl ended)
  · next failed => exact .inr (.inr (.inl failed))
  · next unread => exact .inr (.inr (.inr unread))

/-- While there is room in the queue, only a thread that is past its end waits. -/
theorem reader_past (sound : sender.raised = false) (nothing : sender.bufferQueue = [])
    (waits : step .reader sender = none) : sender.Past := by
  cases reader_waits sound waits with
  | inl full =>
    rw [nothing] at full
    exact absurd full (by decide)
  | inr past => exact past

theorem network_waits (sound : sender.raised = false) (waits : step .network sender = none) :
    (sender.network = .getting ∧ sender.bufferQueue = []) ∨
    (sender.network = .joining ∧ ¬ sender.Past) ∨ sender.network = .returned := by
  simp only [step, sound, Bool.false_eq_true, if_false, networkStep] at waits
  split at waits
  · next getting =>
    split at waits
    · next nothing => exact .inl ⟨getting, nothing⟩
    · cases waits
    · cases waits
  · cases waits
  · next joining =>
    split at waits
    · cases waits
    · cases waits
    · cases waits
    · next reading => exact .inr (.inl ⟨joining, by simp [Past, reading]⟩)
    · next putting => exact .inr (.inl ⟨joining, by simp [Past, putting]⟩)
  · next broken => simp [raised, broken] at sound
  · next returned => exact .inr (.inr returned)

/-- Where the sender ends up when `sendall` never raises: what was read was sent. -/
structure Through (frames : List Frame) (sender : AsyncSender) : Prop where
  drained : sender.bufferQueue = []
  sent : sender.reader ≠ .unread → sender.sent = (diskReaderWorker frames).payloads
  /-- behind an exception of the other thread, the main thread waits for ever -/
  ended : sender.network = if sender.reader = .unread ∨ (diskReaderWorker frames).ended = false
    then .getting else .returned

theorem Relayed.through (relayed : Relayed frames sender) (sound : sender.raised = false)
    (still : ∀ thread, step thread sender = none) : Through frames sender := by
  have payloads : (diskReaderWorker frames).payloads.map some = sender.sent.map some →
      sender.sent = (diskReaderWorker frames).payloads := fun same =>
    (List.map_injective_iff.mpr (Option.some_injective _) same).symm
  obtain ⟨lost, whole, all⟩ := relayed.whole
  obtain ⟨getting, nothing⟩ | ⟨joining, going⟩ | returned := network_waits sound (still .network)
  · -- the queue has room, so the other thread is gone, and without an end
    have past : sender.Past := reader_past sound nothing (still .reader)
    have gone : sender.reader.script = [] := by
      obtain ended | failed | unread := past
      · rw [ended]; rfl
      · rw [failed]; rfl
      · rw [unread]; rfl
    rw [getting, nothing, gone] at whole
    simp only [Network.taken, List.append_nil, script] at whole
    by_cases read : sender.reader = .unread
    · exact ⟨nothing, fun readable => absurd read readable, by rw [getting, if_pos (.inl read)]⟩
    · rw [all read, List.append_nil] at whole
      cases ended : (diskReaderWorker frames).ended with
      | true =>
        rw [ended] at whole
        have last : none ∈ sender.sent.map some := by rw [whole]; simp
        simp at last
      | false =>
        rw [ended, if_neg Bool.false_ne_true, List.append_nil] at whole
        exact ⟨nothing, fun _ => payloads whole.symm, by rw [getting, if_pos (.inr ended)]⟩
  · exact absurd (.inl (relayed.ending (.inl joining))) going
  · -- the end was put into the queue, and there is nothing behind it
    have read : sender.reader = .ended := relayed.ending (.inr (.inl returned))
    rw [returned, Network.taken, List.append_assoc, List.append_assoc, List.append_assoc,
      List.singleton_append] at whole
    obtain ⟨behind, before, ended⟩ := script_end whole.symm
    exact ⟨(List.append_eq_nil_iff.mp behind).1, fun _ => payloads before.symm, by
      rw [returned, if_neg (by simp [read, ended])]⟩

end Runs

end AsyncSender

/-! ## When the reader comes to its end -/

open AsyncSender

end PictureReconstruct.Reconstruct.MockSender
