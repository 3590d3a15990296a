import PictureReconstruct.Common.Disk
import PictureReconstruct.Common.RawFrame
import PictureReconstruct.Library.Procedure
import PictureReconstruct.Protocol.ProtocolV2
import PictureReconstruct.Protocol.RawFrameProtocol

/-! # `TcpClient` and what is outside of it

`Net` is the connection of a `TcpClient` with the history of the run; `Environment` decides
everything the code does not: which system calls fail, how `send` and `recv` cut the stream,
when the process is killed, and which of the frames it has read in full the receiver stores.
Its choices may depend on the whole history, so a statement about every environment is one
about every run.

* `wp_systemCall`, `wp_connectToServer`, `wp_sendAll`, `wp_recvAll`: what each operation can
  do, as rules.
-/

namespace PictureReconstruct

open Library.Procedure ProtocolV2

/-- What one `sendAll` call is given. -/
inductive Packet
  | hello (taskId : UInt64)
  | resumeRequest (taskId : UInt64)
  | frameHeader (header : RawFrameHeader)
  | chunkHeader (header : RawChunkHeader)
  | payload (bytes : List UInt8)
deriving DecidableEq

/-- The bytes of a packet on the wire. -/
def Packet.bytes : Packet → List UInt8
  | hello taskId => makeHelloMessage taskId
  | resumeRequest taskId => makeResumeRequestMessage taskId
  | frameHeader header => RawFrameProtocol.buildFrameHeader header
  | chunkHeader header => RawFrameProtocol.buildChunkHeader header
  | payload bytes => bytes

/-- What happened so far, seen from outside of the process.  Connections are numbered in the
    order in which they were established. -/
inductive Event
  | connected (connection : Nat)
  /-- `sendAll` handed over `packet` and `accepted` of its bytes were taken by `send`. -/
  | sent (connection : Nat) (packet : Packet) (accepted : Nat)
  /-- `recvAll` obtained `bytes`, all it asked for or fewer. -/
  | received (connection : Nat) (bytes : List UInt8)
  /-- `RawFrameSender::sendFrame` came to its end.  `send` took the bytes that `sendFrame_carries`
      names, which are all of `frame` up to `2 ^ 32 - 1` fragments (`fragments_tile_iff`). -/
  | frameSent (connection : Nat) (frame : RawFrame)
  /-- The receiver stored `frame`. -/
  | stored (frame : RawFrame)
  /-- `SenderSpool::persist` returned `true` inside `ResumeSession::sendFrame`. -/
  | persisted (frame : RawFrame)
  /-- `ResumeSession::requestResume` accepted `reply`. -/
  | resumed (connection : Nat) (reply : ResumeReply)
deriving DecidableEq

/-- The connection state of a `TcpClient` and the history of the run.  `connection` is the
    number of the current connection, or of the last one while not connected. -/
structure Net where
  connected : Bool := false
  connection : Nat := 0
  /-- system calls made so far -/
  clock : Nat := 0
  history : List Event := []
deriving DecidableEq

/-- Everything the code does not decide. -/
structure Environment where
  /-- the process is killed instead of making the next system call -/
  dies : Net → Bool
  /-- the frames the receiver stores before the next system call -/
  stores : Net → List RawFrame
  /-- a connection is established -/
  connect : Net → Bool
  /-- bytes taken by `send` when `sent` bytes of `packet` were taken before; 0 for a failure -/
  send : (net : Net) → (packet : Packet) → (sent : Nat) → Nat
  /-- bytes given by `recv` when `received` bytes came before; none for a failure -/
  recv : (net : Net) → (received : Nat) → List UInt8
  /-- the fate of the next file written to the spool -/
  disk : Net → DiskFault

namespace Net

def record (net : Net) (event : Event) : Net := { net with history := net.history ++ [event] }

/-- `sendFrame` came to its end on `frame` on some connection. -/
def carried (net : Net) (frame : RawFrame) : Bool :=
  net.history.any fun
    | .frameSent _ sent => sent = frame
    | _ => false

/-- The receiver makes progress.  Only a frame that was sent in full can be read in full and
    stored. -/
def tick (env : Environment) (net : Net) : Net :=
  { net with
    clock := net.clock + 1
    history := net.history ++ ((env.stores net).filter net.carried).map .stored }

end Net

/-- The bytes that reached the peer of `connection`. -/
def Event.bytesOn (connection : Nat) : Event → List UInt8
  | .sent c packet accepted => if c = connection then packet.bytes.take accepted else []
  | _ => []

def bytesOn (connection : Nat) (history : List Event) : List UInt8 :=
  history.flatMap (Event.bytesOn connection)

@[simp] theorem bytesOn_append (connection : Nat) (before after : List Event) :
    bytesOn connection (before ++ after) =
      bytesOn connection before ++ bytesOn connection after := by
  simp [bytesOn]

/-- The frames that were sent in full, in order. -/
def framesSent (history : List Event) : List RawFrame :=
  history.filterMap fun
    | .frameSent _ frame => some frame
    | _ => none

@[simp] theorem framesSent_append (before after : List Event) :
    framesSent (before ++ after) = framesSent before ++ framesSent after := by
  simp [framesSent]

namespace TcpClient

variable (env : Environment)

/-- The receiver makes progress, then the process makes a system call or is killed. -/
def systemCall : EStateM Abort Net Unit := do
  modify fun net => net.tick env
  -- what the receiver stored stays stored when the process dies
  if env.dies (← get) then throw .died

/-- `connectToServer`; a failure of `socket`, `inet_pton` or `connect` is one failure here. -/
def connectToServer : EStateM Abort Net Bool := do
  if (← get).connected then return true
  systemCall env
  if !env.connect (← get) then return false
  modify fun net =>
    { net with connected := true, connection := net.connection + 1 }.record
      (.connected (net.connection + 1))
  return true

def closeConnection : EStateM Abort Net Unit :=
  modify fun net => { net with connected := false }

def isConnected : EStateM Abort Net Bool := do
  return (← get).connected

/-- The loop of `sendAll` from `sent` on: the bytes taken when it ends.  Each round takes a
    byte or ends the loop, so `size` rounds are enough. -/
def sendLoop (send : Nat → Nat) (size : Nat) : Nat → Nat → Nat
  | 0, sent => sent
  | rounds + 1, sent =>
    if sent < size then
      let n := min (send sent) (size - sent)
      -- 0 stands for a `send` that failed
      if n = 0 then sent else sendLoop send size rounds (sent + n)
    else sent

/-- `sendAll`. -/
def sendAll (packet : Packet) : EStateM Abort Net Bool := do
  if !(← get).connected then return false
  systemCall env
  let net ← get
  let sent := sendLoop (env.send net packet) packet.bytes.length packet.bytes.length 0
  -- the bytes taken are on their way, whether or not they were all
  modify fun net => net.record (.sent net.connection packet sent)
  if sent < packet.bytes.length then
    closeConnection
    return false
  return true

/-- The loop of `recvAll` with the bytes `received` so far. -/
def recvLoop (recv : Nat → List UInt8) (size : Nat) : Nat → List UInt8 → List UInt8
  | 0, received => received
  | rounds + 1, received =>
    if received.length < size then
      let chunk := (recv received.length).take (size - received.length)
      -- nothing stands for a `recv` that failed or a peer that is gone
      if chunk.isEmpty then received else recvLoop recv size rounds (received ++ chunk)
    else received

/-- `recvAll`: the bytes received, or `none` for `false`. -/
def recvAll (size : Nat) : EStateM Abort Net (Option (List UInt8)) := do
  if !(← get).connected then return none
  systemCall env
  let net ← get
  let received := recvLoop (env.recv net) size size []
  modify fun net => net.record (.received net.connection received)
  if received.length < size then
    closeConnection
    return none
  return some received

/-! ## What each operation can do -/

/-- `after` is `before` one system call later: nothing but the clock moved, and the receiver
    stored frames it had read in full. -/
structure Ticks (before after : Net) : Prop where
  connected : after.connected = before.connected
  connection : after.connection = before.connection
  clock : after.clock = before.clock + 1
  history : ∃ frames : List RawFrame, (∀ frame ∈ frames, before.carried frame) ∧
    after.history = before.history ++ frames.map .stored

theorem Ticks.tick (net : Net) : Ticks net (net.tick env) :=
  ⟨rfl, rfl, rfl, _, by simp, rfl⟩

theorem wp_systemCall_iff {net : Net} {Q : Unit → Net → Prop} {E : Abort → Net → Prop} :
    wp (systemCall env) Q E net ↔
      (env.dies (net.tick env) = true → E .died (net.tick env)) ∧
      (env.dies (net.tick env) = false → Q () (net.tick env)) := by
  simp only [systemCall, wp_bind, wp_modify, wp_get, wp_ite, wp_throw, wp_pure, Bool.not_eq_true]

theorem wp_systemCall {net : Net} {Q : Unit → Net → Prop} {E : Abort → Net → Prop}
    (alive : ∀ after, Ticks net after → env.dies after = false → Q () after)
    (dead : ∀ after, Ticks net after → env.dies after = true → E .died after) :
    wp (systemCall env) Q E net :=
  (wp_systemCall_iff env).mpr ⟨dead _ (.tick env net), alive _ (.tick env net)⟩

theorem wp_connectToServer {net : Net} {Q : Bool → Net → Prop} {E : Abort → Net → Prop}
    (already : net.connected = true → Q true net)
    (dead : ∀ after, net.connected = false → Ticks net after → env.dies after = true →
      E .died after)
    (refused : ∀ after, net.connected = false → Ticks net after → env.connect after = false →
      Q false after)
    (established : ∀ after, net.connected = false → Ticks net after → env.dies after = false →
      Q true ({ after with connected := true, connection := net.connection + 1 }.record
        (.connected (net.connection + 1)))) :
    wp (connectToServer env) Q E net := by
  simp only [connectToServer, wp_bind, wp_get, wp_ite, wp_pure]
  refine ⟨already, fun idle => ?_⟩
  rw [Bool.not_eq_true] at idle
  refine wp_systemCall env (fun after ticks lives => ?_) (fun after ticks dies =>
    dead after idle ticks dies)
  simp only [wp_bind, wp_get, wp_ite, wp_pure, wp_modify, Bool.not_eq_true', Bool.not_eq_false]
  refine ⟨refused after idle ticks, fun _ => ?_⟩
  simpa only [ticks.connection] using established after idle ticks lives

/-- The loop ends with everything taken, or at a `send` that fails. -/
theorem sendLoop_spec (send : Nat → Nat) (size rounds sent : Nat) (bound : sent ≤ size)
    (enough : size ≤ sent + rounds) :
    sendLoop send size rounds sent = size ∨
      (sendLoop send size rounds sent < size ∧ send (sendLoop send size rounds sent) = 0) := by
  induction rounds generalizing sent with
  | zero => exact .inl (by simp only [sendLoop]; omega)
  | succ rounds ih =>
    rw [sendLoop]
    split
    · next unfinished =>
      dsimp only
      split
      · next failed => exact .inr ⟨unfinished, by omega⟩
      · exact ih (sent + min (send sent) (size - sent)) (by omega) (by omega)
    · exact .inl (by omega)

theorem wp_sendAll {packet : Packet} {net : Net} {Q : Bool → Net → Prop} {E : Abort → Net → Prop}
    (closed : net.connected = false → Q false net)
    (dead : ∀ after, net.connected = true → Ticks net after → env.dies after = true →
      E .died after)
    (broken : ∀ after accepted, net.connected = true → Ticks net after →
      accepted < packet.bytes.length → env.send after packet accepted = 0 →
      Q false { after.record (.sent net.connection packet accepted) with connected := false })
    (whole : ∀ after, net.connected = true → Ticks net after → env.dies after = false →
      Q true (after.record (.sent net.connection packet packet.bytes.length))) :
    wp (sendAll env packet) Q E net := by
  simp only [sendAll, wp_bind, wp_get, wp_ite, wp_pure, Bool.not_eq_true', Bool.not_eq_false]
  refine ⟨closed, fun live => ?_⟩
  refine wp_systemCall env (fun after ticks lives => ?_) (fun after ticks dies =>
    dead after live ticks dies)
  simp only [wp_bind, wp_get, wp_modify, wp_ite, wp_pure, closeConnection, ticks.connection]
  have ended := sendLoop_spec (env.send after packet) packet.bytes.length packet.bytes.length 0
    (Nat.zero_le _) (by omega)
  constructor
  · intro short
    -- the loop ended early, so at a `send` that failed
    obtain same | ⟨_, failed⟩ := ended
    · omega
    · exact broken after _ live ticks short failed
  · intro long
    obtain same | ⟨short, _⟩ := ended
    · simpa only [same] using whole after live ticks lives
    · exact absurd short long

theorem recvLoop_length (recv : Nat → List UInt8) (size rounds : Nat) (received : List UInt8)
    (bound : received.length ≤ size) : (recvLoop recv size rounds received).length ≤ size := by
  induction rounds generalizing received with
  | zero => exact bound
  | succ rounds ih =>
    rw [recvLoop]
    split
    · dsimp only
      split
      · exact bound
      · apply ih
        simp only [List.length_append, List.length_take]
        omega
    · exact bound

/-- When every `recv` hands over the next bytes of `stream`, at least one, the loop receives
    it all. -/
theorem recvLoop_delivers (recv : Nat → List UInt8) (stream : List UInt8) (rounds : Nat)
    (received : List UInt8) (next : ∀ n, n < stream.length → recv n ≠ [] ∧ recv n <+: stream.drop n)
    (start : received <+: stream) (enough : stream.length ≤ received.length + rounds) :
    recvLoop recv stream.length rounds received = stream := by
  induction rounds generalizing received with
  | zero => exact start.eq_of_length_le (by omega)
  | succ rounds ih =>
    rw [recvLoop]
    split
    · next unfinished =>
      obtain ⟨nonempty, isNext⟩ := next received.length unfinished
      obtain ⟨rest, whole⟩ := start
      have left : stream.drop received.length = rest := by simp [← whole]
      rw [left] at isNext
      have fits : (recv received.length).length ≤ stream.length - received.length := by
        have := isNext.length_le
        rw [← whole, List.length_append]
        omega
      have positive : 0 < (recv received.length).length := List.length_pos_iff.mpr nonempty
      -- `recv` hands over no more than there is room for
      have chunk : (recv received.length).take (stream.length - received.length) =
          recv received.length := List.take_of_length_le fits
      simp only [chunk, List.isEmpty_iff, nonempty, if_false]
      refine ih _ ?_ (by simp only [List.length_append]; omega)
      rw [← whole]
      exact List.prefix_append_right_inj received |>.mpr isNext
    · exact start.eq_of_length_le (by omega)

theorem wp_recvAll {size : Nat} {net : Net} {Q : Option (List UInt8) → Net → Prop}
    {E : Abort → Net → Prop}
    (closed : net.connected = false → Q none net)
    (dead : ∀ after, net.connected = true → Ticks net after → env.dies after = true →
      E .died after)
    (ended : ∀ after bytes, net.connected = true → Ticks net after →
      bytes = recvLoop (env.recv after) size size [] →
      (bytes.length < size →
        Q none { after.record (.received net.connection bytes) with connected := false }) ∧
      (bytes.length = size → Q (some bytes) (after.record (.received net.connection bytes)))) :
    wp (recvAll env size) Q E net := by
  simp only [recvAll, wp_bind, wp_get, wp_ite, wp_pure, Bool.not_eq_true', Bool.not_eq_false]
  refine ⟨closed, fun live => ?_⟩
  refine wp_systemCall env (fun after ticks _ => ?_) (fun after ticks dies =>
    dead after live ticks dies)
  obtain ⟨short, whole⟩ := ended after _ live ticks rfl
  have bound := recvLoop_length (env.recv after) size size [] (Nat.zero_le _)
  simp only [wp_bind, wp_get, wp_modify, wp_ite, wp_pure, closeConnection, ticks.connection]
  exact ⟨short, fun long => whole (by omega)⟩

end TcpClient

end PictureReconstruct
