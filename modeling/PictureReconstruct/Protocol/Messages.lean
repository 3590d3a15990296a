import PictureReconstruct.Library.Codecs
import PictureReconstruct.Protocol.ProtocolV2

/-! # `protocolv2`: all messages, both ways

The messages of a line and the checkpoint of a task, beside those of the resume handshake.

* `Message`: what the `make*Message` functions can build.
* `parseTaskCheckpoint_cases`, `parseResumeReply_cases`: what the two parsers accept.
* `messages_decode`: the parsers are inverse to their builders and take no message for another, and
  a stream of messages can be cut in one way only.
-/

namespace PictureReconstruct.ProtocolV2

open Library.Bytes Library.Codecs Wire

/-- `TaskCheckpoint`. -/
structure TaskCheckpoint where
  taskId : UInt64 := 0
  lineId : UInt32 := 0
  attemptId : UInt32 := 0
  lastFrameSeq : UInt64 := 0
  lastAckedFrameSeq : UInt64 := 0
  finalized : Bool := false
deriving DecidableEq

/-! ## Building -/

def makeLineBeginMessage (taskId : UInt64) (lineId attemptId : UInt32) (frameIndex : UInt64) :
    List UInt8 :=
  let body := appendUint64 [] taskId
  let body := appendUint32 body lineId
  let body := appendUint32 body attemptId
  makeMessage .lineBegin (appendUint64 body frameIndex)

def makeLineCommitMessage (taskId : UInt64) (lineId attemptId : UInt32) (lastFrameSeq : UInt64) :
    List UInt8 :=
  let body := appendUint64 [] taskId
  let body := appendUint32 body lineId
  let body := appendUint32 body attemptId
  makeMessage .lineCommit (appendUint64 body lastFrameSeq)

def makeLineAbortMessage (taskId : UInt64) (lineId attemptId : UInt32) : List UInt8 :=
  let body := appendUint64 [] taskId
  let body := appendUint32 body lineId
  makeMessage .lineAbort (appendUint32 body attemptId)

def makeTaskCheckpointMessage (checkpoint : TaskCheckpoint) : List UInt8 :=
  let body := appendUint64 [] checkpoint.taskId
  let body := appendUint32 body checkpoint.lineId
  let body := appendUint32 body checkpoint.attemptId
  let body := appendUint64 body checkpoint.lastFrameSeq
  let body := appendUint64 body checkpoint.lastAckedFrameSeq
  makeMessage .taskCheckpoint (appendUint32 body (if checkpoint.finalized then 1 else 0))

/-- A call of one of the `make*Message` functions. -/
inductive Message
  | hello (taskId : UInt64)
  | resumeRequest (taskId : UInt64)
  | resumeReply (taskId highestDurableFrameSeq : UInt64)
  | lineBegin (taskId : UInt64) (lineId attemptId : UInt32) (frameIndex : UInt64)
  | lineCommit (taskId : UInt64) (lineId attemptId : UInt32) (lastFrameSeq : UInt64)
  | lineAbort (taskId : UInt64) (lineId attemptId : UInt32)
  | taskCheckpoint (checkpoint : TaskCheckpoint)
deriving DecidableEq

namespace Message

def encode : Message → List UInt8
  | hello taskId => makeHelloMessage taskId
  | resumeRequest taskId => makeResumeRequestMessage taskId
  | resumeReply taskId highest => makeResumeReplyMessage taskId highest
  | lineBegin taskId lineId attemptId frameIndex =>
    makeLineBeginMessage taskId lineId attemptId frameIndex
  | lineCommit taskId lineId attemptId lastFrameSeq =>
    makeLineCommitMessage taskId lineId attemptId lastFrameSeq
  | lineAbort taskId lineId attemptId => makeLineAbortMessage taskId lineId attemptId
  | taskCheckpoint checkpoint => makeTaskCheckpointMessage checkpoint

def type : Message → MessageType
  | hello _ => .hello
  | resumeRequest _ => .resumeRequest
  | resumeReply _ _ => .resumeReply
  | lineBegin _ _ _ _ => .lineBegin
  | lineCommit _ _ _ _ => .lineCommit
  | lineAbort _ _ _ => .lineAbort
  | taskCheckpoint _ => .taskCheckpoint

/-- The fields behind the header. -/
def body : Message → List UInt8
  | hello taskId | resumeRequest taskId => bigEndian 8 taskId.toNat
  | resumeReply taskId highest => bigEndian 8 taskId.toNat ++ bigEndian 8 highest.toNat
  | lineBegin taskId lineId attemptId last | lineCommit taskId lineId attemptId last =>
    bigEndian 8 taskId.toNat ++ (bigEndian 4 lineId.toNat ++
      (bigEndian 4 attemptId.toNat ++ bigEndian 8 last.toNat))
  | lineAbort taskId lineId attemptId =>
    bigEndian 8 taskId.toNat ++ (bigEndian 4 lineId.toNat ++ bigEndian 4 attemptId.toNat)
  | taskCheckpoint checkpoint =>
    bigEndian 8 checkpoint.taskId.toNat ++ (bigEndian 4 checkpoint.lineId.toNat ++
      (bigEndian 4 checkpoint.attemptId.toNat ++ (bigEndian 8 checkpoint.lastFrameSeq.toNat ++
      (bigEndian 8 checkpoint.lastAckedFrameSeq.toNat ++
        bigEndian 4 (if checkpoint.finalized then 1 else 0 : UInt32).toNat))))

/-- Every message is a header with its fields. -/
theorem encode_eq (message : Message) :
    message.encode = makeMessage message.type message.body := by
  cases message <;>
    simp only [encode, type, body, makeHelloMessage, makeResumeRequestMessage,
      makeResumeReplyMessage, makeLineBeginMessage, makeLineCommitMessage, makeLineAbortMessage,
      makeTaskCheckpointMessage, appendUint32_eq, appendUint64_eq, List.nil_append,
      List.append_assoc]

theorem body_small (message : Message) : message.body.length ≤ 36 := by
  cases message <;> simp [body]

end Message

/-! ## Parsing a checkpoint -/

/-- The four bytes at `offset`, or-ed together without a test of the size. -/
def wordAt (data : List UInt8) (offset : Nat) : UInt32 :=
  ((data.getD offset 0).toUInt32 <<< 24) ||| ((data.getD (offset + 1) 0).toUInt32 <<< 16) |||
    ((data.getD (offset + 2) 0).toUInt32 <<< 8) ||| (data.getD (offset + 3) 0).toUInt32

theorem wordAt_eq {data : List UInt8} {offset : Nat} (fits : offset + 4 ≤ data.length) :
    wordAt data offset = UInt32.ofNat (valueAt data offset 4) := by
  have guarded := readUint32_eq fits
  rw [readUint32, if_neg (by omega)] at guarded
  exact (Prod.mk.inj (Option.some.inj guarded)).1

/-- `parseTaskCheckpoint`; the checkpoint behind the out-parameter is only written on success. -/
def parseTaskCheckpoint (data : List UInt8) (checkpoint : TaskCheckpoint) : Bool × TaskCheckpoint :=
  if data.length < 12 + 36 then (false, checkpoint) else
  match readUint32 data 0 with
  | none => (false, checkpoint)
  | some (magic, offset) =>
  match readUint16 data offset with
  | none => (false, checkpoint)
  | some (version, offset) =>
  match readUint16 data offset with
  | none => (false, checkpoint)
  | some (typeRaw, offset) =>
  match readUint32 data offset with
  | none => (false, checkpoint)
  | some (bodyLength, offset) =>
  if magic ≠ kMagic ∨ version ≠ kVersion ∨ typeRaw ≠ MessageType.taskCheckpoint.code ∨
      bodyLength ≠ 36 then (false, checkpoint) else
  let taskId := readLoop data offset 8
  let offset := offset + 8
  let lineId := wordAt data offset
  let offset := offset + 4
  let attemptId := wordAt data offset
  let offset := offset + 4
  let lastFrameSeq := readLoop data offset 8
  let offset := offset + 8
  let lastAckedFrameSeq := readLoop data offset 8
  let offset := offset + 8
  let finalized := wordAt data offset
  (true,
    { taskId, lineId, attemptId, lastFrameSeq, lastAckedFrameSeq, finalized := finalized != 0 })

/-- The fixed fields of a checkpoint: magic, version, type and body length. -/
def IsTaskCheckpoint (data : List UInt8) : Prop :=
  UInt32.ofNat (valueAt data 0 4) = kMagic ∧ UInt16.ofNat (valueAt data 4 2) = kVersion ∧
    UInt16.ofNat (valueAt data 6 2) = MessageType.taskCheckpoint.code ∧
    UInt32.ofNat (valueAt data 8 4) = 36

instance (data : List UInt8) : Decidable (IsTaskCheckpoint data) :=
  inferInstanceAs (Decidable (_ ∧ _ ∧ _ ∧ _))

/-- The fields of a checkpoint at their places. -/
def taskCheckpointAt (data : List UInt8) : TaskCheckpoint where
  taskId := UInt64.ofNat (valueAt data 12 8)
  lineId := UInt32.ofNat (valueAt data 20 4)
  attemptId := UInt32.ofNat (valueAt data 24 4)
  lastFrameSeq := UInt64.ofNat (valueAt data 28 8)
  lastAckedFrameSeq := UInt64.ofNat (valueAt data 36 8)
  finalized := UInt32.ofNat (valueAt data 44 4) != 0

theorem parseTaskCheckpoint_of_length {data : List UInt8} (long : 48 ≤ data.length)
    (checkpoint : TaskCheckpoint) :
    parseTaskCheckpoint data checkpoint =
      if IsTaskCheckpoint data then (true, taskCheckpointAt data) else (false, checkpoint) := by
  simp only [parseTaskCheckpoint, if_neg (show ¬ data.length < 12 + 36 by omega),
    readUint32_eq (show 0 + 4 ≤ data.length by omega)]
  simp (disch := omega) only [readUint16_eq, readUint32_eq, readLoop_eq, wordAt_eq]
  by_cases fixed : IsTaskCheckpoint data
  · obtain ⟨magic, version, type, length⟩ := fixed
    simp [IsTaskCheckpoint, magic, version, type, length, taskCheckpointAt]
  · rw [if_neg fixed, if_pos]
    simpa only [IsTaskCheckpoint, not_and_or] using fixed

theorem parseTaskCheckpoint_cases (data : List UInt8) (old : TaskCheckpoint) :
    (48 ≤ data.length ∧ IsTaskCheckpoint data ∧
      parseTaskCheckpoint data old = (true, taskCheckpointAt data)) ∨
      parseTaskCheckpoint data old = (false, old) :=
  guarded_cases (fun short => by rw [parseTaskCheckpoint, if_pos short])
    fun long => parseTaskCheckpoint_of_length long old

theorem parseResumeReply_cases (data : List UInt8) (old : ResumeReply) :
    (28 ≤ data.length ∧ IsResumeReply data ∧
      parseResumeReply data old = (true, resumeReplyAt data)) ∨
      parseResumeReply data old = (false, old) :=
  guarded_cases (fun short => by rw [parseResumeReply, if_pos short])
    fun long => parseResumeReply_of_length long old

/-! ## The header of a message -/

/-- The header that `data` starts with. -/
structure Headed (data : List UInt8) (type : MessageType) (bodyLength : Nat) : Prop where
  magic : UInt32.ofNat (valueAt data 0 4) = kMagic
  version : UInt16.ofNat (valueAt data 4 2) = kVersion
  type : UInt16.ofNat (valueAt data 6 2) = type.code
  bodyLength : valueAt data 8 4 = bodyLength

theorem MessageType.code_injective : Function.Injective MessageType.code := by
  intro type type' same
  cases type <;> cases type' <;> first | rfl | exact absurd same (by decide)

namespace Message

variable (message : Message)

theorem headed (rest : List UInt8) :
    Headed (message.encode ++ rest) message.type message.body.length := by
  have small := message.body_small
  have length : (UInt32.ofNat message.body.length).toNat = message.body.length :=
    UInt32.toNat_ofNat_of_lt' (by simp only [UInt32.size]; omega)
  rw [encode_eq, makeMessage_eq, length]
  simp only [List.append_assoc]
  constructor
  · rw [uint32_valueAt]
  · simp (disch := omega) only [valueAt_skip, Nat.reduceSub, uint16_valueAt]
  · simp (disch := omega) only [valueAt_skip, Nat.reduceSub, uint16_valueAt]
  · simp (disch := omega) only [valueAt_skip, Nat.reduceSub]
    exact valueAt_here (by omega) _

theorem encode_length : message.encode.length = 12 + valueAt message.encode 8 4 := by
  have header := message.headed []
  rw [List.append_nil] at header
  rw [header.bodyLength, encode_eq, makeMessage_length]

/-- The type and the fields determine the message. -/
theorem encode_injective : Function.Injective encode := by
  intro message message' same
  have header := message.headed []
  have header' := message'.headed []
  rw [← same] at header'
  have type : message.type = message'.type :=
    MessageType.code_injective (header.type.symm.trans header'.type)
  have body : message.body = message'.body := by
    rw [encode_eq, encode_eq, makeMessage, makeMessage] at same
    exact (List.append_inj same (by simp [makeMessageHeader, appendUint16, appendUint32])).2
  have flag : ∀ b b' : Bool,
      (if b then 1 else 0 : UInt32) = (if b' then 1 else 0 : UInt32) → b = b' := by decide
  cases message <;> cases message' <;> simp only [Message.type, reduceCtorEq] at type <;>
    simp only [Message.body, bigEndian_append_inj, uint32_inj, uint64_inj] at body
  case hello.hello => rw [body]
  case resumeRequest.resumeRequest => rw [body]
  case resumeReply.resumeReply => rw [body.1, body.2]
  case lineBegin.lineBegin => rw [body.1, body.2.1, body.2.2.1, body.2.2.2]
  case lineCommit.lineCommit => rw [body.1, body.2.1, body.2.2.1, body.2.2.2]
  case lineAbort.lineAbort => rw [body.1, body.2.1, body.2.2]
  case taskCheckpoint.taskCheckpoint checkpoint checkpoint' =>
    obtain ⟨taskId, lineId, attemptId, last, acked, finalized⟩ := body
    rw [Message.taskCheckpoint.injEq, TaskCheckpoint.mk.injEq]
    exact ⟨taskId, lineId, attemptId, last, acked, flag _ _ finalized⟩

/-- A stream of messages is cut by the lengths in their headers. -/
theorem stream_injective :
    Function.Injective fun messages : List Message => messages.flatMap encode := by
  apply concatenation_injective fun data => 12 + valueAt data 8 4
  · intro message rest
    rw [(message.headed rest).bodyLength, encode_eq, makeMessage_length]
  · intro message empty
    have length := message.encode_length
    rw [empty, List.length_nil] at length
    omega
  · exact encode_injective

end Message

/-! ## The two parsers -/

section Parsers

variable {data : List UInt8}

theorem makeMessageHeader_at {type : MessageType} {bodyLength : UInt32} (long : 12 ≤ data.length)
    (magic : UInt32.ofNat (valueAt data 0 4) = kMagic)
    (version : UInt16.ofNat (valueAt data 4 2) = kVersion)
    (typed : UInt16.ofNat (valueAt data 6 2) = type.code)
    (length : UInt32.ofNat (valueAt data 8 4) = bodyLength) :
    makeMessageHeader type bodyLength = slice data 0 12 := by
  simp only [makeMessageHeader, appendUint16_eq, appendUint32_eq, List.nil_append,
    List.append_assoc]
  rw [← magic, ← version, ← typed, ← length]
  simp (disch := omega) only [uint16_bytes, uint32_bytes]
  simp (disch := omega) only [slice_join, Nat.reduceAdd]

theorem makeResumeReplyMessage_at (long : 28 ≤ data.length) (fixed : IsResumeReply data) :
    makeResumeReplyMessage (resumeReplyAt data).taskId (resumeReplyAt data).highestDurableFrameSeq =
      data.take 28 := by
  obtain ⟨magic, version, type, length⟩ := fixed
  have header := makeMessageHeader_at (by omega) magic version type length
  have sized : UInt32.ofNat (appendUint64 (appendUint64 [] (resumeReplyAt data).taskId)
      (resumeReplyAt data).highestDurableFrameSeq).length = 16 := by
    simp only [appendUint64_eq, List.length_append, bigEndian_length]
    rfl
  rw [makeResumeReplyMessage, makeMessage, sized, header]
  simp only [appendUint64_eq, List.nil_append, resumeReplyAt]
  simp (disch := omega) only [uint64_bytes]
  simp (disch := omega) only [slice_join, Nat.reduceAdd]
  rw [slice, List.drop_zero]

/-- The last word of a checkpoint is a flag, written as 0 or 1. -/
def normaliseFinalized (bytes : List UInt8) : List UInt8 :=
  bytes.take 44 ++ (if bytes.drop 44 = [0, 0, 0, 0] then [0, 0, 0, 0] else [0, 0, 0, 1])

/-- The word is 0 exactly when its four bytes are. -/
theorem finalized_bytes (long : 48 ≤ data.length) :
    bigEndian 4 (if (taskCheckpointAt data).finalized then 1 else 0 : UInt32).toNat =
      if slice data 44 4 = [0, 0, 0, 0] then [0, 0, 0, 0] else [0, 0, 0, 1] := by
  have word : UInt32.ofNat (valueAt data 44 4) = 0 ↔ slice data 44 4 = [0, 0, 0, 0] := by
    rw [← uint32_inj, uint32_bytes long]
    rfl
  by_cases zero : slice data 44 4 = [0, 0, 0, 0]
  · have unset : (taskCheckpointAt data).finalized = false :=
      bne_eq_false_iff_eq.mpr (word.mpr zero)
    rw [if_pos zero, unset]
    rfl
  · have set : (taskCheckpointAt data).finalized = true := bne_iff_ne.mpr (mt word.mp zero)
    rw [if_neg zero, set]
    rfl

theorem makeTaskCheckpointMessage_at (long : 48 ≤ data.length) (fixed : IsTaskCheckpoint data) :
    makeTaskCheckpointMessage (taskCheckpointAt data) = normaliseFinalized (data.take 48) := by
  obtain ⟨magic, version, type, length⟩ := fixed
  have header := makeMessageHeader_at (by omega) magic version type length
  have encoded := Message.encode_eq (.taskCheckpoint (taskCheckpointAt data))
  have sized : UInt32.ofNat (Message.taskCheckpoint (taskCheckpointAt data)).body.length = 36 := by
    simp only [Message.body, List.length_append, bigEndian_length]
    rfl
  rw [Message.encode, Message.type, makeMessage, sized, header] at encoded
  have front : (data.take 48).take 44 = slice data 0 44 := List.take_take
  have back : (data.take 48).drop 44 = slice data 44 4 := List.drop_take
  rw [encoded, normaliseFinalized, front, back]
  simp only [Message.body, finalized_bytes long]
  simp only [taskCheckpointAt]
  simp (disch := omega) only [uint32_bytes, uint64_bytes]
  -- the fields in front of the flag lie side by side
  simp (disch := omega) only [← List.append_assoc, slice_join, Nat.reduceAdd]

end Parsers

theorem resumeReply_codec :
    Codec (fun reply : ResumeReply =>
      makeResumeReplyMessage reply.taskId reply.highestDurableFrameSeq) parseResumeReply 28 id :=
  .of_cases parseResumeReply_cases
    (fun reply => parseResumeReply_make reply.taskId reply.highestDurableFrameSeq)
    fun _ => makeResumeReplyMessage_at

theorem parseTaskCheckpoint_make (checkpoint old : TaskCheckpoint) (rest : List UInt8) :
    parseTaskCheckpoint (makeTaskCheckpointMessage checkpoint ++ rest) old =
      (true, checkpoint) := by
  have header := (Message.taskCheckpoint checkpoint).headed rest
  have sized : (Message.taskCheckpoint checkpoint).body.length = 36 := by simp [Message.body]
  have fixed : IsTaskCheckpoint (makeTaskCheckpointMessage checkpoint ++ rest) :=
    ⟨header.magic, header.version, header.type,
      congrArg UInt32.ofNat (header.bodyLength.trans sized)⟩
  have long : 48 ≤ (makeTaskCheckpointMessage checkpoint ++ rest).length := by
    simp [makeTaskCheckpointMessage, appendUint32, appendUint64]
  have flag : ((if checkpoint.finalized then 1 else 0 : UInt32) != 0) = checkpoint.finalized := by
    cases checkpoint.finalized <;> rfl
  have layout := Message.encode_eq (.taskCheckpoint checkpoint)
  rw [makeMessage_eq, Message.encode, Message.body] at layout
  rw [parseTaskCheckpoint_of_length long, if_pos fixed, layout, taskCheckpointAt]
  simp (disch := omega) only [List.append_assoc, valueAt_skip, Nat.reduceSub, uint32_valueAt,
    uint64_valueAt, flag]

theorem taskCheckpoint_codec :
    Codec makeTaskCheckpointMessage parseTaskCheckpoint 48 normaliseFinalized :=
  .of_cases parseTaskCheckpoint_cases parseTaskCheckpoint_make fun _ =>
    makeTaskCheckpointMessage_at

/-- Each parser gives back what was encoded, whatever follows, accepts nothing but what encoding
    gives back, up to the flag word of a checkpoint, and rejects the messages of all other types.
    Each message is as long as its header says, and a stream of messages can be cut in one way
    only. -/
theorem messages_decode :
    Codec makeTaskCheckpointMessage parseTaskCheckpoint 48 normaliseFinalized ∧
      Codec (fun reply : ResumeReply =>
        makeResumeReplyMessage reply.taskId reply.highestDurableFrameSeq) parseResumeReply 28 id ∧
      (∀ message : Message, message.type ≠ .taskCheckpoint → ∀ rest old,
        (parseTaskCheckpoint (message.encode ++ rest) old).1 = false) ∧
      (∀ message : Message, message.type ≠ .resumeReply → ∀ rest old,
        (parseResumeReply (message.encode ++ rest) old).1 = false) ∧
      (∀ message : Message, message.encode.length = 12 + valueAt message.encode 8 4) ∧
      Function.Injective fun messages : List Message => messages.flatMap Message.encode := by
  refine ⟨taskCheckpoint_codec, resumeReply_codec, ?_, ?_, Message.encode_length,
    Message.stream_injective⟩
  · intro message other rest old
    obtain ⟨_, fixed, _⟩ | refused := parseTaskCheckpoint_cases (message.encode ++ rest) old
    · have type := (message.headed rest).type.symm.trans fixed.2.2.1
      exact absurd (MessageType.code_injective type) other
    · rw [refused]
  · intro message other rest old
    obtain ⟨_, fixed, _⟩ | refused := parseResumeReply_cases (message.encode ++ rest) old
    · have type := (message.headed rest).type.symm.trans fixed.2.2.1
      exact absurd (MessageType.code_injective type) other
    · rw [refused]

end PictureReconstruct.ProtocolV2
