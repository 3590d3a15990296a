import PictureReconstruct.Protocol.Wire

/-! # `protocolv2`: the resume handshake messages

Every PRV2 message is a 12-byte header (magic, version, type, body length) and a body.
The sender writes `Hello` and `ResumeRequest` and reads a `ResumeReply` of 28 bytes.

* `parseResumeReply_of_length`: the reply parser decides by the header alone and takes both
  body fields from their places.
* `parseResumeReply_make`: it gives back what `makeResumeReplyMessage` encoded.
-/

namespace PictureReconstruct.ProtocolV2

open Library.Bytes Wire

/-- "PRV2" -/
def kMagic : UInt32 := 0x50525632
def kVersion : UInt16 := 2

/-- `MessageType`. -/
inductive MessageType
  | hello
  | resumeRequest
  | resumeReply
  | lineBegin
  | lineCommit
  | lineAbort
  | frameBegin
  | frameChunk
  | ack
  | nack
  | taskCheckpoint
  | taskFinish
deriving DecidableEq

/-- The `uint16_t` underlying a message type. -/
def MessageType.code : MessageType → UInt16
  | hello => 1
  | resumeRequest => 2
  | resumeReply => 3
  | lineBegin => 10
  | lineCommit => 11
  | lineAbort => 12
  | frameBegin => 20
  | frameChunk => 21
  | ack => 30
  | nack => 31
  | taskCheckpoint => 41
  | taskFinish => 40

/-- `ResumeReply`. -/
structure ResumeReply where
  taskId : UInt64
  highestDurableFrameSeq : UInt64
deriving DecidableEq, Inhabited

/-! ## Building -/

def makeMessageHeader (type : MessageType) (bodyLength : UInt32) : List UInt8 :=
  let buffer := []
  let buffer := appendUint32 buffer kMagic
  let buffer := appendUint16 buffer kVersion
  let buffer := appendUint16 buffer type.code
  appendUint32 buffer bodyLength

/-- What the `make*Message` functions do once the body is built. -/
def makeMessage (type : MessageType) (body : List UInt8) : List UInt8 :=
  makeMessageHeader type (UInt32.ofNat body.length) ++ body

def makeHelloMessage (taskId : UInt64) : List UInt8 :=
  makeMessage .hello (appendUint64 [] taskId)

def makeResumeRequestMessage (taskId : UInt64) : List UInt8 :=
  makeMessage .resumeRequest (appendUint64 [] taskId)

def makeResumeReplyMessage (taskId highestDurableFrameSeq : UInt64) : List UInt8 :=
  makeMessage .resumeReply (appendUint64 (appendUint64 [] taskId) highestDurableFrameSeq)

theorem makeMessage_eq (type : MessageType) (body : List UInt8) :
    makeMessage type body =
      bigEndian 4 kMagic.toNat ++ (bigEndian 2 kVersion.toNat ++ (bigEndian 2 type.code.toNat ++
      (bigEndian 4 (UInt32.ofNat body.length).toNat ++ body))) := by
  simp only [makeMessage, makeMessageHeader, appendUint16_eq, appendUint32_eq, List.nil_append,
    List.append_assoc]

@[simp] theorem makeMessage_length (type : MessageType) (body : List UInt8) :
    (makeMessage type body).length = 12 + body.length := by
  simp only [makeMessage_eq, List.length_append, bigEndian_length]
  omega

@[simp] theorem makeResumeReplyMessage_length (taskId highest : UInt64) :
    (makeResumeReplyMessage taskId highest).length = 28 := by
  simp [makeResumeReplyMessage, appendUint64]

/-! ## Parsing -/

/-- `parseResumeReply`; the reply behind the out-parameter is only written on success. -/
def parseResumeReply (data : List UInt8) (reply : ResumeReply) : Bool × ResumeReply :=
  if data.length < 12 + 16 then (false, reply) else
  match readUint32 data 0 with
  | none => (false, reply)
  | some (magic, offset) =>
  match readUint16 data offset with
  | none => (false, reply)
  | some (version, offset) =>
  match readUint16 data offset with
  | none => (false, reply)
  | some (typeRaw, offset) =>
  match readUint32 data offset with
  | none => (false, reply)
  | some (bodyLength, offset) =>
  if magic ≠ kMagic ∨ version ≠ kVersion ∨ typeRaw ≠ MessageType.resumeReply.code ∨
      bodyLength ≠ 16 then (false, reply) else
  let taskId := readLoop data offset 8
  let offset := offset + 8
  let highest := readLoop data offset 8
  (true, { taskId, highestDurableFrameSeq := highest })

/-- The fixed fields of a reply: magic, version, type and body length. -/
def IsResumeReply (data : List UInt8) : Prop :=
  UInt32.ofNat (valueAt data 0 4) = kMagic ∧ UInt16.ofNat (valueAt data 4 2) = kVersion ∧
    UInt16.ofNat (valueAt data 6 2) = MessageType.resumeReply.code ∧
    UInt32.ofNat (valueAt data 8 4) = 16

instance (data : List UInt8) : Decidable (IsResumeReply data) :=
  inferInstanceAs (Decidable (_ ∧ _ ∧ _ ∧ _))

/-- The fields of a reply at their places. -/
def resumeReplyAt (data : List UInt8) : ResumeReply where
  taskId := UInt64.ofNat (valueAt data 12 8)
  highestDurableFrameSeq := UInt64.ofNat (valueAt data 20 8)

theorem parseResumeReply_of_length {data : List UInt8} (long : 28 ≤ data.length)
    (reply : ResumeReply) :
    parseResumeReply data reply =
      if IsResumeReply data then (true, resumeReplyAt data) else (false, reply) := by
  simp only [parseResumeReply, if_neg (show ¬ data.length < 12 + 16 by omega),
    readUint32_eq (show 0 + 4 ≤ data.length by omega)]
  simp (disch := omega) only [readUint16_eq, readUint32_eq, readLoop_eq]
  by_cases fixed : IsResumeReply data
  · obtain ⟨magic, version, type, length⟩ := fixed
    simp [IsResumeReply, magic, version, type, length, resumeReplyAt]
  · rw [if_neg fixed, if_pos]
    simpa only [IsResumeReply, not_and_or] using fixed

theorem parseResumeReply_make (taskId highest : UInt64) (old : ResumeReply) (rest : List UInt8) :
    parseResumeReply (makeResumeReplyMessage taskId highest ++ rest) old =
      (true, ⟨taskId, highest⟩) := by
  have long : 28 ≤ (makeResumeReplyMessage taskId highest ++ rest).length := by simp
  have layout : makeResumeReplyMessage taskId highest ++ rest =
      bigEndian 4 kMagic.toNat ++ (bigEndian 2 kVersion.toNat ++
      (bigEndian 2 MessageType.resumeReply.code.toNat ++ (bigEndian 4 (16 : UInt32).toNat ++
      (bigEndian 8 taskId.toNat ++ (bigEndian 8 highest.toNat ++ rest))))) := by
    simp only [makeResumeReplyMessage, makeMessage_eq, appendUint64_eq, List.nil_append,
      List.append_assoc, List.length_append, bigEndian_length]
    rfl
  have fixed : IsResumeReply (makeResumeReplyMessage taskId highest ++ rest) := by
    rw [layout, IsResumeReply]
    simp (disch := omega) only [valueAt_skip, Nat.reduceSub, uint32_valueAt, uint16_valueAt,
      true_and]
  rw [parseResumeReply_of_length long, if_pos fixed, layout, resumeReplyAt]
  simp (disch := omega) only [valueAt_skip, Nat.reduceSub, uint64_valueAt]

end PictureReconstruct.ProtocolV2
