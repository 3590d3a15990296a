import PictureReconstruct.Network.RawFrameSender

/-! # The fragments of a frame that was sent

`RawFrame` ties `totalBytes` to the buffer.  The code does not, so `DeclaredFrame` takes the
fields as they are, and `sendDeclared` is `sendFrame` on it.

* `sendFrame_eq`: on a `RawFrame` this is the `sendFrame` of the other modules.
* `wp_sendDeclared`: what a `sendDeclared` that returns `true` has sent.
* `Tiled`: packets that are a frame header and the fragments it announces.
* `fragments_tile_iff`: the packets sent are such when the 32 bits of `fragmentCount` suffice.
-/

namespace PictureReconstruct

open Library.Procedure TcpClient

/-- A `RawFrame` as its fields declare it.  `buffer` is the memory from `data()` on, none for a
    null pointer. -/
structure DeclaredFrame where
  frameId : UInt64
  rows : UInt32
  cols : UInt32
  type : UInt32
  elemSize : UInt32
  totalBytes : UInt64
  buffer : Option (Nat → UInt8)

/-- A chunk header and what follows it. -/
structure Fragment where
  header : RawChunkHeader
  payload : List UInt8

def Fragment.packets (fragment : Fragment) : List Packet :=
  [.chunkHeader fragment.header, .payload fragment.payload]

namespace DeclaredFrame

variable (fragmentSize : UInt32) (frame : DeclaredFrame)

/-- `RawFrame::empty`. -/
def empty : Bool := frame.buffer.isNone || frame.totalBytes == 0

/-- `size` bytes at `data() + offset`. -/
def bytes (offset size : Nat) : List UInt8 :=
  match frame.buffer with
  | some memory => (List.range size).map fun i => memory (offset + i)
  | none => []

/-- `fragmentCount`: a sum and a division in 64 bits, narrowed to 32 bits. -/
def fragmentCount : UInt32 :=
  ((frame.totalBytes + fragmentSize.toUInt64 - 1) / fragmentSize.toUInt64).toUInt32

def header : RawFrameHeader where
  frameId := frame.frameId
  rows := frame.rows
  cols := frame.cols
  type := frame.type
  elemSize := frame.elemSize
  totalBytes := frame.totalBytes
  fragmentSize := fragmentSize
  fragmentCount := frame.fragmentCount fragmentSize

/-- What one iteration of the fragment loop sends. -/
def fragment (index : UInt32) : Fragment :=
  let offset := index.toUInt64 * fragmentSize.toUInt64
  let remain := frame.totalBytes - offset
  let payloadSize := (min fragmentSize.toUInt64 remain).toUInt32
  { header := { frameId := frame.frameId, fragmentIndex := index, payloadSize, offset }
    payload := frame.bytes offset.toNat payloadSize.toNat }

def packets : List Packet :=
  .frameHeader (frame.header fragmentSize) ::
    (List.range (frame.fragmentCount fragmentSize).toNat).flatMap
      fun index => (frame.fragment fragmentSize (UInt32.ofNat index)).packets

end DeclaredFrame

namespace RawFrameSender

variable (env : Environment) (fragmentSize : UInt32)

/-- One iteration of the fragment loop; `false` for its `return false`. -/
def sendDeclaredFragment (frame : DeclaredFrame) (index : Nat) : EStateM Abort Net Bool := do
  let fragment := frame.fragment fragmentSize (UInt32.ofNat index)
  if !(← sendAll env (.chunkHeader fragment.header)) then return false
  sendAll env (.payload fragment.payload)

/-- `sendFrame`, for a frame whose fields are taken as they are. -/
def sendDeclared (frame : DeclaredFrame) : EStateM Abort Net Bool := do
  if frame.empty then return false
  if frame.totalBytes == 0 then return false
  if !(← sendAll env (.frameHeader (frame.header fragmentSize))) then return false
  let count := (frame.fragmentCount fragmentSize).toNat
  if !(← (List.range count).allM (sendDeclaredFragment env fragmentSize frame)) then return false
  return true

end RawFrameSender

/-! ## The numbers of a fragment -/

namespace DeclaredFrame

variable {fragmentSize : UInt32} {frame : DeclaredFrame}

/-- While the sum does not wrap, only the narrowing can lose something. -/
theorem fragmentCount_toNat (positive : 0 < fragmentSize.toNat)
    (fits : frame.totalBytes.toNat + fragmentSize.toNat < 2 ^ 64) :
    (frame.fragmentCount fragmentSize).toNat =
      (frame.totalBytes.toNat + fragmentSize.toNat - 1) / fragmentSize.toNat % 2 ^ 32 := by
  have sum : (frame.totalBytes + fragmentSize.toUInt64).toNat =
      frame.totalBytes.toNat + fragmentSize.toNat := by
    rw [UInt64.toNat_add, UInt32.toNat_toUInt64, Nat.mod_eq_of_lt fits]
  have rounded : (frame.totalBytes + fragmentSize.toUInt64 - 1).toNat =
      frame.totalBytes.toNat + fragmentSize.toNat - 1 := by
    rw [UInt64.toNat_sub_of_le _ _ (UInt64.le_iff_toNat_le.mpr (by rw [sum]; simp; omega)), sum]
    rfl
  rw [fragmentCount, UInt64.toNat_toUInt32, UInt64.toNat_div, rounded, UInt32.toNat_toUInt64]

/-- Every fragment of the loop starts inside the frame. -/
theorem inside_of_lt_fragmentCount (positive : 0 < fragmentSize.toNat)
    (fits : frame.totalBytes.toNat + fragmentSize.toNat < 2 ^ 64) {index : Nat}
    (looped : index < (frame.fragmentCount fragmentSize).toNat) :
    index * fragmentSize.toNat < frame.totalBytes.toNat := by
  rw [fragmentCount_toNat positive fits] at looped
  have below : index + 1 ≤ (frame.totalBytes.toNat + fragmentSize.toNat - 1) / fragmentSize.toNat :=
    looped.trans_le (Nat.mod_le _ _)
  rw [Nat.le_div_iff_mul_le positive, Nat.add_one_mul] at below
  omega

/-- When 32 bits suffice to number them, these are all fragments that do. -/
theorem lt_fragmentCount (frame : DeclaredFrame) (positive : 0 < fragmentSize.toNat)
    (bounded : frame.totalBytes.toNat ≤ (2 ^ 32 - 1) * fragmentSize.toNat) (index : Nat) :
    index < (frame.fragmentCount fragmentSize).toNat ↔
      index * fragmentSize.toNat < frame.totalBytes.toNat := by
  have small := fragmentSize.toNat_lt
  have narrow : (frame.totalBytes.toNat + fragmentSize.toNat - 1) / fragmentSize.toNat <
      2 ^ 32 := by
    rw [Nat.div_lt_iff_lt_mul positive]
    omega
  rw [fragmentCount_toNat positive (by omega), Nat.mod_eq_of_lt narrow, Nat.lt_iff_add_one_le,
    Nat.le_div_iff_mul_le positive, Nat.add_one_mul]
  omega

/-- A fragment that starts inside the frame is as long as there is room for it. -/
theorem fragment_fields (frame : DeclaredFrame) {index : Nat} (number : index < 2 ^ 32)
    (inside : index * fragmentSize.toNat < frame.totalBytes.toNat) :
    (frame.fragment fragmentSize (UInt32.ofNat index)).header.offset.toNat =
        index * fragmentSize.toNat ∧
      (frame.fragment fragmentSize (UInt32.ofNat index)).header.payloadSize.toNat =
        min fragmentSize.toNat (frame.totalBytes.toNat - index * fragmentSize.toNat) := by
  have small := fragmentSize.toNat_lt
  have total := frame.totalBytes.toNat_lt
  have offset : ((UInt32.ofNat index).toUInt64 * fragmentSize.toUInt64).toNat =
      index * fragmentSize.toNat := by
    rw [UInt64.toNat_mul, UInt32.toNat_toUInt64, UInt32.toNat_toUInt64,
      UInt32.toNat_ofNat_of_lt' number, Nat.mod_eq_of_lt (by omega)]
  have remain : (frame.totalBytes - (UInt32.ofNat index).toUInt64 * fragmentSize.toUInt64).toNat =
      frame.totalBytes.toNat - index * fragmentSize.toNat := by
    rw [UInt64.toNat_sub_of_le _ _ (UInt64.le_iff_toNat_le.mpr (by omega)), offset]
  have smaller : (min fragmentSize.toUInt64
      (frame.totalBytes - (UInt32.ofNat index).toUInt64 * fragmentSize.toUInt64)).toNat =
        min fragmentSize.toNat (frame.totalBytes.toNat - index * fragmentSize.toNat) := by
    change (if _ ≤ _ then _ else _ : UInt64).toNat = _
    rw [apply_ite UInt64.toNat, remain, UInt32.toNat_toUInt64, Nat.min_def]
    simp only [UInt64.le_iff_toNat_le, remain, UInt32.toNat_toUInt64]
  refine ⟨offset, ?_⟩
  simp only [fragment, UInt64.toNat_toUInt32, smaller]
  omega

theorem size_of_not_empty (filled : frame.empty = false) : 0 < frame.totalBytes.toNat := by
  simp only [empty, Bool.or_eq_false_iff, beq_eq_false_iff_ne] at filled
  exact Nat.pos_of_ne_zero fun zero => filled.2 (UInt64.toNat_inj.mp (by simpa using zero))

end DeclaredFrame

/-! ## On a `RawFrame` -/

/-- The fields of a frame whose buffer has the size they say. -/
def RawFrame.declared (frame : RawFrame) : DeclaredFrame where
  frameId := frame.frameId
  rows := frame.rows
  cols := frame.cols
  type := frame.type
  elemSize := frame.elemSize
  totalBytes := frame.totalBytes
  buffer := frame.buffer.map fun bytes i => bytes.getD i 0

namespace RawFrame

variable {frame : RawFrame}

theorem declared_empty : frame.declared.empty = frame.empty := by
  simp [DeclaredFrame.empty, empty, declared]

theorem declared_bytes {offset size : Nat} (filled : frame.empty = false)
    (inside : offset + size ≤ frame.totalBytes.toNat) :
    frame.declared.bytes offset size = Library.Bytes.slice frame.data offset size := by
  obtain ⟨held, length, _, _⟩ := data_of_not_empty filled
  simp only [DeclaredFrame.bytes, declared, held, Option.map_some]
  refine List.ext_getElem ?_ fun i left right => ?_
  · rw [Library.Bytes.slice_length (by omega)]
    simp
  · simp only [List.length_map, List.length_range] at left
    have inside : offset + i < frame.data.length := by omega
    simp [Library.Bytes.slice, inside]

end RawFrame

namespace RawFrameSender

variable {env : Environment} {fragmentSize : UInt32}

theorem sendFragment_eq {frame : RawFrame} (filled : frame.empty = false) {index : Nat}
    (number : index < 2 ^ 32) (inside : index * fragmentSize.toNat < frame.totalBytes.toNat) :
    sendFragment env fragmentSize frame index =
      sendDeclaredFragment env fragmentSize frame.declared index := by
  obtain ⟨offset, payloadSize⟩ :=
    frame.declared.fragment_fields number inside
  have payload : payloadFor fragmentSize frame (UInt32.ofNat index) =
      (frame.declared.fragment fragmentSize (UInt32.ofNat index)).payload := by
    refine (RawFrame.declared_bytes filled ?_).symm
    change (frame.declared.fragment fragmentSize (UInt32.ofNat index)).header.offset.toNat +
      (frame.declared.fragment fragmentSize (UInt32.ofNat index)).header.payloadSize.toNat ≤ _
    rw [offset, payloadSize]
    simp only [RawFrame.declared] at *
    omega
  rw [sendFragment, sendDeclaredFragment, payload]
  rfl

theorem allM_congr {p q : Nat → EStateM Abort Net Bool} :
    ∀ (indices : List Nat), (∀ index ∈ indices, p index = q index) →
      indices.allM p = indices.allM q
  | [], _ => rfl
  | index :: indices, same => by
    rw [List.allM, List.allM, same index List.mem_cons_self,
      allM_congr indices fun i member => same i (List.mem_cons_of_mem _ member)]

/-- `sendFrame` is `sendDeclared`, and what it sent in full is put on record. -/
theorem sendFrame_eq (atLeast : 1024 ≤ fragmentSize) (frame : RawFrame) :
    sendFrame env fragmentSize frame = do
      if !(← sendDeclared env fragmentSize frame.declared) then return false
      modify fun net => net.record (.frameSent net.connection frame)
      return true := by
  cases filled : frame.empty with
  | true => simp [sendFrame, sendDeclared, RawFrame.declared_empty, filled]
  | false =>
    obtain ⟨_, _, pixels, bounded⟩ := RawFrame.data_of_not_empty filled
    have positive : 0 < fragmentSize.toNat := by
      have := UInt32.le_iff_toNat_le.mp atLeast
      have : (1024 : UInt32).toNat = 1024 := rfl
      omega
    have fragments : (List.range (fragmentCount fragmentSize frame).toNat).allM
        (sendFragment env fragmentSize frame) =
        (List.range (frame.declared.fragmentCount fragmentSize).toNat).allM
          (sendDeclaredFragment env fragmentSize frame.declared) := by
      refine allM_congr _ fun index looped => ?_
      have looped : index < (frame.declared.fragmentCount fragmentSize).toNat :=
        List.mem_range.mp looped
      have number := (frame.declared.fragmentCount fragmentSize).toNat_lt
      have small := fragmentSize.toNat_lt
      exact sendFragment_eq filled (by omega) (DeclaredFrame.inside_of_lt_fragmentCount positive
        (by simp only [RawFrame.declared]; omega) looped)
    have nonzero : (frame.totalBytes == 0) = false := by
      simpa using fun zero => by simp [zero] at pixels
    have nonzero' : (frame.declared.totalBytes == 0) = false := nonzero
    simp only [sendFrame, sendDeclared, RawFrame.declared_empty, filled, fragments, nonzero,
      nonzero', Bool.false_eq_true, if_false, bind_assoc]
    congr 1
    funext sent
    cases sent with
    | false => simp
    | true =>
      simp only [Bool.not_true, Bool.false_eq_true, if_false, bind_assoc]
      congr 1
      funext complete
      cases complete with
      | false => simp
      | true => simp

end RawFrameSender

/-! ## What was sent -/

/-- The packet the event shows on `connection`, all of whose bytes were taken by `send`. -/
def Event.packetOn (connection : Nat) : Event → Option Packet
  | .sent c packet accepted =>
    if c = connection ∧ accepted = packet.bytes.length then some packet else none
  | _ => none

/-- The packets sent in full on `connection`, in order. -/
def packetsOn (connection : Nat) (history : List Event) : List Packet :=
  history.filterMap (Event.packetOn connection)

@[simp] theorem packetsOn_append (connection : Nat) (before after : List Event) :
    packetsOn connection (before ++ after) =
      packetsOn connection before ++ packetsOn connection after := by
  simp [packetsOn]

@[simp] theorem packetsOn_stored (connection : Nat) (frames : List RawFrame) :
    packetsOn connection (frames.map .stored) = [] := by
  simp [packetsOn, Event.packetOn]

/-- `after` is `before` with `packets` more sent in full on the current connection. -/
structure Sends (packets : List Packet) (before after : Net) : Prop where
  connection : after.connection = before.connection
  history : ∃ added, after.history = before.history ++ added ∧
    packetsOn before.connection added = packets

theorem Sends.trans {first second : List Packet} {before middle after : Net}
    (left : Sends first before middle) (right : Sends second middle after) :
    Sends (first ++ second) before after := by
  obtain ⟨same, added, grown, sent⟩ := left
  obtain ⟨same', added', grown', sent'⟩ := right
  rw [same] at sent'
  exact ⟨same'.trans same, added ++ added', by rw [grown', grown, List.append_assoc],
    by rw [packetsOn_append, sent, sent']⟩

theorem Sends.refl (net : Net) : Sends [] net net := ⟨rfl, [], by simp, rfl⟩

namespace RawFrameSender

variable {env : Environment} {fragmentSize : UInt32} {frame : DeclaredFrame}

theorem wp_sendAll_sends (packet : Packet) {net : Net} :
    wp (sendAll env packet) (fun sent after => sent = true → Sends [packet] net after)
      (fun _ _ => True) net := by
  refine wp_sendAll env (fun _ => Bool.noConfusion) (fun _ _ _ _ => trivial)
    (fun _ _ _ _ _ _ => Bool.noConfusion) (fun after _ ticks _ _ => ?_)
  obtain ⟨frames, _, grown⟩ := ticks.history
  refine ⟨ticks.connection,
    frames.map .stored ++ [.sent net.connection packet packet.bytes.length],
    by simp [Net.record, grown], ?_⟩
  rw [packetsOn_append, packetsOn_stored]
  simp [packetsOn, Event.packetOn]

theorem wp_sendDeclaredFragment (index : Nat) {net : Net} :
    wp (sendDeclaredFragment env fragmentSize frame index)
      (fun sent after => sent = true →
        Sends (frame.fragment fragmentSize (UInt32.ofNat index)).packets net after)
      (fun _ _ => True) net := by
  simp only [sendDeclaredFragment, wp_bind]
  refine (wp_sendAll_sends _).post (fun sent middle header => ?_)
  cases sent with
  | false => exact Bool.noConfusion
  | true =>
    refine (wp_sendAll_sends _).post (fun sent after payload complete => ?_)
    exact (header rfl).trans (payload complete)

/-- A frame that is reported as sent had pixels, and its header and fragments went out. -/
theorem wp_sendDeclared {net : Net} : wp (sendDeclared env fragmentSize frame)
    (fun sent after => sent = true →
      frame.empty = false ∧ Sends (frame.packets fragmentSize) net after)
    (fun _ _ => True) net := by
  simp only [sendDeclared, wp_bind, wp_ite, wp_pure]
  refine ⟨fun _ => Bool.noConfusion, fun filled => ⟨fun _ => Bool.noConfusion, fun _ => ?_⟩⟩
  rw [Bool.not_eq_true] at filled
  refine (wp_sendAll_sends _).post (fun sent middle header => ?_)
  cases sent with
  | false => exact Bool.noConfusion
  | true =>
    simp only [Bool.not_true, Bool.false_eq_true, if_false, wp_bind]
    -- with the fragments `rest` to come, those of the other indices are sent
    refine wp_allM
      (fun rest after => ∃ done, done ++ rest.flatMap (fun index =>
          (frame.fragment fragmentSize (UInt32.ofNat index)).packets) =
        (frame.packets fragmentSize).tail ∧ Sends done middle after)
      (fun after loop => ?_) (fun index rest after loop => ?_) _ _
      ⟨[], by simp [DeclaredFrame.packets], .refl middle⟩
    · obtain ⟨done, whole, sends⟩ := loop
      simp only [Bool.not_true, Bool.false_eq_true, if_false, wp_pure]
      intro _
      refine ⟨filled, ?_⟩
      rw [List.flatMap_nil, List.append_nil] at whole
      rw [whole] at sends
      exact (header rfl).trans sends
    · obtain ⟨done, whole, sends⟩ := loop
      refine (wp_sendDeclaredFragment index).post (fun sent last next => ?_)
      cases sent with
      | false => exact Bool.noConfusion
      | true =>
        refine ⟨done ++ (frame.fragment fragmentSize (UInt32.ofNat index)).packets, ?_,
          sends.trans (next rfl)⟩
        rw [← whole, List.flatMap_cons, List.append_assoc]

end RawFrameSender

/-! ## Fragments that tile the frame -/

/-- The fragments are consecutive non-empty ranges of at most `limit` bytes from `start` to
    `stop`, each followed by the bytes of the frame it is about. -/
def Consecutive (frame : DeclaredFrame) (limit stop : Nat) : Nat → List Fragment → Prop
  | start, [] => start = stop
  | start, fragment :: rest =>
    let size := fragment.header.payloadSize.toNat
    fragment.header.offset.toNat = start ∧ 0 < size ∧ size ≤ limit ∧
      fragment.payload = frame.bytes start size ∧ Consecutive frame limit stop (start + size) rest

/-- The packets are a frame header and, in the order of their numbers, the fragments it
    announces, which partition the bytes of the frame. -/
def Tiled (fragmentSize : UInt32) (frame : DeclaredFrame) (packets : List Packet) : Prop :=
  ∃ header fragments,
    packets = .frameHeader header :: fragments.flatMap Fragment.packets ∧
    header.fragmentCount.toNat = fragments.length ∧
    fragments.map (fun fragment => fragment.header.fragmentIndex.toNat) =
      List.range fragments.length ∧
    Consecutive frame fragmentSize.toNat frame.totalBytes.toNat 0 fragments

section Tiling

variable {fragmentSize : UInt32} {frame : DeclaredFrame}

theorem Consecutive.bounded {limit stop : Nat} : ∀ {start : Nat} {fragments : List Fragment},
    Consecutive frame limit stop start fragments → stop ≤ start + fragments.length * limit
  | _, [], ends => by
    simp only [Consecutive] at ends
    omega
  | start, fragment :: rest, ⟨_, _, small, _, next⟩ => by
    have bound := next.bounded
    rw [List.length_cons, Nat.add_one_mul]
    omega

/-- So many bytes can be announced in 32 bits. -/
theorem Tiled.bounded {packets : List Packet} (tiled : Tiled fragmentSize frame packets) :
    frame.totalBytes.toNat ≤ (2 ^ 32 - 1) * fragmentSize.toNat := by
  obtain ⟨header, fragments, _, count, _, consecutive⟩ := tiled
  have number := header.fragmentCount.toNat_lt
  calc frame.totalBytes.toNat
      ≤ 0 + fragments.length * fragmentSize.toNat := consecutive.bounded
    _ = fragments.length * fragmentSize.toNat := Nat.zero_add _
    _ ≤ (2 ^ 32 - 1) * fragmentSize.toNat := Nat.mul_le_mul_right _ (by omega)

/-- The fragments from number `index` on, `remaining` of them, go on where the others end. -/
theorem consecutive_fragments (positive : 0 < fragmentSize.toNat)
    (bounded : frame.totalBytes.toNat ≤ (2 ^ 32 - 1) * fragmentSize.toNat) (remaining : Nat) :
    ∀ index, index + remaining = (frame.fragmentCount fragmentSize).toNat →
      Consecutive frame fragmentSize.toNat frame.totalBytes.toNat
        (min (index * fragmentSize.toNat) frame.totalBytes.toNat)
        ((List.range' index remaining).map fun i =>
          frame.fragment fragmentSize (UInt32.ofNat i)) := by
  have inside := frame.lt_fragmentCount positive bounded
  induction remaining with
  | zero =>
    intro index ends
    have past := (inside index).not.mp (by omega)
    simp only [List.range'_zero, List.map_nil, Consecutive]
    omega
  | succ remaining ih =>
    intro index ends
    have number := (frame.fragmentCount fragmentSize).toNat_lt
    have starts := (inside index).mp (by omega)
    obtain ⟨offset, payloadSize⟩ := frame.fragment_fields (by omega) starts
    have first : min (index * fragmentSize.toNat) frame.totalBytes.toNat =
        index * fragmentSize.toNat := by omega
    have next : index * fragmentSize.toNat + min fragmentSize.toNat
        (frame.totalBytes.toNat - index * fragmentSize.toNat) =
        min ((index + 1) * fragmentSize.toNat) frame.totalBytes.toNat := by
      rw [Nat.add_one_mul]
      omega
    rw [List.range'_succ, List.map_cons, first]
    refine ⟨offset, by rw [payloadSize]; omega, by rw [payloadSize]; omega, ?_, ?_⟩
    · rw [← offset]
      rfl
    · rw [payloadSize, next]
      exact ih (index + 1) (by omega)

theorem tiled_packets (positive : 0 < fragmentSize.toNat)
    (bounded : frame.totalBytes.toNat ≤ (2 ^ 32 - 1) * fragmentSize.toNat) :
    Tiled fragmentSize frame (frame.packets fragmentSize) := by
  refine ⟨frame.header fragmentSize,
    (List.range (frame.fragmentCount fragmentSize).toNat).map fun index =>
      frame.fragment fragmentSize (UInt32.ofNat index), ?_, ?_, ?_, ?_⟩
  · rw [DeclaredFrame.packets, List.flatMap_map]
  · simp [DeclaredFrame.header]
  · have number := (frame.fragmentCount fragmentSize).toNat_lt
    rw [List.length_map, List.length_range, List.map_map]
    refine (List.map_congr_left fun index looped => ?_).trans (List.map_id _)
    have looped := List.mem_range.mp looped
    exact UInt32.toNat_ofNat_of_lt' (show index < 2 ^ 32 by omega)
  · simpa [List.range_eq_range'] using
      consecutive_fragments positive bounded (frame.fragmentCount fragmentSize).toNat 0 (by omega)

end Tiling

namespace RawFrameSender

/-! ## The frames that are sent in full -/

variable {fragmentSize : UInt32} {frame : DeclaredFrame}

/-- Every system call does what it is asked for. -/
def flawless : Environment where
  dies _ := false
  stores _ := []
  connect _ := true
  send _ packet _ := packet.bytes.length
  recv _ _ := []
  disk _ := .none

theorem wp_sendAll_flawless (packet : Packet) {net : Net} (live : net.connected = true) :
    wp (sendAll flawless packet) (fun sent after => sent = true ∧ after.connected = true)
      (fun _ _ => False) net := by
  refine wp_sendAll flawless (fun closed => ?_) (fun _ _ _ dies => Bool.noConfusion dies)
    (fun _ _ _ _ short failed => ?_) (fun _ _ ticks _ => ⟨rfl, ticks.connected.trans live⟩)
  · rw [live] at closed
    exact Bool.noConfusion closed
  · simp only [flawless] at failed
    omega

/-- Over such calls every frame with pixels is reported as sent. -/
theorem sendDeclared_flawless (fragmentSize : UInt32) (frame : DeclaredFrame)
    (filled : frame.empty = false) (net : Net) (live : net.connected = true) :
    ∃ after, sendDeclared flawless fragmentSize frame net = .ok true after := by
  have pixels := DeclaredFrame.size_of_not_empty filled
  have complete : wp (sendDeclared flawless fragmentSize frame) (fun sent _ => sent = true)
      (fun _ _ => False) net := by
    simp only [sendDeclared, wp_bind, wp_ite, wp_pure, filled]
    refine ⟨fun absent => Bool.noConfusion absent, fun _ => ⟨fun zero => ?_, fun _ => ?_⟩⟩
    · simp [beq_iff_eq.mp zero] at pixels
    refine (wp_sendAll_flawless _ live).post (fun sent middle header => ?_)
    obtain ⟨rfl, up⟩ := header
    simp only [Bool.not_true, Bool.false_eq_true, if_false, wp_bind]
    refine wp_allM (fun _ net => net.connected = true) (fun _ _ => by simp)
      (fun index _ net up => ?_) _ _ up
    simp only [sendDeclaredFragment, wp_bind]
    refine (wp_sendAll_flawless _ up).post (fun sent middle header => ?_)
    obtain ⟨rfl, up⟩ := header
    refine (wp_sendAll_flawless _ up).post (fun sent after payload => ?_)
    obtain ⟨rfl, up⟩ := payload
    exact up
  cases run : sendDeclared flawless fragmentSize frame net with
  | error _ _ => exact (complete.error run).elim
  | ok sent after => exact ⟨after, by rw [complete.ok run]⟩

/-- What `sendFrame` reports as sent tiles the frame exactly when `fragmentCount` can number the
    fragments. -/
theorem fragments_tile_iff (env : Environment) (fragmentSize : UInt32)
    (atLeast : 1024 ≤ fragmentSize) (frame : DeclaredFrame) (before after : Net)
    (sent : sendDeclared env fragmentSize frame before = .ok true after) :
    Tiled fragmentSize frame
        (packetsOn before.connection (after.history.drop before.history.length)) ↔
      frame.totalBytes.toNat ≤ (2 ^ 32 - 1) * fragmentSize.toNat := by
  obtain ⟨filled, sends⟩ := wp_sendDeclared.ok sent rfl
  obtain ⟨_, added, grown, packets⟩ := sends
  have positive : 0 < fragmentSize.toNat := by
    have := UInt32.le_iff_toNat_le.mp atLeast
    have : (1024 : UInt32).toNat = 1024 := rfl
    omega
  rw [grown, List.drop_left, packets]
  exact ⟨Tiled.bounded, tiled_packets positive⟩

/-- A buffer of 2000 bytes in two fragments. -/
theorem fragments_tile_iff_gray :
    let gray : DeclaredFrame := ⟨3, 1, 2000, 0, 1, 2000, some fun _ => 0x80⟩
    ∃ after, sendDeclared flawless 1024 gray { connected := true, connection := 1 } =
        .ok true after ∧
      (Tiled 1024 gray (packetsOn 1 after.history) ↔ 2000 ≤ (2 ^ 32 - 1) * 1024) := by
  obtain ⟨after, sent⟩ := sendDeclared_flawless 1024 ⟨3, 1, 2000, 0, 1, 2000, some fun _ => 0x80⟩
    rfl { connected := true, connection := 1 } rfl
  exact ⟨after, sent, fragments_tile_iff flawless 1024 (by decide) _ _ after sent⟩

/-- 4 TiB in fragments of 1024 bytes are `2 ^ 32` fragments, which are announced as none. -/
theorem four_tebibytes_not_tiled :
    ¬ ∀ (env : Environment) (fragmentSize : UInt32), 1024 ≤ fragmentSize →
      ∀ (frame : DeclaredFrame) (before after : Net),
      sendDeclared env fragmentSize frame before = .ok true after →
      Tiled fragmentSize frame
        (packetsOn before.connection (after.history.drop before.history.length)) := by
  intro tiles
  obtain ⟨after, sent⟩ := sendDeclared_flawless 1024
    ⟨3, 1048576, 1048576, 6, 4, 4398046511104, some fun _ => 0x80⟩ rfl
    { connected := true, connection := 1 } rfl
  have bounded := (tiles flawless 1024 (by decide) _ _ after sent).bounded
  exact absurd bounded (by decide)

end RawFrameSender

end PictureReconstruct
