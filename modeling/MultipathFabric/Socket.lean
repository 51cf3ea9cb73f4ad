import MultipathFabric.Framing
import MultipathFabric.Server

namespace MultipathFabric

open ByteCodec Wire

abbrev Failure := { outcome : FabricOutcome // outcome.succeeded = false }

/-- What one turn of the receive loop meets. A frame is `late` once the budget has run out that its first bytes started.
When nothing more arrives, the peer has closed the connection. -/
inductive Arrival
  | waitFails (failure : Failure)
  | idle (late : Bool)
  | bytes (segment : Bytes) (late : Bool)
  | recvFails (failure : Failure)

namespace Arrival

def content : Arrival → Bytes
  | .bytes segment _ => segment
  | _ => []

def Timely : Arrival → Prop
  | .idle late => late = false
  | .bytes segment late => segment ≠ [] ∧ late = false
  | _ => False

end Arrival

def streamed (arrivals : List Arrival) : Bytes := arrivals.flatMap Arrival.content

@[simp] theorem streamed_nil : streamed [] = [] := rfl

@[simp] theorem streamed_cons (arrival : Arrival) (rest : List Arrival) :
    streamed (arrival :: rest) = arrival.content ++ streamed rest := rfl

def Timely (arrivals : List Arrival) : Prop := ∀ arrival ∈ arrivals, arrival.Timely

theorem Timely.head {arrival : Arrival} {rest : List Arrival} (h : Timely (arrival :: rest)) : arrival.Timely :=
  h arrival List.mem_cons_self

theorem Timely.tail {arrival : Arrival} {rest : List Arrival} (h : Timely (arrival :: rest)) : Timely rest :=
  fun other hother => h other (List.mem_cons_of_mem _ hother)

structure Received where
  data : Bytes
  outcome : Checked Unit
  rest : List Arrival

def peerClosed (received size : ℕ) : FabricOutcome :=
  makeRejection .protocolError
    (text "peer closed the connection after " ++ decimal received ++ text " of " ++ decimal size ++
      text " frame bytes")

/-- The loop that has collected `data` so far. A frame starts with its first bytes, and so does its budget. The clock is
read once more right after that start; that those bytes are too late already by then is left out. -/
def socketRecvExact (frameTimeoutMs : UInt32) (size : ℕ) (data : Bytes) : List Arrival → Received
  | [] =>
      if size ≤ data.length then ⟨data, .ok (), []⟩
      else ⟨data, .error (peerClosed data.length size), []⟩
  | arrival :: rest =>
      if size ≤ data.length then ⟨data, .ok (), arrival :: rest⟩
      else
        match arrival with
        | .waitFails failure =>
            if data.isEmpty then ⟨data, .error failure.1, rest⟩
            else
              ⟨data, .error (makeRejection .sessionTimeout
                (text "peer sent only " ++ decimal data.length ++ text " of " ++ decimal size ++
                  text " frame bytes before the frame budget expired")), rest⟩
        | .idle late =>
            if !data.isEmpty && frameTimeoutMs != 0 && late then
              ⟨data, .error (makeRejection .sessionTimeout
                (text "peer stalled after " ++ decimal data.length ++ text " of " ++ decimal size ++
                  text " frame bytes")), rest⟩
            else socketRecvExact frameTimeoutMs size data rest
        | .recvFails failure => ⟨data, .error failure.1, rest⟩
        | .bytes segment late =>
            if segment.isEmpty then ⟨data, .error (peerClosed data.length size), rest⟩
            else
              let wanted := size - data.length
              let received := data ++ segment.take wanted
              if !data.isEmpty && frameTimeoutMs != 0 && late then
                ⟨received, .error (makeRejection .sessionTimeout
                  (text "frame receive exceeded the budget of " ++ decimal frameTimeoutMs.toNat ++
                    text " ms after " ++ decimal received.length ++ text " of " ++ decimal size ++
                    text " bytes")), rest⟩
              -- The socket keeps what the caller has not asked for.
              else if wanted < segment.length then
                ⟨received, .ok (), .bytes (segment.drop wanted) late :: rest⟩
              else socketRecvExact frameTimeoutMs size received rest

section Receiving

variable {frameTimeoutMs : UInt32} {size : ℕ} {data : Bytes} {arrivals : List Arrival}

theorem socketRecvExact_ok (room : data.length ≤ size)
    (h : (socketRecvExact frameTimeoutMs size data arrivals).outcome = .ok ()) :
    data ++ streamed arrivals = (socketRecvExact frameTimeoutMs size data arrivals).data ++
        streamed (socketRecvExact frameTimeoutMs size data arrivals).rest ∧
      (socketRecvExact frameTimeoutMs size data arrivals).data.length = size := by
  induction arrivals generalizing data with
  | nil =>
      unfold socketRecvExact at h ⊢
      split_ifs at h ⊢
      exact ⟨rfl, Nat.le_antisymm room ‹_›⟩
  | cons arrival rest ih =>
      unfold socketRecvExact at h ⊢
      by_cases hfull : size ≤ data.length
      · rw [if_pos hfull]
        exact ⟨rfl, Nat.le_antisymm room hfull⟩
      rw [if_neg hfull] at h ⊢
      cases arrival with
      | waitFails failure =>
          dsimp only at h
          by_cases hempty : data.isEmpty = true
          · rw [if_pos hempty] at h
            cases h
          · rw [if_neg hempty] at h
            cases h
      | recvFails failure => cases h
      | idle late =>
          dsimp only at h ⊢
          split_ifs at h ⊢
          exact ih room h
      | bytes segment late =>
          dsimp only at h ⊢
          split_ifs at h ⊢ with hempty hlate hmore
          · refine ⟨?_, ?_⟩
            · rw [streamed_cons, streamed_cons, Arrival.content, Arrival.content, List.append_assoc,
                ← List.append_assoc (segment.take _), List.take_append_drop]
            · rw [List.length_append, List.length_take]
              omega
          · have hwhole : segment.take (size - data.length) = segment :=
              List.take_of_length_le (Nat.le_of_not_lt hmore)
            rw [hwhole] at h ⊢
            rw [streamed_cons, Arrival.content, ← List.append_assoc]
            apply ih _ h
            rw [List.length_append]
            omega

theorem socketRecvExact_timely (timely : Timely arrivals) (room : data.length ≤ size) :
    let all := data ++ streamed arrivals
    (size ≤ all.length → ∃ rest, socketRecvExact frameTimeoutMs size data arrivals = ⟨all.take size, .ok (), rest⟩ ∧
        Timely rest ∧ streamed rest = all.drop size) ∧
      (all.length < size → socketRecvExact frameTimeoutMs size data arrivals =
        ⟨all, .error (peerClosed all.length size), []⟩) := by
  induction arrivals generalizing data with
  | nil =>
      simp only [streamed_nil, List.append_nil]
      unfold socketRecvExact
      constructor
      · intro henough
        rw [if_pos henough, List.take_of_length_le room]
        exact ⟨[], rfl, timely, (List.drop_of_length_le room).symm⟩
      · intro hshort
        rw [if_neg (Nat.not_le.mpr hshort)]
  | cons arrival rest ih =>
      unfold socketRecvExact
      intro all
      by_cases hfull : size ≤ data.length
      · have hsize := Nat.le_antisymm room hfull
        rw [if_pos hfull]
        constructor
        · intro _
          refine ⟨arrival :: rest, ?_, timely, ?_⟩
          · rw [List.take_left' hsize]
          · rw [List.drop_left' hsize]
        · intro hshort
          have hall : all.length = data.length + (streamed (arrival :: rest)).length := List.length_append
          omega
      rw [if_neg hfull]
      have htimely := timely.head
      cases arrival with
      | waitFails failure => exact absurd htimely id
      | recvFails failure => exact absurd htimely id
      | idle late =>
          have hlate : late = false := htimely
          dsimp only
          rw [hlate, Bool.and_false, if_neg Bool.false_ne_true]
          exact ih timely.tail room
      | bytes segment late =>
          obtain ⟨hsegment, rfl⟩ := htimely
          have hempty : segment.isEmpty = false := by
            simpa using hsegment
          dsimp only
          rw [hempty, Bool.and_false, if_neg Bool.false_ne_true, if_neg Bool.false_ne_true]
          have hall : all = data ++ segment ++ streamed rest := by
            simp only [all, streamed_cons, Arrival.content, List.append_assoc]
          rw [hall]
          split_ifs with hmore
          · have hdata : size ≤ (data ++ segment).length := by
              rw [List.length_append]
              omega
            have htake : (data ++ segment ++ streamed rest).take size = data ++ segment.take (size - data.length) := by
              rw [List.take_append_of_le_length hdata, List.take_append, List.take_of_length_le room]
            have hdrop : (data ++ segment ++ streamed rest).drop size =
                segment.drop (size - data.length) ++ streamed rest := by
              rw [List.drop_append_of_le_length hdata, List.drop_append, List.drop_of_length_le room, List.nil_append]
            constructor
            · intro _
              refine ⟨.bytes (segment.drop (size - data.length)) false :: rest, by rw [htake], ?_, hdrop.symm⟩
              intro other hother
              rcases List.mem_cons.mp hother with rfl | hother
              · refine ⟨?_, rfl⟩
                rw [Ne, List.drop_eq_nil_iff]
                omega
              · exact timely.tail other hother
            · intro hshort
              rw [List.length_append] at hshort
              omega
          · have hwhole : segment.take (size - data.length) = segment :=
              List.take_of_length_le (Nat.le_of_not_lt hmore)
            rw [hwhole]
            apply ih timely.tail
            rw [List.length_append]
            omega

end Receiving

def frameOf (message : MessageId × Bytes) : Bytes :=
  let head := frameHead message.1 (UInt32.ofNat message.2.length)
  head ++ encode [.u64 (frameIntegrity head message.2)] ++ message.2

def Framable (maxFrameBytes : UInt64) (message : MessageId × Bytes) : Prop :=
  message.2.length ≤ (frameBound maxFrameBytes).toNat

theorem encodeFrame_iff {id : MessageId} {payload frame : Bytes} {maxFrameBytes : UInt64} :
    encodeFrame id payload maxFrameBytes = .ok frame ↔
      Framable maxFrameBytes (id, payload) ∧ frame = frameOf (id, payload) := by
  unfold encodeFrame
  simp only [Checked.bind_ok, Checked.require_ok, Checked.present_ok, Checked.pure_ok, decide_eq_true_eq]
  constructor
  · rintro ⟨_, hwithin, length, hlength, rfl⟩
    unfold narrowU32 at hlength
    split_ifs at hlength
    cases hlength
    exact ⟨hwithin, rfl⟩
  · rintro ⟨hwithin, rfl⟩
    have hhard := frameBound_le maxFrameBytes
    have hbound : payload.length < 2 ^ 32 := by
      have hlength : payload.length ≤ (frameBound maxFrameBytes).toNat := hwithin
      omega
    exact ⟨(), hwithin, UInt32.ofNat payload.length, if_pos hbound, rfl⟩

inductive FrameFailure
  | header (received : ℕ) (outcome : FabricOutcome)
  | refused (outcome : FabricOutcome)
  | payload (outcome : FabricOutcome)

def readMessage (accepts : MessageId → Checked Unit) (maxFrameBytes : UInt64) (frameTimeoutMs : UInt32)
    (arrivals : List Arrival) : Except FrameFailure (MessageId × Bytes) × List Arrival :=
  let header := socketRecvExact frameTimeoutMs frameHeaderSize [] arrivals
  match header.outcome with
  | .error outcome => (.error (.header header.data.length outcome), header.rest)
  | .ok () =>
      match decodeHeader header.data maxFrameBytes with
      | .error outcome => (.error (.refused outcome), header.rest)
      | .ok (id, length) =>
          match accepts id with
          | .error outcome => (.error (.refused outcome), header.rest)
          | .ok () =>
              -- No byte is waited for when the payload is empty.
              let payload := socketRecvExact frameTimeoutMs length.toNat [] header.rest
              match payload.outcome with
              | .error outcome => (.error (.payload outcome), payload.rest)
              | .ok () =>
                  match verifyIntegrity header.data payload.data with
                  | .error outcome => (.error (.refused outcome), payload.rest)
                  | .ok () => (.ok (id, payload.data), payload.rest)

def FrameFailure.received : FrameFailure → ReceivedFrame
  | .header received outcome =>
      if outcome.code = .protocolError ∧ received = 0 then .closed
      else .failed (makeRejection outcome.code outcome.detail)
  | .refused outcome => .failed outcome
  | .payload outcome => .failed (makeRejection outcome.code outcome.detail)

def received (message : MessageId × Bytes) : ReceivedFrame := .frame message.1 message.2

def readFrame (maxFrameBytes : UInt64) (frameTimeoutMs : UInt32) (arrivals : List Arrival) :
    ReceivedFrame × List Arrival :=
  let read := readMessage (fun _ => .ok ()) maxFrameBytes frameTimeoutMs arrivals
  match read.1 with
  | .ok message => (received message, read.2)
  | .error failure => (failure.received, read.2)

section Frames

variable {maxFrameBytes : UInt64} {frameTimeoutMs : UInt32} {arrivals rest : List Arrival} {message : MessageId × Bytes}
  {bytes : Bytes}

theorem frameOf_header (message : MessageId × Bytes) : (frameOf message).take frameHeaderSize =
    frameHead message.1 (UInt32.ofNat message.2.length) ++
      encode [.u64 (frameIntegrity (frameHead message.1 (UInt32.ofNat message.2.length)) message.2)] :=
  (frame_parts message.1 _ _ message.2).2.2.1

theorem frameOf_payload (message : MessageId × Bytes) : (frameOf message).drop frameHeaderSize = message.2 :=
  (frame_parts message.1 _ _ message.2).2.1

theorem frameOf_length (message : MessageId × Bytes) : (frameOf message).length = frameHeaderSize + message.2.length :=
  (frame_parts message.1 _ _ message.2).1

theorem Framable.length (h : Framable maxFrameBytes message) :
    (UInt32.ofNat message.2.length).toNat = message.2.length := by
  have hhard := frameBound_le maxFrameBytes
  have hwithin : message.2.length ≤ (frameBound maxFrameBytes).toNat := h
  rw [UInt32.toNat_ofNat', Nat.mod_eq_of_lt (by omega)]

theorem Framable.header (h : Framable maxFrameBytes message) :
    decodeHeader ((frameOf message).take frameHeaderSize) maxFrameBytes =
      .ok (message.1, UInt32.ofNat message.2.length) := by
  rw [decodeHeader_iff, frameOf_header, ← frameHead_length message.1 (UInt32.ofNat message.2.length), List.take_left]
  refine ⟨rfl, UInt64.le_iff_toNat_le.mpr ?_⟩
  rw [UInt32.toNat_toUInt64, h.length]
  exact h

theorem frameOf_verified (message : MessageId × Bytes) :
    verifyIntegrity ((frameOf message).take frameHeaderSize) message.2 = .ok () := by
  rw [frameOf_header, verifyIntegrity_iff (frameHead_length _ _)]

theorem frameOf_of_checked {header payload : Bytes} {id : MessageId} {length : UInt32} (whole : header.length = frameHeaderSize)
    (hheader : decodeHeader header maxFrameBytes = .ok (id, length)) (hpayload : payload.length = length.toNat)
    (hverified : verifyIntegrity header payload = .ok ()) :
    header ++ payload = frameOf (id, payload) ∧ Framable maxFrameBytes (id, payload) := by
  obtain ⟨hhead, hbound⟩ := decodeHeader_iff.mp hheader
  have hlength : UInt32.ofNat payload.length = length := by
    rw [hpayload, UInt32.ofNat_toNat]
  have hsplit : header = frameHead id length ++ header.drop frameIntegrityOffset := by
    rw [← hhead, List.take_append_drop]
  have hfield : (header.drop frameIntegrityOffset).length = 8 := by
    rw [List.length_drop, whole]
    rfl
  have hcheck : header.drop frameIntegrityOffset =
      encode [.u64 (UInt64.ofNat (fromLittleEndian (header.drop frameIntegrityOffset)))] := by
    have hlt := fromLittleEndian_lt (header.drop frameIntegrityOffset)
    have hwide : (256 : ℕ) ^ 8 = 2 ^ 64 := by norm_num
    rw [hfield, hwide] at hlt
    simp only [encode_cons, encode_nil, Field.bytes, List.append_nil]
    rw [UInt64.toNat_ofNat', Nat.mod_eq_of_lt hlt]
    conv_lhs => rw [← littleEndian_fromLittleEndian (header.drop frameIntegrityOffset), hfield]
  rw [hsplit, hcheck] at hverified
  have hintegrity := (verifyIntegrity_iff (frameHead_length id length)).mp hverified
  refine ⟨?_, ?_⟩
  · unfold frameOf
    dsimp only
    rw [hlength, hintegrity, ← hcheck, ← hsplit]
  · have hle := UInt64.le_iff_toNat_le.mp hbound
    rw [UInt32.toNat_toUInt64, ← hpayload] at hle
    exact hle

theorem readMessage_ok {accepts : MessageId → Checked Unit}
    (h : readMessage accepts maxFrameBytes frameTimeoutMs arrivals = (.ok message, rest)) :
    streamed arrivals = frameOf message ++ streamed rest ∧ Framable maxFrameBytes message := by
  unfold readMessage at h
  dsimp only at h
  split at h
  · cases h
  rename_i hheader
  obtain ⟨hread, hlength⟩ := socketRecvExact_ok (Nat.zero_le _) hheader
  split at h
  · cases h
  rename_i id length hdecoded
  split at h
  · cases h
  split at h
  · cases h
  rename_i hpayload
  obtain ⟨hread', hlength'⟩ := socketRecvExact_ok (Nat.zero_le _) hpayload
  split at h
  · cases h
  rename_i hverified
  cases h
  obtain ⟨hframe, hframable⟩ := frameOf_of_checked hlength hdecoded hlength' hverified
  rw [List.nil_append] at hread hread'
  exact ⟨by rw [hread, hread', ← List.append_assoc, hframe], hframable⟩

theorem readMessage_whole {accepts : MessageId → Checked Unit} (accepted : accepts message.1 = .ok ())
    (timely : Timely arrivals) (framable : Framable maxFrameBytes message)
    (framed : streamed arrivals = frameOf message ++ bytes) :
    ∃ rest, readMessage accepts maxFrameBytes frameTimeoutMs arrivals = (.ok message, rest) ∧ Timely rest ∧
      streamed rest = bytes := by
  have hsize := frameOf_length message
  have hbytes : streamed arrivals = (frameOf message).take frameHeaderSize ++ (message.2 ++ bytes) := by
    have hparts := List.take_append_drop frameHeaderSize (frameOf message)
    rw [frameOf_payload] at hparts
    rw [framed, ← List.append_assoc, hparts]
  have hlong : ((frameOf message).take frameHeaderSize).length = frameHeaderSize := by
    rw [List.length_take]
    omega
  obtain ⟨afterHeader, hheader, htimely, hrest⟩ :=
    (@socketRecvExact_timely frameTimeoutMs frameHeaderSize [] arrivals timely (Nat.zero_le _)).1 (by
      rw [List.nil_append, hbytes, List.length_append]
      omega)
  rw [List.nil_append, hbytes, List.take_left' hlong] at hheader
  rw [List.nil_append, hbytes, List.drop_left' hlong] at hrest
  obtain ⟨afterPayload, hpayload, htimely', hrest'⟩ :=
    (@socketRecvExact_timely frameTimeoutMs (UInt32.ofNat message.2.length).toNat [] afterHeader htimely
      (Nat.zero_le _)).1 (by
        rw [List.nil_append, hrest, framable.length, List.length_append]
        omega)
  rw [List.nil_append, hrest, framable.length, List.take_left] at hpayload
  rw [List.nil_append, hrest, framable.length, List.drop_left] at hrest'
  refine ⟨afterPayload, ?_, htimely', hrest'⟩
  unfold readMessage
  simp only [hheader, framable.header, accepted, framable.length, hpayload, frameOf_verified]

theorem readFrame_frame (h : readFrame maxFrameBytes frameTimeoutMs arrivals = (received message, rest)) :
    streamed arrivals = frameOf message ++ streamed rest ∧ Framable maxFrameBytes message := by
  unfold readFrame at h
  dsimp only at h
  split at h
  · rename_i carrier hread
    obtain ⟨messageId, carried⟩ := message
    cases h
    exact readMessage_ok (Prod.ext hread rfl)
  · rename_i failure hread
    have hreceived := congrArg Prod.fst h
    cases failure with
    | header got outcome =>
        dsimp only [FrameFailure.received] at hreceived
        split_ifs at hreceived
        all_goals cases hreceived
    | refused outcome => cases hreceived
    | payload outcome => cases hreceived

theorem readFrame_whole (timely : Timely arrivals) (framable : Framable maxFrameBytes message)
    (framed : streamed arrivals = frameOf message ++ bytes) :
    ∃ rest, readFrame maxFrameBytes frameTimeoutMs arrivals = (received message, rest) ∧ Timely rest ∧
      streamed rest = bytes := by
  obtain ⟨rest, hread, hrest⟩ :=
    @readMessage_whole _ frameTimeoutMs _ _ _ (fun _ => .ok ()) rfl timely framable framed
  refine ⟨rest, ?_, hrest⟩
  rw [readFrame, hread]

/-- A rejection that says nothing but its code and its detail. -/
def Refusal (outcome : FabricOutcome) : Prop :=
  outcome.succeeded = false ∧ outcome = makeRejection outcome.code outcome.detail

end Frames

end MultipathFabric
