/-
This file models the frame codec of the client and the encoder of the Gateway,
and proves the round trip, and what the cut into chunks changes on any stream.

A frame is a service id and a payload size, both four bytes most significant
first, and the payload. `TcpFrameCodec::Encode` writes them through a data stream;
`EncodeFrame` of the Gateway turns the numbers into network order and copies them
from memory, so its model has the byte order of the host as a parameter.
`TcpFrameCodec::Feed` appends what the socket delivered to a buffer and takes
complete frames off its front. A failure drops the frames of the call that meets it,
so on a stream with an oversized frame the cut decides which frames before it are seen.
-/

import Mathlib
import Wimi.Lib.Bytes
import Wimi.Lib.Framing

namespace Wimi.Client

open List Option Bytes Framing Decoder

/-! ### Encoding -/

structure TcpFrame where
  serviceId : UInt32
  payload : List UInt8
deriving DecidableEq, Repr

namespace TcpFrameCodec

def kHeaderSize : Nat := 8

def kMaximumPayloadSize : Nat := 10 * 1024 * 1024

def writeUInt32 (value : UInt32) : List UInt8 := toBigEndian 4 value.toNat

def encode (serviceId : UInt32) (payload : List UInt8) : List UInt8 :=
  writeUInt32 serviceId ++ writeUInt32 (UInt32.ofNat payload.length) ++ payload

end TcpFrameCodec

/-- The byte order of the machine the Gateway runs on. -/
inductive ByteOrder where
  | little
  | big
deriving DecidableEq, Repr

namespace ByteOrder

def memory : ByteOrder → UInt32 → List UInt8
  | .little, value => (toBigEndian 4 value.toNat).reverse
  | .big, value => toBigEndian 4 value.toNat

/-- `htonl`: on a little-endian machine the four bytes change places. -/
def htonl : ByteOrder → UInt32 → UInt32
  | .little, value => UInt32.ofNat (ofBigEndian (toBigEndian 4 value.toNat).reverse)
  | .big, value => value

theorem memory_htonl (order : ByteOrder) (value : UInt32) :
    order.memory (order.htonl value) = toBigEndian 4 value.toNat := by
  cases order with
  | big => rfl
  | little =>
    have width : (toBigEndian 4 value.toNat).reverse.length = 4 := by simp
    have small : ofBigEndian (toBigEndian 4 value.toNat).reverse < 2 ^ 32 := by
      have bound := ofBigEndian_lt (toBigEndian 4 value.toNat).reverse
      rwa [width] at bound
    have kept := toBigEndian_ofBigEndian (toBigEndian 4 value.toNat).reverse
    rw [width] at kept
    rw [htonl, memory, UInt32.toNat_ofNat_of_lt' small, kept, reverse_reverse]

end ByteOrder

def encodeFrame (order : ByteOrder) (protocolId : UInt32) (payload : List UInt8) : List UInt8 :=
  let wireId := order.htonl protocolId
  let wireSize := order.htonl (UInt32.ofNat payload.length)
  order.memory wireId ++ order.memory wireSize ++ payload

theorem encodeFrame_eq (order : ByteOrder) (protocolId : UInt32) (payload : List UInt8) :
    encodeFrame order protocolId payload = TcpFrameCodec.encode protocolId payload := by
  simp only [encodeFrame, ByteOrder.memory_htonl, TcpFrameCodec.encode,
    TcpFrameCodec.writeUInt32]

variable {buffer rest : List UInt8} {error : String} {frame : TcpFrame} {frames : List TcpFrame}

namespace TcpFrameCodec

/-! ### Decoding -/

def readUInt32 (bytes : List UInt8) : Option (UInt32 × List UInt8) :=
  if bytes.length < 4 then none
  else some (UInt32.ofNat (ofBigEndian (bytes.take 4)), bytes.drop 4)

def readHeader (bytes : List UInt8) : Option (UInt32 × UInt32) := do
  let serviceId ← readUInt32 bytes
  let payloadSize ← readUInt32 serviceId.2
  return (serviceId.1, payloadSize.1)

/-- One turn of the loop of `Feed`. -/
def look (buffer : List UInt8) : Look UInt8 TcpFrame String :=
  if buffer.length < kHeaderSize then .more
  else
    match readHeader (buffer.take kHeaderSize) with
    | none => .error "invalid TCP frame header"
    | some (serviceId, payloadSize) =>
      if payloadSize.toNat > kMaximumPayloadSize then .error "TCP frame payload exceeds 10 MiB"
      else
        let totalSize := kHeaderSize + payloadSize.toNat
        if buffer.length < totalSize then .more
        else
          .frame { serviceId := serviceId
                   payload := (buffer.drop kHeaderSize).take payloadSize.toNat }
            (buffer.drop totalSize)

theorem readUInt32_of_le {bytes : List UInt8} (enough : 4 ≤ bytes.length) :
    readUInt32 bytes = some (UInt32.ofNat (ofBigEndian (bytes.take 4)), bytes.drop 4) :=
  if_neg (by omega)

theorem exists_readHeader (enough : kHeaderSize ≤ buffer.length) :
    ∃ serviceId payloadSize,
      readHeader (buffer.take kHeaderSize) = some (serviceId, payloadSize) := by
  have width : (buffer.take kHeaderSize).length = 8 := by simpa [kHeaderSize] using enough
  have rest : 4 ≤ ((buffer.take kHeaderSize).drop 4).length := by
    rw [length_drop]
    omega
  simp only [readHeader, readUInt32_of_le (show 4 ≤ (buffer.take kHeaderSize).length by omega),
    readUInt32_of_le rest, bind_eq_bind, bind_some]
  exact ⟨_, _, rfl⟩

/-- What one turn of the loop can do with a header in the buffer. -/
theorem look_of_header (enough : kHeaderSize ≤ buffer.length) {serviceId payloadSize : UInt32}
    (header : readHeader (buffer.take kHeaderSize) = some (serviceId, payloadSize)) :
    look buffer =
      if payloadSize.toNat > kMaximumPayloadSize then .error "TCP frame payload exceeds 10 MiB"
      else if buffer.length < kHeaderSize + payloadSize.toNat then .more
      else .frame ⟨serviceId, (buffer.drop kHeaderSize).take payloadSize.toNat⟩
        (buffer.drop (kHeaderSize + payloadSize.toNat)) := by
  rw [look, if_neg (by omega), header]

theorem header_of_look (acts : look buffer ≠ .more) :
    kHeaderSize ≤ buffer.length ∧ ∃ serviceId payloadSize,
      readHeader (buffer.take kHeaderSize) = some (serviceId, payloadSize) := by
  have enough : kHeaderSize ≤ buffer.length := by
    by_contra short
    exact acts (by rw [look, if_pos (by omega)])
  exact ⟨enough, exists_readHeader enough⟩

theorem readHeader_append (enough : kHeaderSize ≤ buffer.length) (later : List UInt8) :
    readHeader ((buffer ++ later).take kHeaderSize) = readHeader (buffer.take kHeaderSize) := by
  rw [take_append_of_le_length enough]

theorem look_frame (takes : look buffer = .frame frame rest) :
    rest.length < buffer.length ∧
      ∀ later, look (buffer ++ later) = .frame frame (rest ++ later) := by
  have acts : look buffer ≠ .more := by
    rw [takes]
    nofun
  obtain ⟨enough, serviceId, payloadSize, header⟩ := header_of_look acts
  rw [look_of_header enough header] at takes
  split_ifs at takes with tooLarge short
  cases takes
  have bound : kHeaderSize + payloadSize.toNat ≤ buffer.length := by omega
  refine ⟨?_, fun later => ?_⟩
  · rw [length_drop]
    simp only [kHeaderSize] at enough ⊢
    omega
  rw [look_of_header (by rw [length_append]; omega)
    ((readHeader_append enough later).trans header), if_neg tooLarge,
    if_neg (by rw [length_append]; omega), drop_append_of_le_length bound,
    drop_append_of_le_length enough,
    take_append_of_le_length (by rw [length_drop]; omega)]

theorem look_error (fails : look buffer = .error error) (later : List UInt8) :
    look (buffer ++ later) = .error error := by
  have acts : look buffer ≠ .more := by
    rw [fails]
    nofun
  obtain ⟨enough, serviceId, payloadSize, header⟩ := header_of_look acts
  rw [look_of_header enough header] at fails
  split_ifs at fails with tooLarge short
  rw [look_of_header (by rw [length_append]; omega)
    ((readHeader_append enough later).trans header), if_pos tooLarge]
  exact fails

def decoder : Decoder UInt8 TcpFrame String where
  look := look
  shorter takes := (look_frame takes).1
  frame_append takes := (look_frame takes).2
  error_append := look_error

end TcpFrameCodec

structure TcpFrameCodec where
  buffer : List UInt8 := []
  error : String := ""
deriving DecidableEq, Repr

namespace TcpFrameCodec

def hasError (codec : TcpFrameCodec) : Bool := codec.error ≠ ""

def feed (codec : TcpFrameCodec) (bytes : List UInt8) : List TcpFrame × TcpFrameCodec :=
  if codec.hasError then ([], codec)
  else
    match decoder.drain (codec.buffer ++ bytes) with
    | (frames, .ok buffer) => (frames, { codec with buffer })
    | (_, .error error) => ([], { buffer := [], error })

def feedAll (codec : TcpFrameCodec) : List (List UInt8) → List TcpFrame × TcpFrameCodec
  | [] => ([], codec)
  | chunk :: chunks =>
    let (frames, fed) := codec.feed chunk
    let (later, final) := fed.feedAll chunks
    (frames ++ later, final)

theorem feedAll_singleton (codec : TcpFrameCodec) (chunk : List UInt8) :
    codec.feedAll [chunk] = codec.feed chunk := by
  simp only [feedAll, append_nil]

/-! ### The round trip -/

theorem feedAll_of_drain (chunks : List (List UInt8))
    (drained : decoder.drain (buffer ++ chunks.flatten) = (frames, .ok rest))
    (waits : decoder.drain buffer = ([], .ok buffer)) :
    feedAll { buffer } chunks = (frames, { buffer := rest }) := by
  induction chunks generalizing buffer frames with
  | nil =>
    rw [flatten_nil, append_nil, waits] at drained
    cases drained
    rfl
  | cons chunk chunks inductionHypothesis =>
    rw [flatten_cons, ← append_assoc] at drained
    obtain ⟨first, left, front, second, rfl, later⟩ := drain_front drained
    have fed : feed { buffer } chunk = (first, { buffer := left }) := by
      simp only [feed, hasError, ne_eq, not_true_eq_false, decide_false, Bool.false_eq_true,
        if_false, front]
    simp only [feedAll, fed, inductionHypothesis later (drain_left front)]

theorem length_writeUInt32 (value : UInt32) : (writeUInt32 value).length = 4 :=
  length_toBigEndian 4 value.toNat

theorem readUInt32_writeUInt32 (value : UInt32) (rest : List UInt8) :
    readUInt32 (writeUInt32 value ++ rest) = some (value, rest) := by
  have width := length_writeUInt32 value
  rw [readUInt32_of_le (by rw [length_append]; omega), take_left' width,
    drop_left' width, writeUInt32, ofBigEndian_toBigEndian,
    Nat.mod_eq_of_lt (show value.toNat < 256 ^ 4 by simpa using value.toNat_lt),
    UInt32.ofNat_toNat]

theorem toNat_payloadSize {payload : List UInt8} (small : payload.length ≤ kMaximumPayloadSize) :
    (UInt32.ofNat payload.length).toNat = payload.length :=
  UInt32.toNat_ofNat_of_lt' (lt_of_le_of_lt small (by decide))

theorem length_encode (frame : TcpFrame) :
    (encode frame.serviceId frame.payload).length = kHeaderSize + frame.payload.length := by
  simp only [encode, length_append, length_writeUInt32, kHeaderSize]

theorem readHeader_encode (serviceId payloadSize : UInt32) (rest : List UInt8) :
    readHeader ((writeUInt32 serviceId ++ writeUInt32 payloadSize ++ rest).take kHeaderSize) =
      some (serviceId, payloadSize) := by
  have width : (writeUInt32 serviceId ++ writeUInt32 payloadSize).length = kHeaderSize := by
    simp only [length_append, length_writeUInt32, kHeaderSize]
  have size := readUInt32_writeUInt32 payloadSize []
  rw [append_nil] at size
  simp only [take_left' width, readHeader, readUInt32_writeUInt32, bind_eq_bind,
    bind_some, size, Option.pure_def]

theorem look_encode (small : frame.payload.length ≤ kMaximumPayloadSize) (later : List UInt8) :
    look (encode frame.serviceId frame.payload ++ later) = .frame frame later := by
  have size := toNat_payloadSize small
  have width := length_encode frame
  have header : readHeader
      ((encode frame.serviceId frame.payload ++ later).take kHeaderSize) =
        some (frame.serviceId, UInt32.ofNat frame.payload.length) := by
    exact readHeader_encode _ _ _
  rw [look_of_header (by rw [length_append]; omega) header, size,
    if_neg (by omega), if_neg (by rw [length_append]; omega), drop_left' width]
  have payload : ((encode frame.serviceId frame.payload ++ later).drop kHeaderSize).take
      frame.payload.length = frame.payload := by
    rw [encode, append_assoc, drop_left' (by simp [length_writeUInt32, kHeaderSize]),
      take_left]
  rw [payload]

theorem look_of_incomplete (small : frame.payload.length ≤ kMaximumPayloadSize) {tail : List UInt8}
    (front : tail <+: encode frame.serviceId frame.payload)
    (proper : tail ≠ encode frame.serviceId frame.payload) : look tail = .more := by
  obtain ⟨missing, whole⟩ := front
  have lacks : tail.length < kHeaderSize + frame.payload.length := by
    have lengths := congrArg length whole
    rw [length_encode, length_append] at lengths
    have some : missing ≠ [] := fun none => proper (by rw [← whole, none, append_nil])
    have := length_pos_iff.mpr some
    omega
  by_cases enough : kHeaderSize ≤ tail.length
  · have header : readHeader (tail.take kHeaderSize) =
        some (frame.serviceId, UInt32.ofNat frame.payload.length) := by
      rw [← readHeader_append enough missing, whole]
      exact readHeader_encode _ _ _
    rw [look_of_header enough header, toNat_payloadSize small, if_neg (by omega),
      if_pos lacks]
  · rw [look, if_pos (by omega)]

/-- Whatever the chunks, a fresh codec gives back the frames that were encoded, and keeps a
part of a further frame for later. -/
theorem feedAll_encode (small : ∀ frame ∈ frames, frame.payload.length ≤ kMaximumPayloadSize)
    {tail : List UInt8} (asks : look tail = .more) {chunks : List (List UInt8)}
    (cut : chunks.flatten =
      (frames.flatMap fun frame => encode frame.serviceId frame.payload) ++ tail) :
    feedAll {} chunks = (frames, { buffer := tail }) := by
  have empty : decoder.drain [] = ([], .ok []) := drain_of_more rfl
  refine feedAll_of_drain chunks ?_ empty
  rw [cut]
  have encoded : ∀ frame ∈ frames, ∀ later,
      decoder.look (encode frame.serviceId frame.payload ++ later) = .frame frame later := by
    intro frame member later
    exact look_encode (small frame member) later
  exact drain_encoded encoded asks

/-- The codec round trip under any segmentation, with either encoder. -/
theorem frame_codec_round_trip {frames : List TcpFrame}
    (small : ∀ frame ∈ frames, frame.payload.length ≤ kMaximumPayloadSize) :
    (∀ order serviceId payload, encodeFrame order serviceId payload = encode serviceId payload) ∧
      (∀ chunks : List (List UInt8),
        chunks.flatten = (frames.flatMap fun frame => encode frame.serviceId frame.payload) →
          feedAll {} chunks = (frames, {})) ∧
      ∀ further : TcpFrame, further.payload.length ≤ kMaximumPayloadSize →
        ∀ tail, tail <+: encode further.serviceId further.payload →
          tail ≠ encode further.serviceId further.payload →
          ∀ chunks : List (List UInt8),
            chunks.flatten =
              (frames.flatMap fun frame => encode frame.serviceId frame.payload) ++ tail →
            feedAll {} chunks = (frames, { buffer := tail }) := by
  refine ⟨encodeFrame_eq, fun chunks cut => ?_, fun further fits tail front proper chunks cut => ?_⟩
  · have asks : look [] = .more := rfl
    exact feedAll_encode small asks (by rw [cut, append_nil])
  · exact feedAll_encode small (look_of_incomplete fits front proper) cut

/-- Two frames cut inside both headers, with an empty chunk between, and the start of a third. -/
theorem frame_codec_round_trip_cut :
    feedAll {} [[0], [], [0, 4, 3, 0, 0, 0, 2, 7], [9, 0, 0, 4, 9, 0, 0], [0, 0]] =
        ([⟨1027, [7, 9]⟩, ⟨1033, []⟩], {}) ∧
      feedAll {} [[0], [], [0, 4, 3, 0, 0, 0, 2, 7], [9, 0, 0, 4, 9, 0, 0], [0, 0, 0, 0]] =
        ([⟨1027, [7, 9]⟩, ⟨1033, []⟩], { buffer := [0, 0] }) := by
  have small : ∀ frame ∈ [(⟨1027, [7, 9]⟩ : TcpFrame), ⟨1033, []⟩],
      frame.payload.length ≤ kMaximumPayloadSize := by decide
  exact ⟨(frame_codec_round_trip small).2.1 _ (by decide),
    (frame_codec_round_trip small).2.2 ⟨1027, []⟩ (by decide) [0, 0] (by decide) (by decide) _
      (by decide)⟩

/-! ### Any stream -/

theorem look_error_ne_empty (fails : look buffer = .error error) : error ≠ "" := by
  have acts : look buffer ≠ .more := by
    rw [fails]
    nofun
  obtain ⟨enough, serviceId, payloadSize, header⟩ := header_of_look acts
  rw [look_of_header enough header] at fails
  split_ifs at fails
  cases fails
  decide

theorem drain_error_ne_empty (drained : (decoder.drain buffer).2 = .error error) : error ≠ "" := by
  induction buffer using drain.induct decoder with
  | case1 buffer asks =>
    rw [drain_of_more asks] at drained
    cases drained
  | case2 buffer other fails =>
    rw [drain_of_error fails] at drained
    cases drained
    exact look_error_ne_empty fails
  | case3 buffer frame left takes inductionHypothesis =>
    rw [drain_of_frame takes] at drained
    exact inductionHypothesis drained

section Feed

variable {codec : TcpFrameCodec} {bytes : List UInt8}

theorem feed_of_hasError (failed : codec.hasError) : codec.feed bytes = ([], codec) :=
  if_pos failed

theorem feed_of_ok (fine : ¬ codec.hasError)
    (drained : decoder.drain (codec.buffer ++ bytes) = (frames, .ok rest)) :
    codec.feed bytes = (frames, { codec with buffer := rest }) := by
  rw [feed, if_neg fine, drained]

theorem feed_of_error (fine : ¬ codec.hasError)
    (drained : decoder.drain (codec.buffer ++ bytes) = (frames, .error error)) :
    codec.feed bytes = ([], { buffer := [], error }) := by
  rw [feed, if_neg fine, drained]

theorem feed_of_hasError_after (failed : (codec.feed bytes).2.hasError) :
    (codec.feed bytes).1 = [] := by
  by_cases before : codec.hasError
  · rw [feed_of_hasError before]
  rcases drained : decoder.drain (codec.buffer ++ bytes) with ⟨frames, error | rest⟩
  · rw [feed_of_error before drained]
  · rw [feed_of_ok before drained] at failed
    exact absurd failed before

theorem feed_feed (codec : TcpFrameCodec) (first second : List UInt8) :
    ((codec.feed first).2.feed second).2 = (codec.feed (first ++ second)).2 ∧
      (codec.feed (first ++ second)).1 =
        if (codec.feed (first ++ second)).2.hasError then []
        else (codec.feed first).1 ++ ((codec.feed first).2.feed second).1 := by
  by_cases before : codec.hasError
  · simp only [feed_of_hasError before, before, if_true, and_self]
  rcases drained : decoder.drain (codec.buffer ++ first) with ⟨frames, error | rest⟩
  · have failed : TcpFrameCodec.hasError { buffer := [], error } :=
      decide_eq_true (drain_error_ne_empty (congrArg Prod.snd drained))
    have whole := drain_append_error (congrArg Prod.snd drained) second
    rw [append_assoc] at whole
    rw [feed_of_error before drained, feed_of_hasError failed,
      feed_of_error before (Prod.ext rfl whole), if_pos failed]
    exact ⟨rfl, rfl⟩
  have whole := drain_append drained second
  rw [append_assoc] at whole
  have fine : ¬ TcpFrameCodec.hasError { codec with buffer := rest } := before
  rw [feed_of_ok before drained]
  rcases later : decoder.drain (rest ++ second) with ⟨others, error | left⟩
  · rw [later] at whole
    have failed : TcpFrameCodec.hasError { buffer := [], error } :=
      decide_eq_true (drain_error_ne_empty (congrArg Prod.snd later))
    rw [feed_of_error before whole, feed_of_error fine later, if_pos failed]
    exact ⟨rfl, rfl⟩
  rw [later] at whole
  rw [feed_of_ok before whole, feed_of_ok fine later]
  exact ⟨rfl, (if_neg fine).symm⟩

end Feed

/-- However a stream is cut, the codec ends with the same buffer and the same error; without an
error it emits the same frames. -/
theorem feedAll_cons_eq_feed (codec : TcpFrameCodec) (chunk : List UInt8)
    (chunks : List (List UInt8)) :
    (codec.feedAll (chunk :: chunks)).2 = (codec.feed (chunk ++ chunks.flatten)).2 ∧
      (codec.feed (chunk ++ chunks.flatten)).1 =
        if (codec.feed (chunk ++ chunks.flatten)).2.hasError then []
        else (codec.feedAll (chunk :: chunks)).1 := by
  induction chunks generalizing codec chunk with
  | nil => grind [feedAll_singleton, flatten_nil, feed_of_hasError_after]
  | cons next chunks inductionHypothesis =>
    obtain ⟨ends, emits⟩ := inductionHypothesis (codec.feed chunk).2 next
    obtain ⟨joined, frames⟩ := codec.feed_feed chunk (next ++ chunks.flatten)
    have unfolded : codec.feedAll (chunk :: next :: chunks) =
        ((codec.feed chunk).1 ++ ((codec.feed chunk).2.feedAll (next :: chunks)).1,
          ((codec.feed chunk).2.feedAll (next :: chunks)).2) := rfl
    rw [unfolded, flatten_cons]
    refine ⟨ends.trans joined, frames.trans ?_⟩
    split
    next => rfl
    next fine => rw [emits, joined, if_neg fine]

/-- Feeding two strings one after the other or as one leaves the same buffer and error. The
frames are the same unless the stream ends in an error: then the one call emits nothing, and the
two calls emit the frames that the first string completes. -/
theorem feed_segmentation (codec : TcpFrameCodec) (first second : List UInt8) :
    (codec.feedAll [first, second]).2 = (codec.feed (first ++ second)).2 ∧
      (codec.feed (first ++ second)).1 =
        (if (codec.feed (first ++ second)).2.hasError then []
          else (codec.feedAll [first, second]).1) ∧
      ((codec.feed (first ++ second)).2.hasError →
        (codec.feedAll [first, second]).1 = (codec.feed first).1) := by
  obtain ⟨ends, emits⟩ := codec.feedAll_cons_eq_feed first [second]
  rw [flatten_cons, flatten_nil, append_nil] at ends emits
  refine ⟨ends, emits, fun failed => ?_⟩
  rw [← (codec.feed_feed first second).1] at failed
  change (codec.feed first).1 ++ ((codec.feed first).2.feedAll [second]).1 = _
  rw [feedAll_singleton, feed_of_hasError_after failed, append_nil]

/-- An empty frame, and behind it the header of a payload one byte too large. -/
theorem frame_before_oversized_lost :
    feedAll {} [encode 1033 [], writeUInt32 1027 ++ writeUInt32 10485761] =
        ([⟨1033, []⟩], { error := "TCP frame payload exceeds 10 MiB" }) ∧
      feed {} (encode 1033 [] ++ (writeUInt32 1027 ++ writeUInt32 10485761)) =
        ([], { error := "TCP frame payload exceeds 10 MiB" }) := by
  have small : (⟨1033, []⟩ : TcpFrame).payload.length ≤ kMaximumPayloadSize := by decide
  have oversized : decoder.drain (writeUInt32 1027 ++ writeUInt32 10485761) =
      ([], .error "TCP frame payload exceeds 10 MiB") := drain_of_error rfl
  have complete : decoder.drain (encode 1033 []) = ([⟨1033, []⟩], .ok []) := by
    have takes := look_encode small []
    have nothing : decoder.drain [] = ([], .ok []) := drain_of_more rfl
    rw [drain_of_frame takes, nothing]
  have whole := drain_append complete (writeUInt32 1027 ++ writeUInt32 10485761)
  rw [nil_append, oversized] at whole
  have fresh : ¬ TcpFrameCodec.hasError {} := by decide
  constructor
  · have fed : feed {} (encode 1033 []) = ([⟨1033, []⟩], {}) := feed_of_ok fresh complete
    have failed : feed {} (writeUInt32 1027 ++ writeUInt32 10485761) =
        ([], { error := "TCP frame payload exceeds 10 MiB" }) := feed_of_error fresh oversized
    rw [feedAll, fed]
    dsimp only
    rw [feedAll_singleton, failed, append_nil]
  · exact feed_of_error fresh whole

end TcpFrameCodec

end Wimi.Client
