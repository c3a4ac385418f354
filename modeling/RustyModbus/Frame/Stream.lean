import RustyModbus.Frame.Strict

/-!
# The frame codecs as stream codecs

The three codecs of the frame layer, the RTU-over-TCP ones with their configured policy and
direction, behind one type. Each decodes through a decoder whose answers are final, so what is
received does not depend on how the stream was cut.

Encoding a list of frames and decoding the bytes gives the list back over MBAP. With the
compatibility policy it does so unless the ADU of some frame has a shorter prefix that happens
to verify (`Ambiguous`): the decoder cannot tell that prefix from a frame and takes it.
-/

namespace RustyModbus

open Wire Stream

inductive FramingPolicy
  | crcScanCompatibility
  | functionAwareStrict
deriving DecidableEq, Repr

inductive FrameCodec
  | mbap
  | rtuOverTcp
  | configuredRtuOverTcp (policy : FramingPolicy) (direction : Direction)
deriving DecidableEq, Repr

namespace FrameCodec

def decode : FrameCodec → List UInt8 → DecodeResult
  | mbap => MbapCodec.decode
  | rtuOverTcp => decodeCompatibility
  | configuredRtuOverTcp .crcScanCompatibility _ => decodeCompatibility
  | configuredRtuOverTcp .functionAwareStrict direction => decodeStrict direction

def encode : FrameCodec → Frame → List UInt8 → Except FrameError Unit × List UInt8
  | mbap => MbapCodec.encode
  | rtuOverTcp | configuredRtuOverTcp _ _ => encodeFrame

/-- Encode frames one after another into one buffer, up to the first that is refused. -/
def encodeAll (c : FrameCodec) : List Frame → List UInt8 → Except FrameError Unit × List UInt8
  | [], dst => (.ok (), dst)
  | f :: fs, dst =>
    match c.encode f dst with
    | (.error e, dst) => (.error e, dst)
    | (.ok (), dst) => c.encodeAll fs dst

def decoder : FrameCodec → Decoder UInt8 Frame (Fault FrameError)
  | mbap => mbapDecoder
  | rtuOverTcp => compatibilityDecoder
  | configuredRtuOverTcp .crcScanCompatibility _ => compatibilityDecoder
  | configuredRtuOverTcp .functionAwareStrict direction => strictDecoder direction

theorem decoder_decode (c : FrameCodec) : c.decoder.decode = c.decode := by
  cases c with
  | mbap => rfl
  | rtuOverTcp => rfl
  | configuredRtuOverTcp policy direction =>
    cases policy with
    | crcScanCompatibility => rfl
    | functionAwareStrict => rfl

/-! ## Chunking -/

/-- However the stream is cut, a codec yields the frames, the first error and the leftover
bytes of decoding it in one piece; a call without a frame leaves the buffer as it was. -/
theorem feed_chunks_eq (c : FrameCodec) :
    c.decoder.decode = c.decode ∧
    (∀ chunks, c.decoder.feedAll chunks = c.decoder.drain chunks.flatten) ∧
    (∀ src rest, c.decode src = (.ok none, rest) → rest = src) ∧
    (∀ src e rest, c.decode src = (.error e, rest) → rest = src) := by
  refine ⟨c.decoder_decode, c.decoder.feedAll_eq_drain, ?_, ?_⟩
  · rw [← c.decoder_decode]
    exact c.decoder.keeps_none
  · rw [← c.decoder_decode]
    exact c.decoder.keeps_error

/-- A frame cut inside its header, and the call in between. -/
theorem feed_chunks_eq_mbap :
    mbap.decoder.feedAll [[0, 1, 0], [0, 0, 2, 9, 7]]
      = mbap.decoder.drain [0, 1, 0, 0, 0, 2, 9, 7] ∧
    mbap.decode [0, 1, 0] = (.ok none, [0, 1, 0]) ∧
    ∀ rest, mbap.decode [0, 1, 0] = (.ok none, rest) → rest = [0, 1, 0] :=
  ⟨(feed_chunks_eq mbap).2.1 _, rfl, (feed_chunks_eq mbap).2.2.1 [0, 1, 0]⟩

/-! ## Round trips -/

variable {c : FrameCodec}

/-- If every frame is accepted and adds its bytes, a list of frames adds them in order. -/
theorem encodeAll_eq {wire : Frame → List UInt8} {fs : List Frame}
    (h : ∀ f ∈ fs, ∀ dst, c.encode f dst = (.ok (), dst ++ wire f)) (dst : List UInt8) :
    c.encodeAll fs dst = (.ok (), dst ++ fs.flatMap wire) := by
  induction fs generalizing dst with
  | nil => simp [encodeAll]
  | cons f fs ih =>
    rw [encodeAll, h f (by simp)]
    dsimp only
    rw [ih fun g hg => h g (List.mem_cons_of_mem f hg)]
    simp

/-- A refused frame leaves the destination alone. -/
theorem encode_error {f : Frame} {dst dst' : List UInt8} {e : FrameError}
    (h : c.encode f dst = (.error e, dst')) : dst' = dst := by
  cases c with
  | mbap => exact MbapCodec.encode_error h
  | rtuOverTcp | configuredRtuOverTcp _ _ => exact encodeFrame_error h

/-- The codecs with the compatibility policy. -/
def IsCompatibility : FrameCodec → Prop
  | rtuOverTcp | configuredRtuOverTcp .crcScanCompatibility _ => True
  | _ => False

theorem IsCompatibility.decoder_eq (h : c.IsCompatibility) : c.decoder = compatibilityDecoder := by
  cases c with
  | mbap => exact absurd h id
  | rtuOverTcp => rfl
  | configuredRtuOverTcp policy direction =>
    cases policy with
    | crcScanCompatibility => rfl
    | functionAwareStrict => exact absurd h id

theorem IsCompatibility.encode_eq (h : c.IsCompatibility) : c.encode = encodeFrame := by
  cases c with
  | mbap => exact absurd h id
  | rtuOverTcp | configuredRtuOverTcp _ _ => rfl

end FrameCodec

namespace Frame

/-- A frame for MBAP: protocol identifier zero and a length field that matches the PDU. -/
def MbapSendable (f : Frame) : Prop :=
  ∃ h, f.header = .mbap h ∧ h.protocolId = 0 ∧ 1 ≤ f.pdu.length ∧ f.pdu.length ≤ 253 ∧
    h.length.toNat = f.pdu.length + 1

/-- A frame for RTU. -/
def RtuSendable (f : Frame) : Prop :=
  ∃ unitId, f.header = .rtu unitId ∧ 1 ≤ f.pdu.length ∧ f.pdu.length ≤ 253

def mbapWire (f : Frame) : List UInt8 :=
  match f.header with
  | .mbap h => h.asBytes ++ f.pdu
  | .rtu _ => []

def adu (f : Frame) : List UInt8 := rtuAdu f.unitId f.pdu

/-- Some proper prefix of the ADU is long enough for a frame and verifies. -/
def Ambiguous (f : Frame) : Prop :=
  ∃ k, k < f.adu.length ∧ 4 ≤ k ∧ verifyCrc (f.adu.take k) = true

instance (f : Frame) : Decidable f.Ambiguous :=
  inferInstanceAs (Decidable (∃ k, k < f.adu.length ∧ 4 ≤ k ∧ verifyCrc (f.adu.take k) = true))

variable {f : Frame}

theorem MbapSendable.encode_eq (h : f.MbapSendable) (dst : List UInt8) :
    MbapCodec.encode f dst = (.ok (), dst ++ f.mbapWire) := by
  obtain ⟨header, pdu⟩ := f
  obtain ⟨h, rfl, hs⟩ := h
  exact MbapCodec.encodeParts_of_sendable hs dst

theorem MbapSendable.decode_wire (h : f.MbapSendable) (rest : List UInt8) :
    mbapDecoder.decode (f.mbapWire ++ rest) = (.ok (some f), rest) := by
  obtain ⟨header, pdu⟩ := f
  obtain ⟨h, rfl, hs⟩ := h
  exact MbapCodec.decode_wire hs rest

theorem RtuSendable.encode_eq (h : f.RtuSendable) (dst : List UInt8) :
    encodeFrame f dst = (.ok (), dst ++ f.adu) := by
  obtain ⟨-, -, h1, h253⟩ := h
  exact encodeFrame_eq h1 h253 dst

theorem RtuSendable.rtuFrame_adu (h : f.RtuSendable) : rtuFrame f.adu = f := by
  obtain ⟨header, pdu⟩ := f
  obtain ⟨unitId, rfl, -⟩ := h
  exact rtuFrame_rtuAdu unitId pdu

/-- The whole ADU is the first prefix that verifies, unless a shorter one does. -/
theorem RtuSendable.firstValid (h : f.RtuSendable) (hamb : ¬f.Ambiguous) :
    FirstValid f.adu f.adu.length := by
  obtain ⟨-, -, h1, h253⟩ := h
  have hlen : f.adu.length = f.pdu.length + 3 := rtuAdu_length _ _
  refine ⟨by omega, by omega, Nat.le_refl _, ?_, ?_⟩
  · rw [List.take_length]
    exact verifyCrc_rtuAdu _ _
  · intro j hj hlt
    rw [← Bool.not_eq_true]
    exact fun hver => hamb ⟨j, hlt, hj, hver⟩

theorem RtuSendable.decode_adu (h : f.RtuSendable) (hamb : ¬f.Ambiguous) (rest : List UInt8) :
    compatibilityDecoder.decode (f.adu ++ rest) = (.ok (some f), rest) := by
  have hfirst : FirstValid (f.adu ++ rest) f.adu.length :=
    (FirstValid.append_iff (Nat.le_refl _)).mpr (h.firstValid hamb)
  have hdec := hfirst.decodeCompatibility_eq
  rw [List.take_left, List.drop_left, h.rtuFrame_adu] at hdec
  exact hdec

theorem rtuFrame_pdu_length (adu : List UInt8) : (rtuFrame adu).pdu.length = adu.length - 3 := by
  rw [rtuFrame, List.length_drop, List.length_take]
  omega

/-- What the MBAP decoder takes off a stream. -/
theorem MbapSendable.of_decode {src rest : List UInt8}
    (h : MbapCodec.decode src = (.ok (some f), rest)) : f.MbapSendable := by
  rw [MbapCodec.decode_eq_lengthDecode] at h
  obtain ⟨n, hn, hle, hparse, -⟩ := lengthDecode_eq_frame.mp h
  obtain ⟨h7, hproto, hmin, hmax, rfl⟩ := MbapCodec.aduLength_eq_some.mp hn
  cases hparse
  have hmin : 2 ≤ (MbapHeader.read src).length.toNat := Nat.not_lt.mp hmin
  have hmax : (MbapHeader.read src).length.toNat ≤ 254 := Nat.not_lt.mp hmax
  have hread : MbapHeader.read (src.take (6 + (MbapHeader.read src).length.toNat))
      = MbapHeader.read src := by
    have happend := @MbapHeader.read_append (src.take (6 + (MbapHeader.read src).length.toNat))
      (by rw [List.length_take]; omega) (src.drop (6 + (MbapHeader.read src).length.toNat))
    rw [List.take_append_drop] at happend
    exact happend.symm
  have hlen : ((src.take (6 + (MbapHeader.read src).length.toNat)).drop mbapHeaderLen).length + 1
      = (MbapHeader.read src).length.toNat := by
    rw [List.length_drop, List.length_take]
    show min _ _ - 7 + 1 = _
    omega
  refine ⟨MbapHeader.read src, congrArg FrameHeader.mbap hread, hproto, ?_, ?_, hlen.symm⟩
  all_goals dsimp only; omega

/-- What an RTU-over-TCP decoder takes off a stream, whatever its policy. -/
theorem RtuSendable.of_decode {policy : FramingPolicy} {direction : Direction}
    {src rest : List UInt8}
    (h : (FrameCodec.configuredRtuOverTcp policy direction).decode src = (.ok (some f), rest)) :
    f.RtuSendable := by
  have hcut : ∀ n, 4 ≤ n → n ≤ 256 → n ≤ src.length → f = rtuFrame (src.take n) →
      f.RtuSendable := by
    rintro n h4 h256 hle rfl
    have hlen := rtuFrame_pdu_length (src.take n)
    rw [List.length_take] at hlen
    exact ⟨_, rfl, by omega, by omega⟩
  cases policy with
  | crcScanCompatibility =>
    have h : decodeCompatibility src = (.ok (some f), rest) := h
    rw [decodeCompatibility_eq_lengthDecode] at h
    obtain ⟨n, hn, hle, hparse, -⟩ := lengthDecode_eq_frame.mp h
    cases hparse
    have hvalid := FirstValid.of_compatibilityLength hn
    exact hcut n hvalid.min hvalid.max hle rfl
  | functionAwareStrict =>
    have h : decodeStrict direction src = (.ok (some f), rest) := h
    rw [decodeStrict_eq_lengthDecode] at h
    obtain ⟨n, hn, hle, hparse, -⟩ := lengthDecode_eq_frame.mp h
    obtain ⟨-, hframe⟩ := check_bind_eq_ok.mp hparse
    cases hframe
    obtain ⟨h4, h256⟩ := strictAduLength_bounds hn
    exact hcut n h4 h256 hle rfl

/-- An ambiguous frame is cut at its first prefix that verifies. -/
theorem RtuSendable.cut_of_ambiguous (h : f.RtuSendable) (hamb : f.Ambiguous) :
    ∃ k, FirstValid f.adu k ∧ k < f.adu.length ∧ rtuFrame (f.adu.take k) ≠ f ∧
      ∀ rest, compatibilityDecoder.decode (f.adu ++ rest)
        = (.ok (some (rtuFrame (f.adu.take k))), f.adu.drop k ++ rest) := by
  obtain ⟨-, -, h1, h253⟩ := h
  obtain ⟨j, hj, h4, hver⟩ := hamb
  have hlen : f.adu.length = f.pdu.length + 3 := rtuAdu_length _ _
  obtain ⟨k, hkj, hk⟩ := FirstValid.exists_le h4 (by omega) (by omega) hver
  refine ⟨k, hk, by omega, fun heq => ?_, fun rest => ?_⟩
  · -- the frame that was cut off has a shorter PDU
    have hpdu := rtuFrame_pdu_length (f.adu.take k)
    rw [heq, List.length_take] at hpdu
    omega
  · have hfirst : FirstValid (f.adu ++ rest) k := (FirstValid.append_iff hk.le).mpr hk
    have hdec := hfirst.decodeCompatibility_eq
    rw [List.take_append_of_le_length hk.le, List.drop_append_of_le_length hk.le] at hdec
    exact hdec

end Frame

section RoundTrip

variable {fs : List Frame} {chunks : List (List UInt8)}

theorem mbap_round_trip (hfs : ∀ f ∈ fs, f.MbapSendable)
    (hchunks : chunks.flatten = fs.flatMap Frame.mbapWire) :
    mbapDecoder.feedAll chunks = ⟨fs, none, []⟩ := by
  have h := mbapDecoder.drain_flatMap (fun f hf => (hfs f hf).decode_wire) []
  rw [List.append_nil] at h
  rw [Decoder.feedAll_eq_drain, hchunks, h]
  simp

theorem compatibility_round_trip (hfs : ∀ f ∈ fs, f.RtuSendable)
    (hamb : ∀ f ∈ fs, ¬f.Ambiguous) (hchunks : chunks.flatten = fs.flatMap Frame.adu) :
    compatibilityDecoder.feedAll chunks = ⟨fs, none, []⟩ := by
  have h := compatibilityDecoder.drain_flatMap
    (fun f hf => (hfs f hf).decode_adu (hamb f hf)) []
  rw [List.append_nil] at h
  rw [Decoder.feedAll_eq_drain, hchunks, h]
  simp

/-- The frames before the first ambiguous one are received, then the prefix it is cut at. -/
theorem compatibility_cut {pre post : List Frame} {f : Frame}
    (hfs : ∀ g ∈ pre ++ f :: post, g.RtuSendable) (hpre : ∀ g ∈ pre, ¬g.Ambiguous)
    (hamb : f.Ambiguous) (hchunks : chunks.flatten = (pre ++ f :: post).flatMap Frame.adu) :
    ∃ k tail, FirstValid f.adu k ∧ k < f.adu.length ∧ rtuFrame (f.adu.take k) ≠ f ∧
      (compatibilityDecoder.feedAll chunks).frames
        = pre ++ rtuFrame (f.adu.take k) :: tail := by
  obtain ⟨k, hk, hlt, hne, hdec⟩ := (hfs f (by simp)).cut_of_ambiguous hamb
  have h := compatibilityDecoder.drain_flatMap
    (fun g hg => (hfs g (by simp [hg])).decode_adu (hpre g hg)) (f.adu ++ post.flatMap Frame.adu)
  rw [compatibilityDecoder.drain_frame (hdec _)] at h
  rw [Decoder.feedAll_eq_drain, hchunks, List.flatMap_append, List.flatMap_cons, h]
  exact ⟨k, _, hk, hlt, hne, rfl⟩

/-- The compatibility decoder gives a list back exactly if none of its frames is ambiguous. -/
theorem compatibility_frames_iff (hfs : ∀ f ∈ fs, f.RtuSendable)
    (hchunks : chunks.flatten = fs.flatMap Frame.adu) :
    (compatibilityDecoder.feedAll chunks).frames = fs ↔ ∀ f ∈ fs, ¬f.Ambiguous := by
  refine ⟨fun hframes => ?_, fun hamb => ?_⟩
  · cases hfind : fs.find? (fun f => f.Ambiguous) with
    | none => simpa using hfind
    | some f =>
      obtain ⟨hf, pre, post, rfl, hpre⟩ := List.find?_eq_some_iff_append.mp hfind
      obtain ⟨k, tail, -, -, hne, heq⟩ := compatibility_cut hfs
        (fun g hg => by simpa using hpre g hg) (by simpa using hf) hchunks
      rw [hframes] at heq
      exact absurd (List.cons.inj (List.append_cancel_left heq)).1.symm hne
  · rw [compatibility_round_trip hfs hamb hchunks]

end RoundTrip

/-- Frames written to one buffer and read back under any chunking. Over MBAP they come back
as they were; with the compatibility policy they do exactly if none is ambiguous, and the first
that is comes back as its first prefix that verifies. A refused frame adds nothing. -/
theorem FrameCodec.stream_round_trip :
    (∀ fs : List Frame, (∀ f ∈ fs, f.MbapSendable) →
      mbap.encodeAll fs [] = (.ok (), fs.flatMap Frame.mbapWire) ∧
      ∀ chunks, chunks.flatten = fs.flatMap Frame.mbapWire →
        mbap.decoder.feedAll chunks = ⟨fs, none, []⟩) ∧
    (∀ c : FrameCodec, c.IsCompatibility → ∀ fs : List Frame, (∀ f ∈ fs, f.RtuSendable) →
      c.encodeAll fs [] = (.ok (), fs.flatMap Frame.adu) ∧
      ∀ chunks, chunks.flatten = fs.flatMap Frame.adu →
        ((c.decoder.feedAll chunks).frames = fs ↔ ∀ f ∈ fs, ¬f.Ambiguous) ∧
        ((∀ f ∈ fs, ¬f.Ambiguous) → c.decoder.feedAll chunks = ⟨fs, none, []⟩) ∧
        (∀ pre f post, fs = pre ++ f :: post → (∀ g ∈ pre, ¬g.Ambiguous) → f.Ambiguous →
          ∃ k tail, FirstValid f.adu k ∧ k < f.adu.length ∧
            (c.decoder.feedAll chunks).frames = pre ++ rtuFrame (f.adu.take k) :: tail)) ∧
    (∀ (c : FrameCodec) f dst e dst', c.encode f dst = (.error e, dst') → dst' = dst) ∧
    (∀ h pdu dst e dst', MbapCodec.encodeParts h pdu dst = (.error e, dst') → dst' = dst) := by
  refine ⟨fun fs hfs => ⟨?_, fun chunks => mbap_round_trip hfs⟩,
    fun c hc fs hfs => ⟨?_, fun chunks hchunks => ?_⟩, fun _ _ _ _ _ => encode_error,
    fun _ _ _ _ _ => MbapCodec.encodeParts_error⟩
  · exact encodeAll_eq (c := mbap) (fun f hf => (hfs f hf).encode_eq) []
  · refine encodeAll_eq (fun f hf => ?_) []
    rw [hc.encode_eq]
    exact (hfs f hf).encode_eq
  · rw [hc.decoder_eq]
    refine ⟨compatibility_frames_iff hfs hchunks,
      fun hamb => compatibility_round_trip hfs hamb hchunks, ?_⟩
    rintro pre f post rfl hpre hamb
    obtain ⟨k, tail, hk, hlt, -, heq⟩ := compatibility_cut hfs hpre hamb hchunks
    exact ⟨k, tail, hk, hlt, heq⟩

/-- A Read Exception Status request survives as MBAP and as RTU frame. The bytes of the
latter as the start of a longer PDU make an ambiguous frame, which does not. -/
theorem FrameCodec.stream_round_trip_readExceptionStatus :
    (∀ chunks, chunks.flatten = [0, 1, 0, 0, 0, 2, 9, 7] →
      mbap.decoder.feedAll chunks = ⟨[⟨.mbap ⟨1, 0, 2, 9⟩, [7]⟩], none, []⟩) ∧
    (rtuOverTcp.decoder.feedAll [[1, 7], [0x41, 0xE2]]).frames = [⟨.rtu 1, [7]⟩] ∧
    ∀ chunks, chunks.flatten = [1, 7, 0x41, 0xE2, 0, 0] →
      (rtuOverTcp.decoder.feedAll chunks).frames ≠ [⟨.rtu 1, [7, 0x41, 0xE2]⟩] := by
  refine ⟨?_, ?_, ?_⟩
  · exact (stream_round_trip.1 [⟨.mbap ⟨1, 0, 2, 9⟩, [7]⟩]
      (by simp [Frame.MbapSendable])).2
  · refine ((stream_round_trip.2.1 rtuOverTcp trivial [⟨.rtu 1, [7]⟩]
      (by simp [Frame.RtuSendable])).2 _ (by decide +kernel)).1.mpr ?_
    decide +kernel
  · intro chunks hchunks hframes
    have h := (stream_round_trip.2.1 rtuOverTcp trivial [⟨.rtu 1, [7, 0x41, 0xE2]⟩]
      (by simp [Frame.RtuSendable])).2 chunks (hchunks.trans (by decide +kernel))
    exact absurd (h.1.mp hframes) (by decide +kernel)

end RustyModbus
