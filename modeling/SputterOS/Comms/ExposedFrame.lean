import SputterOS.Comms.FrameCodec
import SputterOS.Foundation.Transition

/-!
# The frame behind the getters

The getters of the decoder show the frame accepted last. The type and the
sequence number of a frame are assigned before its declared length is checked,
so a rejected frame with a valid checksum can replace them and leave the payload
of the frame before.
-/

set_option autoImplicit false

namespace SputterOS.ExposedFrame
open Foundation.Transition SputterOS.FrameCodec SputterOS.Crc16

structure Frame where
  msgType : MessageType
  seqNum : UInt8
  payload : List UInt8
  deriving DecidableEq

def exposed (d : FrameDecoder) : Frame := ⟨d.msgType, d.seqNum, d.payload⟩

inductive Action where
  | feedByte (b : UInt8)
  | reset

/-- The decoder and the frame it reported last; before the first one, and behind
a reset, this is the frame of a new decoder. -/
structure State where
  decoder : FrameDecoder
  accepted : Frame

def boot : State := ⟨.initial, exposed .initial⟩

def step (MaxPayload : ℕ) (s : State) : Action → State
  | .feedByte b =>
    let fed := s.decoder.feedByte MaxPayload b
    ⟨fed.2, if fed.1 = .frameReady then exposed fed.2 else s.accepted⟩
  | .reset => ⟨s.decoder.reset, exposed .initial⟩

/-- A raw frame with a valid checksum that declares another length than it has, or
one above the bound. -/
def BadLength (MaxPayload : ℕ) (raw : List UInt8) (type : MessageType) (seqNum : UInt8) : Prop :=
  ∃ lo hi payload c0 c1, raw = type.value :: seqNum :: lo :: hi :: (payload ++ [c0, c1]) ∧
    crc16 (type.value :: seqNum :: lo :: hi :: payload) = readLe16 c0 c1 ∧
    ((readLe16 lo hi).toNat ≠ payload.length ∨ MaxPayload < payload.length)

/-- A delimiter behind a frame of bad length finds its type and its sequence
number already there. -/
def Harmless (MaxPayload : ℕ) (s : State) : Action → Prop
  | .feedByte b =>
    b = kFrameDelimiter → ∀ type seqNum,
      BadLength MaxPayload (CobsCodec.decode s.decoder.cobsBuf (kMaxRawSize MaxPayload)) type
        seqNum → type = s.decoder.msgType ∧ seqNum = s.decoder.seqNum
  | .reset => True

theorem badLength_unique (MaxPayload : ℕ) (raw : List UInt8) (type type' : MessageType)
    (seqNum seqNum' : UInt8) (h : BadLength MaxPayload raw type seqNum)
    (h' : BadLength MaxPayload raw type' seqNum') : type' = type ∧ seqNum' = seqNum := by
  obtain ⟨lo, hi, payload, c0, c1, hraw, -⟩ := h
  obtain ⟨lo', hi', payload', c0', c1', hraw', -⟩ := h'
  obtain ⟨htype, hrest⟩ := List.cons.inj (hraw'.symm.trans hraw)
  obtain ⟨hseq, -⟩ := List.cons.inj hrest
  cases type
  cases type'
  exact ⟨congrArg MessageType.mk htype, hseq⟩

/-- A rejected frame has assigned the type and the sequence number if its length is
bad, and otherwise nothing. -/
theorem processFrame_rejected (MaxPayload : ℕ) (d : FrameDecoder)
    (h : (d.processFrame MaxPayload).1 ≠ .frameReady) :
    (∃ type seqNum,
      BadLength MaxPayload (CobsCodec.decode d.cobsBuf (kMaxRawSize MaxPayload)) type seqNum ∧
        exposed (d.processFrame MaxPayload).2 = ⟨type, seqNum, d.payload⟩) ∨
    ((∀ type seqNum,
      ¬ BadLength MaxPayload (CobsCodec.decode d.cobsBuf (kMaxRawSize MaxPayload)) type seqNum) ∧
        exposed (d.processFrame MaxPayload).2 = exposed d) := by
  by_cases hs : (CobsCodec.decode d.cobsBuf (kMaxRawSize MaxPayload)).length < kFrameOverhead
  · right
    refine ⟨?_, by simp [FrameDecoder.processFrame, hs, exposed]⟩
    rintro type seqNum ⟨lo, hi, payload, c0, c1, hraw, -⟩
    rw [hraw] at hs
    simp [kFrameOverhead, kFrameHeaderSize, kFrameTrailerSize] at hs
    omega
  · obtain ⟨t, s, lo, hi, payload, c0, c1, hraw⟩ := raw_split _ (Nat.not_lt.mp hs)
    have hsplit := processFrame_split MaxPayload d t s lo hi c0 c1 payload hraw
    by_cases hcrc : crc16 (t :: s :: lo :: hi :: payload) = readLe16 c0 c1
    · rw [if_neg (by simpa using hcrc)] at hsplit
      by_cases hl : (readLe16 lo hi).toNat ≠ payload.length ∨ MaxPayload < payload.length
      · left
        rw [if_pos hl] at hsplit
        exact ⟨⟨t⟩, s, ⟨lo, hi, payload, c0, c1, hraw, hcrc, hl⟩, by rw [hsplit]; rfl⟩
      · rw [if_neg hl] at hsplit
        exact absurd (congrArg Prod.fst hsplit) h
    · right
      rw [if_pos hcrc] at hsplit
      refine ⟨?_, by rw [hsplit]; rfl⟩
      rintro type seqNum ⟨lo', hi', payload', c0', c1', hraw', hcrc', -⟩
      apply hcrc
      have hsame : (t :: s :: lo :: hi :: payload) ++ [c0, c1] =
          (type.value :: seqNum :: lo' :: hi' :: payload') ++ [c0', c1'] := hraw.symm.trans hraw'
      obtain ⟨hbody, rfl, rfl⟩ := checksum_split _ _ _ _ _ _ hsame
      rw [hbody]
      exact hcrc'

theorem processFrame_ready_not_bad (MaxPayload : ℕ) (d : FrameDecoder)
    (h : (d.processFrame MaxPayload).1 = .frameReady) (type : MessageType) (seqNum : UInt8) :
    ¬ BadLength MaxPayload (CobsCodec.decode d.cobsBuf (kMaxRawSize MaxPayload)) type seqNum := by
  rintro ⟨lo, hi, payload, c0, c1, hraw, -, hlength⟩
  obtain ⟨type', seqNum', payload', lo', hi', c0', c1', hraw', hdeclared, hbound, -⟩ :=
    (processFrame_ready_iff MaxPayload d).mp h
  have hsame : (type.value :: seqNum :: lo :: hi :: payload) ++ [c0, c1] =
      (type'.value :: seqNum' :: lo' :: hi' :: payload') ++ [c0', c1'] := hraw.symm.trans hraw'
  obtain ⟨hbody, -⟩ := checksum_split _ _ _ _ _ _ hsame
  simp only [List.cons.injEq] at hbody
  obtain ⟨-, -, rfl, rfl, rfl⟩ := hbody
  rcases hlength with hlength | hlength
  · exact hlength hdeclared
  · omega

theorem feedByte_exposed_iff (MaxPayload : ℕ) (s : State) (b : UInt8)
    (h : (s.decoder.feedByte MaxPayload b).1 ≠ .frameReady) :
    exposed (s.decoder.feedByte MaxPayload b).2 = exposed s.decoder ↔
      Harmless MaxPayload s (.feedByte b) := by
  by_cases hb : b = kFrameDelimiter
  · have hempty : ∀ type seqNum, ¬ BadLength MaxPayload (CobsCodec.decode []
        (kMaxRawSize MaxPayload)) type seqNum := by
      rintro type seqNum ⟨lo, hi, payload, c0, c1, hraw, -⟩
      cases hraw
    subst hb
    rw [kFrameDelimiter, feedByte_delimiter] at h ⊢
    by_cases hlen : s.decoder.cobsBuf.length = 0
    · rw [if_pos hlen]
      refine iff_of_true rfl fun _ type seqNum hbad => ?_
      rw [List.length_eq_zero_iff.mp hlen] at hbad
      exact absurd hbad (hempty type seqNum)
    · rw [if_neg hlen] at h ⊢
      rcases processFrame_rejected MaxPayload s.decoder h with ⟨type, seqNum, hbad, hexp⟩ |
        ⟨hnone, hexp⟩
      · rw [hexp]
        constructor
        · intro hsame _ type' seqNum' hbad'
          obtain ⟨rfl, rfl⟩ := badLength_unique MaxPayload _ _ _ _ _ hbad hbad'
          exact ⟨congrArg Frame.msgType hsame, congrArg Frame.seqNum hsame⟩
        · intro hharmless
          obtain ⟨rfl, rfl⟩ := hharmless rfl type seqNum hbad
          rfl
      · exact iff_of_true hexp fun _ type seqNum hbad => absurd hbad (hnone type seqNum)
  · refine iff_of_true ?_ fun hdelimiter => absurd hdelimiter hb
    simp only [FrameDecoder.feedByte, if_neg hb]
    split <;> rfl

def Kept (s : State) : Prop := exposed s.decoder = s.accepted

theorem step_kept_iff (MaxPayload : ℕ) (s : State) (a : Action) (h : Kept s) :
    Kept (step MaxPayload s a) ↔ Harmless MaxPayload s a := by
  cases a with
  | reset => exact iff_of_true rfl trivial
  | feedByte b =>
    by_cases hr : (s.decoder.feedByte MaxPayload b).1 = .frameReady
    · refine iff_of_true (by simp [Kept, step, hr]) fun hdelimiter type seqNum hbad => ?_
      rw [hdelimiter, kFrameDelimiter, feedByte_delimiter] at hr
      split at hr
      · cases hr
      · exact absurd hbad (processFrame_ready_not_bad MaxPayload s.decoder hr type seqNum)
    · rw [← feedByte_exposed_iff MaxPayload s b hr, h]
      simp only [Kept, step, if_neg hr]

/-- In a run of a decoder, with resets, the exposed frame is at all times the frame
reported last, exactly if every frame of bad length finds its own type and sequence
number there. -/
theorem exposed_accepted_iff (MaxPayload : ℕ) (as : List Action) :
    (∀ bs, bs <+: as → Kept (run (step MaxPayload) boot bs)) ↔
      Along (step MaxPayload) (Harmless MaxPayload) boot as :=
  run_prefixes_iff (step MaxPayload) Kept Kept (Harmless MaxPayload) (fun _ h => h)
    (fun s a ha h => (step_kept_iff MaxPayload s a h).mpr ha)
    (fun s a h h' => (step_kept_iff MaxPayload s a h).mp h') boot rfl as

def truncated : List UInt8 :=
  let header : List UInt8 := [0x01, 9, 5, 0]
  let crc := (crc16 header).toNat
  CobsCodec.encode (header ++ [lowByte crc, highByte crc]) 16

/-- The frame is rejected, but its type and sequence number are exposed. -/
theorem rejected_frame_exposed :
    ((FrameDecoder.initial.feed 256 truncated).feedByte 256 kFrameDelimiter).1 = .error ∧
    exposed ((FrameDecoder.initial.feed 256 truncated).feedByte 256 kFrameDelimiter).2 =
      ⟨.command, 9, []⟩ ∧
    ¬ ∀ as, Kept (run (step 256) boot as) := by
  refine ⟨by decide +kernel, by decide +kernel, fun h => ?_⟩
  have hkept := h ((truncated ++ [kFrameDelimiter]).map Action.feedByte)
  have hexposed : exposed (run (step 256) boot
      ((truncated ++ [kFrameDelimiter]).map Action.feedByte)).decoder = ⟨.command, 9, []⟩ := by
    decide +kernel
  have haccepted : (run (step 256) boot
      ((truncated ++ [kFrameDelimiter]).map Action.feedByte)).accepted = ⟨.heartbeat, 0, []⟩ := by
    decide +kernel
  rw [Kept, hexposed, haccepted] at hkept
  exact absurd hkept (by decide)

end SputterOS.ExposedFrame
