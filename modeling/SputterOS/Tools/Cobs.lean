import SputterOS.Comms.CobsCodec

/-!
# The byte stuffing of the command-line tool

Its encoder works on integers and a growing byte array, its decoder raises an
error where the device returns length zero. Neither has a capacity.
-/

set_option autoImplicit false

namespace SputterOS.Tools.Cobs

inductive ValueError where
  | emptyData
  | unexpectedZero (idx : ℕ)
  | truncated
  | zeroInData (idx : ℕ)
  deriving DecidableEq

structure Encoding where
  output : List UInt8
  code_idx : ℕ
  code : ℕ

def encodeByte (s : Encoding) (byte : UInt8) : Encoding :=
  if byte = 0 then
    { output := s.output.set s.code_idx (UInt8.ofNat s.code) ++ [0],
      code_idx := s.output.length, code := 1 }
  else
    let output := s.output ++ [byte]
    let code := s.code+1
    if code = 0xFF then
      { output := output.set s.code_idx (UInt8.ofNat code) ++ [0],
        code_idx := output.length, code := 1 }
    else { output := output, code_idx := s.code_idx, code := code }

def encode (data : List UInt8) : List UInt8 :=
  if data.length = 0 then [0x01]
  else
    let s := data.foldl encodeByte { output := [0], code_idx := 0, code := 1 }
    s.output.set s.code_idx (UInt8.ofNat s.code)

def copyBlock : ℕ → ℕ → List UInt8 → List UInt8 →
    Except ValueError (ℕ × List UInt8 × List UInt8)
  | 0, idx, rest, output => .ok (idx, rest, output)
  | _+1, _, [], _ => .error .truncated
  | n+1, idx, b::rest, output =>
    if b = 0 then .error (.zeroInData idx) else copyBlock n (idx+1) rest (output ++ [b])

/-- One turn per block; every turn reads a code, so the length of the data bounds them. -/
def decodeLoop : ℕ → ℕ → List UInt8 → List UInt8 → Except ValueError (List UInt8)
  | _, _, [], output => .ok output
  | 0, _, _::_, _ => .error .truncated
  | fuel+1, idx, code::rest, output =>
    if code = 0 then .error (.unexpectedZero idx)
    else
      match copyBlock (code.toNat-1) (idx+1) rest output with
      | .error e => .error e
      | .ok (idx, rest, output) =>
        if code < 0xFF ∧ rest ≠ [] then decodeLoop fuel idx rest (output ++ [0])
        else decodeLoop fuel idx rest output

def decode (data : List UInt8) : Except ValueError (List UInt8) :=
  if data.length = 0 then .error .emptyData else decodeLoop data.length 0 data []

structure Matches (s : Encoding) (t : CobsCodec.EncodeState) : Prop where
  output : s.output = t.dst
  code_idx : s.code_idx = t.codeIdx
  code : UInt8.ofNat s.code = t.code
  range : s.code < 0xFF

theorem code_full (n : ℕ) (h : n < 0xFF) : UInt8.ofNat (n+1) = 0xFF ↔ n+1 = 0xFF := by
  have hn : (UInt8.ofNat (n+1)).toNat = n+1 := by
    rw [UInt8.toNat_ofNat']
    omega
  rw [← UInt8.toNat_inj, hn]
  rfl

theorem encodeByte_matches (s : Encoding) (t : CobsCodec.EncodeState) (b : UInt8)
    (h : Matches s t) : Matches (encodeByte s b) (CobsCodec.encodeByte t b) := by
  obtain ⟨hout, hidx, hcode, hrange⟩ := h
  have hnext : UInt8.ofNat (s.code+1) = t.code+1 := by rw [CobsCodec.ofNat_add_one, hcode]
  have hfull : t.code+1 = 0xFF ↔ s.code+1 = 0xFF := hnext ▸ code_full s.code hrange
  simp only [encodeByte, CobsCodec.encodeByte, hfull]
  split_ifs with hb hf
  · exact ⟨by rw [hout, hidx, hcode], by rw [hout], rfl, by simp⟩
  · exact ⟨by rw [hout, hidx, hnext], by rw [hout], rfl, by simp⟩
  · refine ⟨by rw [hout], hidx, hnext, ?_⟩
    show s.code+1 < 0xFF
    omega

theorem encode_matches (data : List UInt8) (s : Encoding) (t : CobsCodec.EncodeState)
    (h : Matches s t) : Matches (data.foldl encodeByte s) (data.foldl CobsCodec.encodeByte t) := by
  induction data generalizing s t with
  | nil => exact h
  | cons b data ih => exact ih _ _ (encodeByte_matches s t b h)

/-- With enough room the device encodes as the host does. -/
theorem encode_eq (data : List UInt8) (dstCap : ℕ)
    (h : CobsCodec.cobsMaxEncodedLen data.length ≤ dstCap) :
    encode data = CobsCodec.encode data dstCap := by
  rw [encode, CobsCodec.encode, if_neg (Nat.not_lt.mpr h)]
  split_ifs with h0
  · rw [List.length_eq_zero_iff.mp h0]
    rfl
  · have hm := encode_matches data { output := [0], code_idx := 0, code := 1 }
      { dst := [0], codeIdx := 0, code := 1 } ⟨rfl, rfl, rfl, by decide⟩
    dsimp only
    rw [hm.output, hm.code_idx, hm.code]

theorem copyBlock_toOption (n idx : ℕ) (rest output : List UInt8) :
    (copyBlock n idx rest output).toOption =
      (CobsCodec.copyData n rest output).map (fun p => (idx+n, p.1, p.2)) := by
  induction n generalizing idx rest output with
  | zero => rfl
  | succ n ih =>
    cases rest with
    | nil => rfl
    | cons b rest =>
      simp only [copyBlock, CobsCodec.copyData]
      split_ifs
      · rfl
      · rw [ih, Nat.add_right_comm, Nat.add_assoc]

theorem decodeLoop_toOption (cap fuel idx : ℕ) (rest output : List UInt8)
    (h : output.length+rest.length ≤ cap) :
    (decodeLoop fuel idx rest output).toOption = CobsCodec.decodeLoop cap fuel rest output := by
  induction fuel generalizing idx rest output with
  | zero => cases rest <;> rfl
  | succ fuel ih =>
    cases rest with
    | nil => rfl
    | cons code rest =>
      simp only [List.length_cons] at h
      have hcopy := copyBlock_toOption (code.toNat-1) (idx+1) rest output
      simp only [decodeLoop, CobsCodec.decodeLoop]
      by_cases hz : code = 0
      · rw [if_pos hz, if_pos hz]
        rfl
      · rw [if_neg hz, if_neg hz]
        cases hblock : copyBlock (code.toNat-1) (idx+1) rest output with
        | error e =>
          have hnone : CobsCodec.copyData (code.toNat-1) rest output = none := by
            rw [hblock] at hcopy
            exact Option.map_eq_none_iff.mp hcopy.symm
          simp only [hnone]
          split_ifs <;> rfl
        | ok p =>
          obtain ⟨idx', rest', output'⟩ := p
          have hsome : CobsCodec.copyData (code.toNat-1) rest output = some (rest', output') := by
            rw [hblock] at hcopy
            obtain ⟨q, hq, heq⟩ := Option.map_eq_some_iff.mp hcopy.symm
            simp only [Prod.mk.injEq] at heq
            rw [hq, ← heq.2.1, ← heq.2.2]
          obtain ⟨d, hd, hlen, -, hout⟩ := (CobsCodec.copyData_iff _ _ _ _ _).mp hsome
          have hl : rest.length = d.length+rest'.length := by rw [hd, List.length_append]
          have ho : output'.length = output.length+d.length := by rw [hout, List.length_append]
          rw [if_neg (by omega), if_neg (by omega)]
          simp only [hsome]
          split_ifs with hmore hcap
          · omega
          · exact ih _ _ _ (by simp; omega)
          · exact ih _ _ _ (by omega)

theorem decode_iff (data raw : List UInt8) (hne : raw ≠ []) (cap : ℕ) :
    CobsCodec.decode data cap = raw ↔ decode data = .ok raw ∧ raw.length ≤ cap := by
  have hloop := decodeLoop_toOption data.length data.length 0 data [] (by simp)
  have hdecode : decode data = .ok raw ↔ CobsCodec.decode data data.length = raw := by
    rw [decode, CobsCodec.decode, ← hloop]
    split_ifs with h0
    · rw [List.length_eq_zero_iff.mp h0]
      simp [decodeLoop, Except.toOption, Ne.symm hne]
    · cases decodeLoop data.length 0 data [] with
      | error e => simp [Except.toOption, Ne.symm hne]
      | ok r => simp [Except.toOption]
  rw [hdecode, CobsCodec.decode_iff data raw cap hne, CobsCodec.decode_iff data raw _ hne]
  constructor
  · rintro ⟨bs, hb, hser, hjoin, hle⟩
    refine ⟨⟨bs, hb, hser, hjoin, ?_⟩, hle⟩
    rw [← hser, ← hjoin, CobsCodec.serialize_length]
    exact Foundation.BlockStuffing.length_join_le 0 254 bs
  · rintro ⟨⟨bs, hb, hser, hjoin, -⟩, hle⟩
    exact ⟨bs, hb, hser, hjoin, hle⟩

end SputterOS.Tools.Cobs
