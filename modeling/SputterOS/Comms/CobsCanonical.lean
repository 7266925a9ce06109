import Mathlib.Logic.Function.Basic
import SputterOS.Comms.CobsCodec

/-!
# The encoder's stores and canonical encodings

The encoder writes behind its write position, so the bytes it leaves in the
destination are read back from the sequence of its stores. An accepted
encoding is the encoder's own output, except that the empty block behind a
full last one may be missing.
-/

set_option autoImplicit false

namespace SputterOS.CobsCanonical
open CobsCodec
open Foundation.BlockStuffing

/-- The variables of the encoder and its stores `dst[i] = b` in program order. -/
structure Encoder where
  stores : List (ℕ × UInt8)
  writeIdx : ℕ
  codeIdx : ℕ
  code : UInt8

/-- A data byte: `dst[writeIdx++] = b; ++code`. -/
def Encoder.put (s : Encoder) (b : UInt8) : Encoder :=
  { s with stores := s.stores ++ [(s.writeIdx, b)], writeIdx := s.writeIdx+1, code := s.code+1 }

/-- The end of a block: `dst[codeIdx] = code; codeIdx = writeIdx++; code = 1`. -/
def Encoder.close (s : Encoder) : Encoder :=
  { stores := s.stores ++ [(s.codeIdx, s.code)], writeIdx := s.writeIdx+1,
    codeIdx := s.writeIdx, code := 1 }

def storeByte (s : Encoder) (b : UInt8) : Encoder :=
  if b = 0 then s.close
  else if (s.put b).code = 0xFF then (s.put b).close
  else s.put b

def encodeStores (src : List UInt8) (dstCap : ℕ) : List (ℕ × UInt8) × ℕ :=
  if dstCap < cobsMaxEncodedLen src.length then ([], 0)
  else
    let s := src.foldl storeByte { stores := [], writeIdx := 1, codeIdx := 0, code := 1 }
    (s.stores ++ [(s.codeIdx, s.code)], s.writeIdx)

def applyStores (mem : ℕ → UInt8) (stores : List (ℕ × UInt8)) : ℕ → UInt8 :=
  stores.foldl (fun m s => Function.update m s.1 s.2) mem

/-- The returned number of bytes at the start of a destination that held `mem`. -/
def encoded (src : List UInt8) (dstCap : ℕ) (mem : ℕ → UInt8) : List UInt8 :=
  (List.range (encodeStores src dstCap).2).map (applyStores mem (encodeStores src dstCap).1)

theorem applyStores_append (mem : ℕ → UInt8) (stores rest : List (ℕ × UInt8)) :
    applyStores mem (stores ++ rest) = applyStores (applyStores mem stores) rest :=
  List.foldl_append

theorem applyStores_snoc (mem : ℕ → UInt8) (stores : List (ℕ × UInt8)) (i j : ℕ) (b : UInt8) :
    applyStores mem (stores ++ [(j, b)]) i = if i = j then b else applyStores mem stores i := by
  rw [applyStores_append]
  simp [applyStores, Function.update_apply]

/-- The slot of the open block's code byte is reserved and not yet written. -/
structure Agrees (mem : ℕ → UInt8) (s : Encoder) (t : EncodeState) : Prop where
  length : t.dst.length = s.writeIdx
  codeIdx : t.codeIdx = s.codeIdx
  code : t.code = s.code
  slot : s.codeIdx < s.writeIdx
  bytes : ∀ i, i ≠ s.codeIdx → ∀ h : i < t.dst.length, applyStores mem s.stores i = t.dst[i]
  below : ∀ p ∈ s.stores, p.1 < s.writeIdx

theorem Agrees.put {mem : ℕ → UInt8} {s : Encoder} {t : EncodeState} (h : Agrees mem s t)
    (b : UInt8) :
    Agrees mem (s.put b) { dst := t.dst ++ [b], codeIdx := t.codeIdx, code := t.code+1 } where
  length := by simp [Encoder.put, h.length]
  codeIdx := h.codeIdx
  code := by simp [Encoder.put, h.code]
  slot := Nat.lt_succ_of_lt h.slot
  bytes := by
    intro i hi hl
    simp only [List.length_append, List.length_singleton] at hl
    simp only [Encoder.put, applyStores_snoc]
    split_ifs with hw
    · simp [hw, ← h.length]
    · have hlen := h.length
      rw [List.getElem_append_left (by omega)]
      exact h.bytes i hi (by omega)
  below := by
    intro p hp
    rcases List.mem_append.mp hp with hp | hp
    · exact Nat.lt_succ_of_lt (h.below p hp)
    · rw [List.mem_singleton.mp hp]
      exact Nat.lt_succ_self _

theorem Agrees.patched {mem : ℕ → UInt8} {s : Encoder} {t : EncodeState} (h : Agrees mem s t)
    (i : ℕ) (hl : i < (t.dst.set t.codeIdx t.code).length) :
    applyStores mem (s.stores ++ [(s.codeIdx, s.code)]) i = (t.dst.set t.codeIdx t.code)[i] := by
  simp only [List.length_set] at hl
  simp only [applyStores_snoc, List.getElem_set, h.codeIdx, h.code]
  split_ifs with h1 h2 h2
  · rfl
  · exact absurd h1.symm h2
  · exact absurd h2.symm h1
  · exact h.bytes i h1 hl

theorem Agrees.close {mem : ℕ → UInt8} {s : Encoder} {t : EncodeState} (h : Agrees mem s t) :
    Agrees mem s.close
      { dst := t.dst.set t.codeIdx t.code ++ [0], codeIdx := t.dst.length, code := 1 } where
  length := by simp [Encoder.close, h.length]
  codeIdx := h.length
  code := rfl
  slot := Nat.lt_succ_self _
  bytes := by
    intro i hi hl
    have hlen := h.length
    simp only [Encoder.close] at hi
    simp only [List.length_append, List.length_set, List.length_singleton] at hl
    rw [List.getElem_append_left (by rw [List.length_set]; omega)]
    exact h.patched i _
  below := by
    intro p hp
    rcases List.mem_append.mp hp with hp | hp
    · exact Nat.lt_succ_of_lt (h.below p hp)
    · rw [List.mem_singleton.mp hp]
      exact Nat.lt_succ_of_lt h.slot

theorem storeByte_agrees (mem : ℕ → UInt8) (s : Encoder) (t : EncodeState) (b : UInt8)
    (h : Agrees mem s t) : Agrees mem (storeByte s b) (encodeByte t b) := by
  have hcode : (s.put b).code = t.code+1 := by simp [Encoder.put, h.code]
  simp only [storeByte, encodeByte, hcode]
  split_ifs with hb hf
  · exact h.close
  · exact (h.put b).close
  · exact h.put b

theorem encode_agrees (mem : ℕ → UInt8) (src : List UInt8) (s : Encoder) (t : EncodeState)
    (h : Agrees mem s t) : Agrees mem (src.foldl storeByte s) (src.foldl encodeByte t) := by
  induction src generalizing s t with
  | nil => exact h
  | cons b src ih => exact ih _ _ (storeByte_agrees mem s t b h)

theorem start_agrees (mem : ℕ → UInt8) :
    Agrees mem { stores := [], writeIdx := 1, codeIdx := 0, code := 1 }
      { dst := [0], codeIdx := 0, code := 1 } where
  length := rfl
  codeIdx := rfl
  code := rfl
  slot := by simp
  bytes := by
    intro i hi hl
    have h0 : i = 0 := by simpa using hl
    exact absurd h0 hi
  below := by simp

theorem encoded_eq (src : List UInt8) (dstCap : ℕ) (mem : ℕ → UInt8) :
    encoded src dstCap mem = encode src dstCap := by
  simp only [encoded, encodeStores, encode]
  split_ifs with hc
  · rfl
  · have h := encode_agrees mem src _ _ (start_agrees mem)
    apply List.ext_getElem
    · simp [h.length]
    · intro i hi hj
      rw [List.getElem_map, List.getElem_range]
      exact h.patched i hj

theorem encodeStores_length (src : List UInt8) (dstCap : ℕ) :
    (encodeStores src dstCap).2 = (encode src dstCap).length := by
  rw [← encoded_eq src dstCap (fun _ => 0)]
  simp [encoded]

theorem encodeStores_below (src : List UInt8) (dstCap : ℕ) :
    ∀ p ∈ (encodeStores src dstCap).1, p.1 < (encodeStores src dstCap).2 := by
  intro p hp
  simp only [encodeStores] at hp ⊢
  split_ifs at hp ⊢ with hc
  · simp at hp
  · have h := encode_agrees (fun _ => 0) src _ _ (start_agrees _)
    rcases List.mem_append.mp hp with hp | hp
    · exact h.below p hp
    · rw [List.mem_singleton.mp hp]
      exact h.slot

def lastCode : ℕ → List UInt8 → Option UInt8
  | 0, _ => none
  | _+1, [] => none
  | fuel+1, code::src =>
    if src.drop (code.toNat-1) = [] then some code else lastCode fuel (src.drop (code.toNat-1))

theorem lastCode_serialize (fuel : ℕ) (bs : List (List UInt8)) (hne : bs ≠ [])
    (hb : ∀ b ∈ bs, Block b) (hf : bs.length ≤ fuel) :
    lastCode fuel (serialize bs) = some (UInt8.ofNat ((bs.getLast hne).length+1)) := by
  induction bs generalizing fuel with
  | nil => exact absurd rfl hne
  | cons b bs ih =>
    obtain ⟨fuel, rfl⟩ : ∃ k, fuel = k+1 := ⟨fuel-1, by simp at hf; omega⟩
    have hlen : b.length ≤ 254 := (hb b (by simp)).2
    have hdrop : (b ++ serialize bs).drop ((UInt8.ofNat (b.length+1)).toNat-1) = serialize bs := by
      rw [code_toNat _ hlen]
      simp
    rw [serialize_cons, lastCode, hdrop]
    by_cases hbs : bs = []
    · subst hbs
      simp [serialize]
    · rw [if_neg (fun he => hbs ((serialize_eq_nil bs).mp he)), List.getLast_cons hbs]
      exact ih fuel hbs (fun c hc => hb c (by simp [hc])) (by simpa using hf)

theorem code_eq_full (n : ℕ) (h : n ≤ 254) : UInt8.ofNat (n+1) = 0xFF ↔ n = 254 := by
  rw [← UInt8.toNat_inj, code_toNat n h]
  show n+1 = 255 ↔ n = 254
  omega

/-- An accepted encoding of `d` is what the encoder sends for `d`, or that
without the empty block which the encoder leaves behind a full last one. -/
theorem encode_of_decode (e d : List UInt8) (cap dstCap : ℕ) (hd : decode e cap = d)
    (hne : d ≠ []) (hroom : cobsMaxEncodedLen d.length ≤ dstCap) :
    encode d dstCap = if lastCode e.length e = some 0xFF then e ++ [1] else e := by
  obtain ⟨bs, hb, rfl, rfl, -⟩ := (decode_iff e d cap hne).mp hd
  have hbs : bs ≠ [] := by
    rintro rfl
    exact hne rfl
  have hlast : ((bs.getLast hbs).length = 254) ↔
      lastCode (serialize bs).length (serialize bs) = some 0xFF := by
    rw [lastCode_serialize _ bs hbs hb (length_le_serialize bs), Option.some.injEq,
      code_eq_full _ (hb _ (List.getLast_mem hbs)).2]
  rw [encode_eq _ _ hroom, cut_join (0:UInt8) 254 (by simp) bs hbs hb]
  by_cases hf : (bs.getLast hbs).length = 254
  · rw [if_pos hf, if_pos (hlast.mp hf), serialize_append]
    rfl
  · rw [if_neg hf, if_neg (fun h => hf (hlast.mpr h))]

/-- The encoder inverts under the decoder, avoids the delimiter and its bound;
with less room than the bound it fails, and it never stores past the capacity. -/
theorem cobs_round_trip (src : List UInt8) (hne : src ≠ []) (dstCap : ℕ) (mem : ℕ → UInt8) :
    (cobsMaxEncodedLen src.length ≤ dstCap →
      (0:UInt8) ∉ encoded src dstCap mem ∧
      (encoded src dstCap mem).length ≤ cobsMaxEncodedLen src.length ∧
      ∀ cap, src.length ≤ cap → decode (encoded src dstCap mem) cap = src) ∧
    (dstCap < cobsMaxEncodedLen src.length → encodeStores src dstCap = ([], 0)) ∧
    ∀ p ∈ (encodeStores src dstCap).1, p.1 < dstCap := by
  have hbound : ∀ p ∈ (encodeStores src dstCap).1, p.1 < dstCap := by
    intro p hp
    have hlt := encodeStores_below src dstCap p hp
    by_cases hc : dstCap < cobsMaxEncodedLen src.length
    · simp [encodeStores, hc] at hp
    · have hl := encode_length src dstCap
      rw [encodeStores_length] at hlt
      omega
  refine ⟨?_, fun hc => by simp [encodeStores, hc], hbound⟩
  intro hroom
  rw [encoded_eq]
  exact ⟨zero_notMem_encode src dstCap, encode_length src dstCap,
    fun cap hcap => decode_encode src hne dstCap cap hroom hcap⟩

theorem cobs_round_trip_three :
    [1, 0, 2] ≠ ([] : List UInt8) ∧ decode (encoded [1, 0, 2] 4 (fun _ => 7)) 3 = [1, 0, 2] :=
  ⟨by decide, ((cobs_round_trip [1, 0, 2] (by decide) 4 (fun _ => 7)).1 (by decide)).2.2 3
    (by decide)⟩

/-- Encoding inverts decoding up to one final byte. -/
theorem decode_canonical (e d : List UInt8) (cap dstCap : ℕ) (hd : decode e cap = d)
    (hne : d ≠ []) (hroom : cobsMaxEncodedLen d.length ≤ dstCap) :
    (encode d dstCap = e ∨ encode d dstCap = e ++ [1]) ∧
    (encode d dstCap = e ++ [1] ↔ lastCode e.length e = some 0xFF) ∧
    ∀ e' cap', decode e' cap' = d → e' = e ∨ e' = e ++ [1] ∨ e = e' ++ [1] := by
  have henc := encode_of_decode e d cap dstCap hd hne hroom
  refine ⟨?_, ?_, ?_⟩
  · rw [henc]
    split_ifs
    · exact Or.inr rfl
    · exact Or.inl rfl
  · rw [henc]
    split_ifs with hl
    · simp [hl]
    · simp [hl]
  · intro e' cap' hd'
    have henc' := encode_of_decode e' d cap' dstCap hd' hne hroom
    rw [henc] at henc'
    split_ifs at henc' with hl hl' hl'
    · exact Or.inl (List.append_cancel_right henc').symm
    · exact Or.inr (Or.inl henc'.symm)
    · exact Or.inr (Or.inr henc')
    · exact Or.inl henc'.symm

theorem decode_canonical_full :
    encode (List.replicate 254 1) 256 = (0xFF :: List.replicate 254 1) ++ [1] :=
  (decode_canonical (0xFF :: List.replicate 254 1) (List.replicate 254 1) 254 256
    (by decide +kernel) (by decide +kernel) (by decide +kernel)).2.1.mpr (by decide +kernel)

end SputterOS.CobsCanonical
