import SputterOS.Foundation.BlockStuffing

/-!
# Consistent overhead byte stuffing

The encoder patches the code byte of an open block when the block ends; the
slot of that byte is reserved in the output beforehand. The decoder returns
length zero on every error, so an error and an empty message are the same
empty list here.
-/

set_option autoImplicit false

namespace SputterOS.CobsCodec
open Foundation.BlockStuffing

def cobsMaxEncodedLen (srcLen : ℕ) : ℕ := srcLen+srcLen/254+1

/-- `dst` is the part of the output below `writeIdx`. -/
structure EncodeState where
  dst : List UInt8
  codeIdx : ℕ
  code : UInt8

def encodeByte (s : EncodeState) (b : UInt8) : EncodeState :=
  if b = 0 then
    { dst := s.dst.set s.codeIdx s.code ++ [0], codeIdx := s.dst.length, code := 1 }
  else
    let dst := s.dst ++ [b]
    let code := s.code+1
    if code = 0xFF then
      { dst := dst.set s.codeIdx code ++ [0], codeIdx := dst.length, code := 1 }
    else
      { dst := dst, codeIdx := s.codeIdx, code := code }

def encode (src : List UInt8) (dstCap : ℕ) : List UInt8 :=
  if dstCap < cobsMaxEncodedLen src.length then []
  else
    let s := src.foldl encodeByte { dst := [0], codeIdx := 0, code := 1 }
    s.dst.set s.codeIdx s.code

def copyData : ℕ → List UInt8 → List UInt8 → Option (List UInt8 × List UInt8)
  | 0, src, dst => some (src, dst)
  | _+1, [], _ => none
  | n+1, b::src, dst => if b = 0 then none else copyData n src (dst ++ [b])

/-- One turn per block; `fuel` bounds the number of blocks. -/
def decodeLoop (dstCap : ℕ) : ℕ → List UInt8 → List UInt8 → Option (List UInt8)
  | _, [], dst => some dst
  | 0, _::_, _ => none
  | fuel+1, code::src, dst =>
    if code = 0 then none
    else
      let dataBytes := code.toNat-1
      if src.length < dataBytes then none
      else if dstCap < dst.length+dataBytes then none
      else
        match copyData dataBytes src dst with
        | none => none
        | some (rest, out) =>
          if code < 0xFF ∧ rest ≠ [] then
            if dstCap ≤ out.length then none
            else decodeLoop dstCap fuel rest (out ++ [0])
          else decodeLoop dstCap fuel rest out

def decode (src : List UInt8) (dstCap : ℕ) : List UInt8 :=
  (decodeLoop dstCap src.length src []).getD []

def serialize (bs : List (List UInt8)) : List UInt8 :=
  bs.flatMap (fun b => UInt8.ofNat (b.length+1) :: b)

abbrev Block (b : List UInt8) : Prop := Stuffed (0:UInt8) 254 b

/-- The state of the encoder with `done` closed blocks and `cur` in the open one. -/
def encoding (done : List (List UInt8)) (cur : List UInt8) : EncodeState where
  dst := serialize done ++ 0 :: cur
  codeIdx := (serialize done).length
  code := UInt8.ofNat (cur.length+1)

theorem serialize_append (as bs : List (List UInt8)) :
    serialize (as ++ bs) = serialize as ++ serialize bs := by
  simp [serialize]

theorem serialize_length (bs : List (List UInt8)) : (serialize bs).length = size bs := by
  simp [serialize, size, List.length_flatMap]

theorem ofNat_add_one (n : ℕ) : UInt8.ofNat (n+1) = UInt8.ofNat n+1 := by
  simp [UInt8.ofNat_add]

theorem code_full_iff (n : ℕ) (h : n < 254) : UInt8.ofNat (n+2) = 0xFF ↔ n+1 = 254 := by
  rw [← UInt8.toNat_inj]
  simp only [UInt8.toNat_ofNat']
  constructor
  · intro hn
    have hmod : (n+2) % 2^8 = 255 := hn
    omega
  · intro hn
    show (n+2) % 2^8 = 255
    omega

theorem serialize_singleton (b : List UInt8) :
    serialize [b] = UInt8.ofNat (b.length+1) :: b := by
  simp [serialize]

theorem serialize_cons (b : List UInt8) (bs : List (List UInt8)) :
    serialize (b::bs) = UInt8.ofNat (b.length+1) :: (b ++ serialize bs) := by
  simp [serialize]

theorem encodeByte_zero (done : List (List UInt8)) (cur : List UInt8) :
    encodeByte (encoding done cur) 0 = encoding (done ++ [cur]) [] := by
  simp [encodeByte, encoding, serialize]

theorem encodeByte_data (done : List (List UInt8)) (cur : List UInt8) (b : UInt8)
    (hb : b ≠ 0) (hc : cur.length < 254) :
    encodeByte (encoding done cur) b =
      if cur.length+1 = 254 then encoding (done ++ [cur ++ [b]]) []
      else encoding done (cur ++ [b]) := by
  have hcode : UInt8.ofNat (cur.length+1)+1 = UInt8.ofNat (cur.length+2) :=
    (ofNat_add_one (cur.length+1)).symm
  simp only [encodeByte, encoding, if_neg hb, hcode, code_full_iff cur.length hc]
  split_ifs with hf
  · simp [-UInt8.ofNat_add, serialize_append, serialize_singleton]
  · simp [-UInt8.ofNat_add]

theorem encode_loop (xs : List UInt8) (done : List (List UInt8)) (cur : List UInt8)
    (hc : cur.length < 254) :
    (xs.foldl encodeByte (encoding done cur)).dst.set
        (xs.foldl encodeByte (encoding done cur)).codeIdx
        (xs.foldl encodeByte (encoding done cur)).code =
      serialize (done ++ cut 0 254 cur xs) := by
  induction xs generalizing done cur with
  | nil => simp [encoding, cut, serialize_append, serialize_singleton]
  | cons x xs ih =>
    simp only [List.foldl_cons, cut]
    by_cases hx : x = 0
    · rw [hx, encodeByte_zero, ih _ _ (by simp)]
      simp
    · rw [encodeByte_data done cur x hx hc, if_neg hx]
      split_ifs with hf
      · rw [ih _ _ (by simp)]
        simp
      · exact ih _ _ (by simp; omega)

theorem encode_eq (src : List UInt8) (dstCap : ℕ) (h : cobsMaxEncodedLen src.length ≤ dstCap) :
    encode src dstCap = serialize (cut 0 254 [] src) := by
  have hl := encode_loop src [] [] (by simp)
  simp only [encode, if_neg (Nat.not_lt.mpr h)]
  simpa [encoding, serialize] using hl

theorem encode_length (src : List UInt8) (dstCap : ℕ) :
    (encode src dstCap).length ≤ cobsMaxEncodedLen src.length := by
  by_cases h : cobsMaxEncodedLen src.length ≤ dstCap
  · rw [encode_eq src dstCap h, serialize_length]
    have hs := size_cut (0:UInt8) 254 [] src (by simp)
    simpa [cobsMaxEncodedLen] using hs
  · simp [encode, Nat.not_le.mp h]

theorem code_ne_zero (n : ℕ) (h : n ≤ 254) : UInt8.ofNat (n+1) ≠ 0 := by
  intro hz
  have hmod : (n+1) % 2^8 = 0 := by simpa using congrArg UInt8.toNat hz
  omega

theorem code_toNat (n : ℕ) (h : n ≤ 254) : (UInt8.ofNat (n+1)).toNat = n+1 := by
  show (n+1) % 2^8 = n+1
  omega

theorem zero_notMem_serialize (bs : List (List UInt8)) (h : ∀ b ∈ bs, Block b) :
    (0:UInt8) ∉ serialize bs := by
  intro hm
  obtain ⟨b, hb, hz⟩ := List.mem_flatMap.mp hm
  rcases List.mem_cons.mp hz with hc | hd
  · exact code_ne_zero b.length (h b hb).2 hc.symm
  · exact (h b hb).1 hd

theorem zero_notMem_encode (src : List UInt8) (dstCap : ℕ) : (0:UInt8) ∉ encode src dstCap := by
  by_cases h : cobsMaxEncodedLen src.length ≤ dstCap
  · rw [encode_eq src dstCap h]
    exact zero_notMem_serialize _ (cut_stuffed 0 254 [] src (by simp) (by simp))
  · simp [encode, Nat.not_le.mp h]

theorem copyData_iff (n : ℕ) (src dst rest out : List UInt8) :
    copyData n src dst = some (rest, out) ↔
      ∃ d, src = d ++ rest ∧ d.length = n ∧ 0 ∉ d ∧ out = dst ++ d := by
  induction n generalizing src dst with
  | zero =>
    simp only [copyData, Option.some.injEq, Prod.mk.injEq, List.length_eq_zero_iff]
    constructor
    · rintro ⟨rfl, rfl⟩
      exact ⟨[], by simp⟩
    · rintro ⟨d, hs, rfl, -, ho⟩
      simp_all
  | succ n ih =>
    cases src with
    | nil =>
      simp only [copyData]
      constructor
      · intro h
        cases h
      · rintro ⟨d, hs, hl, -, -⟩
        have hnil : d = [] := (List.append_eq_nil_iff.mp hs.symm).1
        simp [hnil] at hl
    | cons b src =>
      simp only [copyData]
      split_ifs with hb
      · constructor
        · intro h
          cases h
        · rintro ⟨d, hs, hl, hz, -⟩
          cases d with
          | nil => simp at hl
          | cons x d =>
            obtain ⟨rfl, -⟩ := List.cons.inj hs
            simp [hb] at hz
      · rw [ih]
        constructor
        · rintro ⟨d, hs, hl, hz, ho⟩
          exact ⟨b::d, by simp [hs], by simp [hl], by simp [hz, Ne.symm hb], by simp [ho]⟩
        · rintro ⟨d, hs, hl, hz, ho⟩
          cases d with
          | nil => simp at hl
          | cons x d =>
            obtain ⟨rfl, ht⟩ := List.cons.inj hs
            exact ⟨d, ht, by simpa using hl, fun h => hz (by simp [h]), by simp [ho]⟩

theorem serialize_eq_nil (bs : List (List UInt8)) : serialize bs = [] ↔ bs = [] := by
  cases bs with
  | nil => simp [serialize]
  | cons b bs => simp [serialize_cons]

theorem length_le_serialize (bs : List (List UInt8)) : bs.length ≤ (serialize bs).length := by
  induction bs with
  | nil => simp
  | cons b bs ih =>
    rw [serialize_cons]
    simp only [List.length_cons, List.length_append]
    omega

theorem code_lt_iff (n : ℕ) (h : n ≤ 254) : UInt8.ofNat (n+1) < 0xFF ↔ n ≠ 254 := by
  rw [UInt8.lt_iff_toNat_lt, code_toNat n h]
  show n+1 < 255 ↔ n ≠ 254
  omega

theorem ofNat_dataBytes (code : UInt8) (hc : code ≠ 0) :
    UInt8.ofNat (code.toNat-1+1) = code := by
  have hp : code.toNat ≠ 0 := fun h => hc (UInt8.toNat_inj.mp (by simpa using h))
  rw [show code.toNat-1+1 = code.toNat by omega, UInt8.ofNat_toNat]

theorem dataBytes_le (code : UInt8) : code.toNat-1 ≤ 254 := by
  have hcode := code.toNat_lt
  omega

/-- Every accepted encoding is a serialized block list. -/
theorem decodeLoop_sound (cap fuel : ℕ) (src dst out : List UInt8)
    (h : decodeLoop cap fuel src dst = some out) :
    ∃ bs, (∀ b ∈ bs, Block b) ∧ serialize bs = src ∧ out = dst ++ join 0 254 bs ∧
      (dst.length ≤ cap → out.length ≤ cap) := by
  induction fuel generalizing src dst with
  | zero =>
    cases src with
    | nil => exact ⟨[], by simp, rfl, by simpa [join, decodeLoop, eq_comm] using h,
        by simp_all [decodeLoop]⟩
    | cons => simp [decodeLoop] at h
  | succ fuel ih =>
    cases src with
    | nil => exact ⟨[], by simp, rfl, by simpa [join, decodeLoop, eq_comm] using h,
        by simp_all [decodeLoop]⟩
    | cons code src =>
      simp only [decodeLoop] at h
      split_ifs at h with hz hs hd
      cases hcopy : copyData (code.toNat-1) src dst with
      | none => simp [hcopy] at h
      | some p =>
        obtain ⟨rest, mid⟩ := p
        obtain ⟨d, rfl, hl, hzero, rfl⟩ := (copyData_iff _ _ _ _ _).mp hcopy
        have hd254 : d.length ≤ 254 := hl ▸ dataBytes_le code
        have hcode : UInt8.ofNat (d.length+1) = code := hl ▸ ofNat_dataBytes code hz
        have hblock : Block d := ⟨hzero, hd254⟩
        simp only [hcopy] at h
        split_ifs at h with hlast hcap
        · obtain ⟨bs, hb, hser, hout, hle⟩ := ih _ _ h
          have hne : bs ≠ [] := fun he => hlast.2 (by rw [← hser, he]; rfl)
          have hfull : d.length ≠ 254 := (code_lt_iff _ hd254).mp (hcode ▸ hlast.1)
          refine ⟨d::bs, by simpa [hblock] using hb, by rw [serialize_cons, hcode, hser], ?_, ?_⟩
          · rw [hout, join_cons _ _ _ _ hne, if_neg hfull]
            simp
          · intro _
            exact hle (by simp only [List.length_append, List.length_singleton] at hcap ⊢; omega)
        · obtain ⟨bs, hb, hser, hout, hle⟩ := ih _ _ h
          refine ⟨d::bs, by simpa [hblock] using hb, by rw [serialize_cons, hcode, hser], ?_, ?_⟩
          · by_cases hne : bs = []
            · simp [hout, hne, join]
            · have hrest : rest ≠ [] := fun he => hne ((serialize_eq_nil bs).mp (hser.trans he))
              have hfull : d.length = 254 := by
                by_contra hf
                exact hlast ⟨hcode ▸ (code_lt_iff _ hd254).mpr hf, hrest⟩
              rw [hout, join_cons _ _ _ _ hne, if_pos hfull]
              simp
          · intro _
            exact hle (by simp only [List.length_append]; omega)

theorem decodeLoop_complete (cap fuel : ℕ) (bs : List (List UInt8)) (dst : List UInt8)
    (hb : ∀ b ∈ bs, Block b) (hf : bs.length ≤ fuel)
    (hcap : (dst ++ join 0 254 bs).length ≤ cap) :
    decodeLoop cap fuel (serialize bs) dst = some (dst ++ join 0 254 bs) := by
  induction bs generalizing fuel dst with
  | nil => cases fuel <;> simp [serialize, decodeLoop, join]
  | cons b bs ih =>
    obtain ⟨fuel, rfl⟩ : ∃ k, fuel = k+1 := ⟨fuel-1, by simp at hf; omega⟩
    have hblock : Block b := hb b (by simp)
    have hcopy : copyData b.length (b ++ serialize bs) dst = some (serialize bs, dst ++ b) :=
      (copyData_iff _ _ _ _ _).mpr ⟨b, rfl, rfl, hblock.1, rfl⟩
    have hdata : (UInt8.ofNat (b.length+1)).toNat-1 = b.length := by
      rw [code_toNat _ hblock.2]
      omega
    have hle : (dst ++ b).length ≤ (dst ++ join 0 254 (b::bs)).length := by
      cases bs with
      | nil => simp [join]
      | cons c bs =>
        rw [join_cons _ _ _ _ (by simp)]
        simp only [List.length_append]
        omega
    have hroom : ¬ cap < dst.length+b.length := by
      simp only [List.length_append] at hle hcap ⊢
      omega
    rw [serialize_cons]
    simp only [decodeLoop, if_neg (code_ne_zero _ hblock.2), hdata, if_neg hroom, hcopy]
    rw [if_neg (by simp)]
    by_cases hne : bs = []
    · simp [hne, serialize, join, decodeLoop]
    · have hser : serialize bs ≠ [] := fun he => hne ((serialize_eq_nil bs).mp he)
      rw [join_cons _ _ _ _ hne] at hcap ⊢
      by_cases hfull : b.length = 254
      · rw [if_pos hfull] at hcap ⊢
        rw [if_neg (fun hc => (code_lt_iff _ hblock.2).mp hc.1 hfull),
          ih fuel (dst ++ b) (fun c hc => hb c (by simp [hc])) (by simpa using hf)
            (by simpa using hcap)]
        simp
      · rw [if_neg hfull] at hcap ⊢
        have hspace : ¬ cap ≤ (dst ++ b).length := by
          simp only [List.length_append, List.length_singleton] at hcap ⊢
          omega
        rw [if_pos ⟨(code_lt_iff _ hblock.2).mpr hfull, hser⟩, if_neg hspace,
          ih fuel (dst ++ b ++ [0]) (fun c hc => hb c (by simp [hc])) (by simpa using hf)
            (by simpa using hcap)]
        simp

/-- The decoder returns a nonempty message exactly for a block list which
serializes to the input and whose join is the message and fits. -/
theorem decode_iff (src out : List UInt8) (cap : ℕ) (hne : out ≠ []) :
    decode src cap = out ↔
      ∃ bs, (∀ b ∈ bs, Block b) ∧ serialize bs = src ∧ join 0 254 bs = out ∧
        out.length ≤ cap := by
  constructor
  · intro h
    cases hl : decodeLoop cap src.length src [] with
    | none => simp [decode, hl, eq_comm, hne] at h
    | some o =>
      have ho : o = out := by simpa [decode, hl] using h
      obtain ⟨bs, hb, hser, hj, hle⟩ := decodeLoop_sound cap _ _ _ _ hl
      exact ⟨bs, hb, hser, by simpa [ho, eq_comm] using hj, ho ▸ hle (by simp)⟩
  · rintro ⟨bs, hb, rfl, rfl, hle⟩
    simp [decode, decodeLoop_complete cap _ bs [] hb (length_le_serialize bs) (by simpa using hle)]

theorem decode_encode (src : List UInt8) (hne : src ≠ []) (dstCap cap : ℕ)
    (h : cobsMaxEncodedLen src.length ≤ dstCap) (hcap : src.length ≤ cap) :
    decode (encode src dstCap) cap = src := by
  rw [encode_eq src dstCap h]
  exact (decode_iff _ _ _ hne).mpr ⟨cut 0 254 [] src, cut_stuffed 0 254 [] src (by simp) (by simp),
    rfl, by simpa using join_cut (0:UInt8) 254 [] src (by simp), hcap⟩

example : encode [1, 0, 2] 5 = [2, 1, 2, 2] ∧ decode [2, 1, 2, 2] 3 = [1, 0, 2] := by decide

end SputterOS.CobsCodec
