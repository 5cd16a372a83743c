import PolluxGM.QuicNumbers

/-!
# CRYPTO frames

Embedding of `crypto_frame.go`: a frame type, an offset and a length, each a varint, and
then the data. The reader is the inverse of the writer, and it accepts nothing but what
the writer writes.
-/
namespace Pollux.Quicgm

open Tls

def frameTypeCrypto : Nat := 6

def appendCryptoFrame (b : Bytes) (offset : Nat) (data : Bytes) : Except Err Bytes := do
  let b ← appendVarint b frameTypeCrypto
  let b ← appendVarint b offset
  let b ← appendVarint b data.length
  return b ++ data

def maxCryptoFrameLen : Nat := 16777216

def readCryptoFrame (b : Bytes) : Except Err (Nat × Bytes × Nat) := do
  let (ft, m) ← wrapErr "quicgm: read CRYPTO frame type" (readVarint b)
  let pos := m
  reject (ft ≠ frameTypeCrypto) (.text s!"quicgm: not a CRYPTO frame (type {hex ft})")
  let (offset, m) ← wrapErr "quicgm: read CRYPTO offset" (readVarint (b.drop pos))
  let pos := pos + m
  let (length, m) ← wrapErr "quicgm: read CRYPTO length" (readVarint (b.drop pos))
  let pos := pos + m
  reject (b.length < pos)
    (.text s!"quicgm: CRYPTO frame position {pos} exceeds buffer length {b.length}")
  let remaining := b.length - pos
  reject (remaining < length)
    (.text s!"quicgm: CRYPTO length {length} exceeds remaining {remaining} bytes")
  reject (maxCryptoFrameLen < length)
    (.text s!"quicgm: CRYPTO length {length} exceeds maximum {maxCryptoFrameLen}")
  return (offset, (b.drop pos).take length, pos + length)

lemma appendVarint_total (h : v ≤ maxVarint) : ∃ w, appendVarint [] v = .ok w := by
  rw [appendVarint, reject_neg (Nat.not_lt.mpr h)]
  exact ⟨_, rfl⟩

lemma appendVarint_append (h : appendVarint [] v = .ok w) (b : Bytes) :
    appendVarint b v = .ok (b ++ w) := by
  obtain ⟨_, hmax, hw⟩ := bind_ok.mp h
  cases hw
  rw [appendVarint, hmax]
  rfl

lemma readVarint_written (h : appendVarint [] v = .ok w) (rest : Bytes) :
    readVarint (w ++ rest) = .ok (v, w.length) := by
  obtain ⟨w', hw, hread⟩ := readVarint_appendVarint h
  rw [hw, List.nil_append]
  exact hread rest

lemma readVarint_split (h : readVarint b = .ok (v, n)) :
    ∃ w rest, appendVarint [] v = .ok w ∧ b = w ++ rest ∧ n = w.length := by
  obtain ⟨hn, hw⟩ := appendVarint_readVarint h
  exact ⟨b.take n, b.drop n, hw, (List.take_append_drop n b).symm, by rw [List.length_take]; omega⟩

structure Parts (offset : Nat) (data typ position size : Bytes) : Prop where
  typ_written : appendVarint [] frameTypeCrypto = .ok typ
  position_written : appendVarint [] offset = .ok position
  size_written : appendVarint [] data.length = .ok size

variable {offset : Nat} {data typ position size : Bytes}

lemma Parts.append (p : Parts offset data typ position size) (b : Bytes) :
    appendCryptoFrame b offset data = .ok (b ++ (typ ++ (position ++ (size ++ data)))) := by
  simp only [appendCryptoFrame, appendVarint_append p.typ_written,
    appendVarint_append p.position_written,
    appendVarint_append p.size_written, ok_bind, pure_ok, List.append_assoc]

lemma Parts.read (p : Parts offset data typ position size) (hdata : data.length ≤ maxCryptoFrameLen)
    (rest : Bytes) :
    readCryptoFrame (typ ++ (position ++ (size ++ data)) ++ rest) =
      .ok (offset, data, (typ ++ (position ++ (size ++ data))).length) := by
  have hfirst : typ ++ (position ++ (size ++ data)) ++ rest = typ ++
    (position ++ (size ++ (data ++ rest))) := by
    simp only [List.append_assoc]
  have hsecond (r : Bytes) : (typ ++ (position ++ r)).drop (typ.length + position.length) = r := by
    rw [← List.drop_drop, List.drop_left, List.drop_left]
  have hthird (r : Bytes) :
    (typ ++ (position ++ (size ++ r))).drop (typ.length + position.length + size.length) = r := by
    rw [← List.drop_drop, hsecond, List.drop_left]
  have htotal : (typ ++ (position ++ (size ++ (data ++ rest)))).length =
      typ.length + position.length + size.length + data.length + rest.length := by
    simp only [List.length_append]
    omega
  rw [hfirst]
  simp only [readCryptoFrame, readVarint_written p.typ_written, List.drop_left, hsecond, hthird,
    readVarint_written p.position_written, readVarint_written p.size_written, wrapErr_ok, ok_bind,
      pure_ok]
  rw [reject_bind (by simp), reject_bind (by omega), reject_bind (by omega),
    reject_bind (by omega), List.take_left' rfl]
  simp only [List.length_append]
  congr 3
  omega

lemma readCryptoFrame_ok (h : readCryptoFrame b = .ok (offset, data, n)) :
    n ≤ b.length ∧ ∃ typ position size, Parts offset data typ position size ∧
      b.take n = typ ++ (position ++ (size ++ data)) := by
  simp only [readCryptoFrame, bind_ok, wrapErr_eq_ok, reject_ok, pure_inj, Prod.mk.injEq] at h
  obtain ⟨⟨ft, m₁⟩, htyp, _, hft, ⟨offset', m₂⟩, hposition,
    ⟨length, m₃⟩, hsize, _, hpos, _, hremaining, _, -, rfl, rfl, rfl⟩ := h
  dsimp only at *
  obtain rfl : ft = frameTypeCrypto := Decidable.not_not.mp hft
  obtain ⟨typ, r₁, htyp', rfl, rfl⟩ := readVarint_split htyp
  rw [List.drop_left] at hposition
  obtain ⟨position, r₂, hposition', rfl, rfl⟩ := readVarint_split hposition
  rw [← List.drop_drop, List.drop_left, List.drop_left] at hsize
  obtain ⟨size, r₃, hsize', rfl, rfl⟩ := readVarint_split hsize
  simp only [List.length_append] at hpos hremaining
  have hdrop : (typ ++ (position ++ (size ++ r₃))).drop
    (typ.length + position.length + size.length) = r₃ := by
    rw [← List.drop_drop, ← List.drop_drop, List.drop_left, List.drop_left, List.drop_left]
  have hlen : (r₃.take length).length = length := by
    rw [List.length_take]
    omega
  have hwhole : typ ++ (position ++ (size ++ r₃)) = typ ++
    (position ++ (size ++ r₃.take length)) ++ r₃.drop length := by
    simp only [List.append_assoc, List.take_append_drop]
  rw [hdrop]
  refine ⟨by simp only [List.length_append]; omega, typ, position, size,
    ⟨htyp', hposition', ?_⟩, ?_⟩
  · rw [hlen]
    exact hsize'
  · rw [hwhole]
    exact List.take_left' (by simp only [List.length_append, hlen]; omega)

lemma parts_exist (data : Bytes) (hoffset : offset ≤ maxVarint)
    (hdata : data.length ≤ maxCryptoFrameLen) :
    ∃ typ position size, Parts offset data typ position size := by
  have hlength : data.length ≤ maxVarint := by
    simp only [maxCryptoFrameLen, maxVarint] at hdata ⊢
    omega
  obtain ⟨typ, htyp⟩ := appendVarint_total (show frameTypeCrypto ≤ maxVarint by decide)
  obtain ⟨position, hposition⟩ := appendVarint_total hoffset
  obtain ⟨size, hsize⟩ := appendVarint_total hlength
  exact ⟨typ, position, size, htyp, hposition, hsize⟩

/-- Varints and CRYPTO frames have one written form, which is read back whatever follows it, and
nothing else is accepted. -/
theorem varints_and_frames_canonical :
    (∀ v ≤ maxVarint, ∃ w, (∀ b, appendVarint b v = .ok (b ++ w)) ∧ w.length = varintLen v ∧
      ∀ rest, readVarint (w ++ rest) = .ok (v, w.length)) ∧
    (∀ b v n, readVarint b = .ok (v, n) → n ≤ b.length ∧ appendVarint [] v = .ok (b.take n)) ∧
    (∀ offset ≤ maxVarint, ∀ data : Bytes, data.length ≤ maxCryptoFrameLen →
      ∃ w, (∀ b, appendCryptoFrame b offset data = .ok (b ++ w)) ∧
        ∀ rest, readCryptoFrame (w ++ rest) = .ok (offset, data, w.length)) ∧
    ∀ b offset data n, readCryptoFrame b = .ok (offset, data, n) →
      n ≤ b.length ∧ appendCryptoFrame [] offset data = .ok (b.take n) := by
  refine ⟨?_, ?_, ?_, ?_⟩
  · intro v hv
    obtain ⟨w, hw⟩ := appendVarint_total hv
    exact ⟨w, appendVarint_append hw, (readVarint_length (readVarint_written hw [])).1,
      readVarint_written hw⟩
  · intro b v n h
    exact appendVarint_readVarint h
  · intro offset hoffset data hdata
    obtain ⟨typ, position, size, p⟩ := parts_exist data hoffset hdata
    exact ⟨_, p.append, p.read hdata⟩
  · intro b offset data n h
    obtain ⟨hn, typ, position, size, p, hb⟩ := readCryptoFrame_ok h
    rw [hb]
    exact ⟨hn, p.append []⟩

theorem varints_and_frames_canonical_sample :
    (∃ w, appendVarint [] 16384 = .ok w ∧ w.length = 4) ∧
    appendCryptoFrame [] 70 [1, 2] = .ok [6, 64, 70, 2, 1, 2] := by
  constructor
  · obtain ⟨w, happend, hlen, -⟩ := varints_and_frames_canonical.1 16384 (by decide)
    exact ⟨w, happend [], hlen⟩
  · exact (varints_and_frames_canonical.2.2.2 [6, 64, 70, 2, 1, 2, 9] 70 [1, 2] 6 (by decide)).2

end Pollux.Quicgm
