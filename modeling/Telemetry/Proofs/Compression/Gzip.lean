import Telemetry.Compression.Gzip
import Telemetry.Proofs.Number.Endian

/-!
# Unpacking what was packed

`unpack?` gives back what `pack` was given, also when the packed bytes are followed by others. A member
that is written here consists of blocks of bytes as they are, each but the last of the greatest length.
-/

namespace Telemetry

namespace Inflate

open Gzip (blockSize storedBlock storedBlocks)

/-- The bytes of a block after its first one. -/
theorem stored?_length_content (output : Array UInt8) {content : Bytes} (rest : Bytes)
    (fits : content.length ≤ blockSize) :
    stored? output (Endian.little 2 content.length ++ Endian.little 2 (0xffff - content.length) ++
      content ++ rest) = some (output ++ content, .ofBytes rest) := by
  have length_fits : content.length < 256 ^ 2 := by
    unfold blockSize at fits
    omega
  have length_read : Endian.ofLittle (Endian.little 2 content.length) = content.length :=
    Endian.ofLittle_little 2 content.length length_fits
  have complement_read :
      Endian.ofLittle (Endian.little 2 (0xffff - content.length)) = 0xffff - content.length :=
    Endian.ofLittle_little 2 (0xffff - content.length) (by omega)
  have sum : 0xffff - content.length + content.length = 0xffff := by
    unfold blockSize at fits
    omega
  simp only [Endian.little] at length_read complement_read ⊢
  simp only [stored?, List.cons_append, List.nil_append, length_read, complement_read, sum, if_true,
    List.take_left', List.drop_left']

/-- A block that is not marked as the last is followed by others. -/
theorem blocks?_storedBlock_false (symbolFuel fuel : Nat) (output : Array UInt8) {content : Bytes}
    (rest : Bytes) (fits : content.length ≤ blockSize) :
    blocks? symbolFuel (fuel + 1) output (.ofBytes (storedBlock false content ++ rest)) =
      blocks? symbolFuel fuel (output ++ content) (.ofBytes rest) := by
  have read := stored?_length_content output rest fits
  simp [blocks?, storedBlock, BitSource.ofBytes, BitSource.bit?, block?, BitSource.bits?,
    BitSource.bytes] at read ⊢
  simp [read]

/-- A block that is marked as the last ends the data. -/
theorem blocks?_storedBlock_true (symbolFuel fuel : Nat) (output : Array UInt8) {content : Bytes}
    (rest : Bytes) (fits : content.length ≤ blockSize) :
    blocks? symbolFuel (fuel + 1) output (.ofBytes (storedBlock true content ++ rest)) =
      some (output ++ content, rest) := by
  have read := stored?_length_content output rest fits
  simp [blocks?, storedBlock, BitSource.ofBytes, BitSource.bit?, block?, BitSource.bits?,
    BitSource.bytes] at read ⊢
  simp [read]

/-- A block takes more bytes than its content has, so there is fuel enough for all of them. -/
theorem blocks?_storedBlocks (symbolFuel fuel : Nat) (output : Array UInt8) (content rest : Bytes)
    (enough : content.length < fuel) :
    blocks? symbolFuel fuel output (.ofBytes (storedBlocks content ++ rest)) =
      some (output ++ content, rest) := by
  induction content using Gzip.storedBlocks.induct generalizing fuel output with
  | case1 content fits =>
    obtain ⟨fuel, rfl⟩ : ∃ left, fuel = left + 1 := ⟨fuel - 1, by omega⟩
    rw [storedBlocks, if_pos fits]
    exact blocks?_storedBlock_true symbolFuel fuel output rest fits
  | case2 content tooLong inductionHypothesis =>
    obtain ⟨fuel, rfl⟩ : ∃ left, fuel = left + 1 := ⟨fuel - 1, by omega⟩
    have fewer : (content.drop blockSize).length < fuel := by
      simp only [List.length_drop, blockSize] at tooLong ⊢
      omega
    rw [storedBlocks, if_neg tooLong, List.append_assoc,
      blocks?_storedBlock_false symbolFuel fuel output _ (List.length_take_le _ _),
      inductionHypothesis fuel _ fewer]
    have joined : output ++ content.take blockSize ++ content.drop blockSize = output ++ content :=
      Array.toList_inj.1 (by simp)
    rw [joined]

end Inflate

namespace Gzip

theorem length_lt_storedBlocks (content : Bytes) : content.length < (storedBlocks content).length := by
  induction content using storedBlocks.induct with
  | case1 content fits =>
    rw [storedBlocks, if_pos fits]
    simp [storedBlock]
    omega
  | case2 content tooLong inductionHypothesis =>
    rw [storedBlocks, if_neg tooLong]
    simp [storedBlock] at inductionHypothesis ⊢
    omega

@[simp]
theorem length_trailer (content : Bytes) : (trailer content).length = 8 := by
  simp [trailer]

theorem unpack?_pack_append (content rest : Bytes) :
    unpack? (pack content ++ rest) = some content := by
  have enough : content.length < 8 * (storedBlocks content ++ (trailer content ++ rest)).length := by
    have := length_lt_storedBlocks content
    simp only [List.length_append]
    omega
  have afterHeader : afterHeader? (pack content ++ rest) =
      some (storedBlocks content ++ (trailer content ++ rest)) := by
    simp [pack, header, afterHeader?, afterOptional?]
  have inflated : Inflate.content? (storedBlocks content ++ (trailer content ++ rest)) =
      some (content, trailer content ++ rest) := by
    unfold Inflate.content?
    dsimp only
    rw [Inflate.blocks?_storedBlocks _ _ _ _ _ enough]
    simp
  have trailing : (trailer content ++ rest).take 8 = trailer content :=
    List.take_left' (length_trailer content)
  simp [unpack?, afterHeader, inflated, trailing]

/-- Unpacking undoes packing. -/
@[simp]
theorem unpack?_pack (content : Bytes) : unpack? (pack content) = some content := by
  simpa using unpack?_pack_append content []

end Gzip

end Telemetry
