import Xsknf.Worker
import Mathlib.Algebra.Order.BigOperators.Group.Finset
import Mathlib.Order.Interval.Multiset

/-!
# Where the frames are

The design rests on one fact: every frame `xsk_configure_socket` primes is, at any time, in
exactly one place: a fill ring, an rx ring, the worker's current batch, a tx ring or a
completion ring.  The worker never allocates or frees a frame; it only moves addresses
from ring to ring, and the address carries its owner in its top bits.

This file collects the frames of a world (`frames`, a multiset of frame indices), states
the invariant of a run in aligned mode (`Inv`), and proves the facts about the data model
the step lemmas use: how frame indices, owners and the code's `addr >> owner_shift`
relate, what the multiset of addresses of a socket is made of, and that the initial world
holds each primed frame once.
-/

namespace Xsknf

open Finset in
/-- The addresses on a socket's four rings. -/
def XskSocketInfo.addrs (xsk : XskSocketInfo) : Multiset Nat :=
  ↑xsk.fq + ↑(xsk.rx.map PktInfo.addr) + ↑(xsk.tx.map PktInfo.addr) + ↑xsk.cq

/-- The descriptors the worker holds in its `to_tx` buckets: those of the destinations the
forwarding loop has not reached yet. -/
def Pc.held (n : Nat) : Pc → List PktInfo
  | .fwd _ j toTx => (List.range' j (n - j)).flatMap fun d => (toTx d).contents
  | .retry _ j toTx => (List.range' j (n - j)).flatMap fun d => (toTx d).contents
  | .fwd1 toTx => toTx.contents
  | .retry1 toTx => toTx.contents
  | _ => []

/-- All the addresses of a world: on the rings of its sockets and in the worker's hands. -/
def worldAddrs (n : Nat) (w : World) : Multiset Nat :=
  ∑ i in Finset.range n, (w.xsks i).addrs + ↑((w.pc.held n).map PktInfo.addr)

/-- The frames of a world, by index (`addr / frame_size`). -/
def frames (conf : Conf) (w : World) : Multiset Nat :=
  (worldAddrs conf.numInterfaces w).map (· / conf.xskFrameSize)

/-- The frames `xsk_configure_socket` primes: `0 .. num_interfaces * FRAMES_PER_SOCKET`. -/
def primedFrames (conf : Conf) : Multiset Nat :=
  Multiset.range (conf.numInterfaces * framesPerSocket)

/-- The socket that primed the frame an address lies in. -/
def frameOwner (conf : Conf) (a : Nat) : Nat := a / conf.xskFrameSize / framesPerSocket

/-- A descriptor the kernel can produce: a packet of at least one byte inside its frame. -/
def WellFormed (conf : Conf) (d : PktInfo) : Prop :=
  0 < d.len ∧ d.addr % conf.xskFrameSize + d.len ≤ conf.xskFrameSize

/-- An aligned configuration `xsknf_init` accepts: a power-of-two frame size, and a region
whose size the code's 32-bit arithmetic computes without wrapping. -/
structure Aligned (conf : Conf) (s : Nat) : Prop where
  unaligned : conf.unalignedChunks = false
  frameSize : conf.xskFrameSize = 2 ^ s
  fits : framesPerSocket * conf.numInterfaces * 2 ^ s < 2 ^ 32
  pos : 0 < conf.numInterfaces

/-- What the worker's place says about the indices it works on and the descriptors it
holds: the general path runs only with two interfaces or more, its ingress is a socket,
and every held descriptor came from the ingress socket's rx ring. -/
def PcOk (conf : Conf) : Pc → Prop
  | .top => True
  | .batch i => 1 < conf.numInterfaces ∧ i ≤ conf.numInterfaces
  | .recv i => 1 < conf.numInterfaces ∧ i < conf.numInterfaces
  | .fwd i j toTx => 1 < conf.numInterfaces ∧ i < conf.numInterfaces ∧ j ≤ conf.numInterfaces ∧
      ∀ d ∈ Pc.held conf.numInterfaces (.fwd i j toTx), frameOwner conf d.addr = i ∧ WellFormed conf d
  | .retry i j toTx => 1 < conf.numInterfaces ∧ i < conf.numInterfaces ∧ j < conf.numInterfaces ∧
      ∀ d ∈ Pc.held conf.numInterfaces (.retry i j toTx),
        frameOwner conf d.addr = i ∧ WellFormed conf d
  | .batch1 => conf.numInterfaces = 1
  | .recv1 => conf.numInterfaces = 1
  | .fwd1 toTx => conf.numInterfaces = 1 ∧
      ∀ d ∈ toTx.contents, frameOwner conf d.addr = 0 ∧ WellFormed conf d
  | .retry1 toTx => conf.numInterfaces = 1 ∧
      ∀ d ∈ toTx.contents, frameOwner conf d.addr = 0 ∧ WellFormed conf d

/-- What the invariant says about the sockets. -/
structure SockInv (conf : Conf) (xsks : Xsks) : Prop where
  /-- A fill ring holds only frames its socket primed. -/
  fq : ∀ i < conf.numInterfaces, ∀ a ∈ (xsks i).fq, frameOwner conf a = i
  /-- So does an rx ring, with packets inside their frames. -/
  rx : ∀ i < conf.numInterfaces, ∀ d ∈ (xsks i).rx, frameOwner conf d.addr = i ∧ WellFormed conf d
  /-- A tx ring holds packets of some socket, inside their frames. -/
  tx : ∀ j < conf.numInterfaces, ∀ d ∈ (xsks j).tx,
    frameOwner conf d.addr < conf.numInterfaces ∧ WellFormed conf d
  /-- A completion ring holds frames of some socket. -/
  cq : ∀ j < conf.numInterfaces, ∀ a ∈ (xsks j).cq, frameOwner conf a < conf.numInterfaces
  /-- `outstanding_tx` counts the descriptors on the tx and completion rings. -/
  outstanding : ∀ j < conf.numInterfaces,
    (xsks j).outstandingTx = (xsks j).tx.length + (xsks j).cq.length

/-- The invariant of every run in aligned mode. -/
structure Inv (conf : Conf) (w : World) : Prop where
  /-- No frame is held twice, and every frame held is a primed one. -/
  frames_le : frames conf w ≤ primedFrames conf
  /-- The sockets' rings hold frames of the right owners. -/
  sock : SockInv conf w.xsks
  /-- The worker's place is consistent. -/
  pc : PcOk conf w.pc

/-! ### Frame arithmetic in aligned mode -/

section Arith

variable {conf : Conf} {s : Nat} (ha : Aligned conf s)
include ha

lemma Aligned.frameSize_pos : 0 < conf.xskFrameSize := by
  rw [ha.frameSize]; exact Nat.two_pow_pos s

lemma Aligned.s_lt : s < 20 := (region_bounds ha.fits ha.pos).2

/-- In aligned mode the owner `complete_tx` decodes is the frame's owner. -/
lemma Aligned.decodeOwner_eq {a : Nat} (h : frameOwner conf a < conf.numInterfaces) :
    decodeOwner (ownerShift conf.xskFrameSize) a = frameOwner conf a := by
  have hn := (region_bounds ha.fits ha.pos).1
  rw [decodeOwner, ha.frameSize, ownerShift_pow_two (by have := ha.s_lt; omega),
    Nat.shiftRight_eq_div_pow, Nat.pow_add, Nat.mul_comm, ← Nat.div_div_eq_div_mul,
    toInt32_of_lt]
  · simp [frameOwner, ha.frameSize, framesPerSocket]
  · unfold frameOwner at h; rw [ha.frameSize] at h; exact lt_trans h (by omega)

lemma Aligned.ownersIn {addrs : List Nat}
    (h : ∀ a ∈ addrs, frameOwner conf a < conf.numInterfaces) :
    OwnersIn conf.numInterfaces (ownerShift conf.xskFrameSize) addrs := fun a ha' => by
  rw [ha.decodeOwner_eq (h a ha')]; exact ⟨by omega, by exact_mod_cast h a ha'⟩

lemma Aligned.ownedBy_eq {o : Nat} {addrs : List Nat}
    (h : ∀ a ∈ addrs, frameOwner conf a < conf.numInterfaces) :
    ownedBy (ownerShift conf.xskFrameSize) o addrs = addrs.filter (frameOwner conf · = o) := by
  unfold ownedBy
  refine List.filter_congr fun a ha' => ?_
  rw [ha.decodeOwner_eq (h a ha')]
  simp

/-- In aligned mode the chunk of a frame of some socket lies inside the region. -/
lemma Aligned.fillChunk_add_le {a : Nat} (h : frameOwner conf a < conf.numInterfaces) :
    fillChunk conf.unalignedChunks conf.xskFrameSize a + conf.xskFrameSize ≤
      umemBufsize conf.numInterfaces conf.xskFrameSize := by
  have h₁ : a / conf.xskFrameSize + 1 ≤ framesPerSocket * conf.numInterfaces := by
    rw [Nat.mul_comm]; exact (Nat.div_lt_iff_lt_mul (by decide)).1 h
  rw [fillChunk, ha.unaligned, if_neg Bool.false_ne_true, umemBufsize,
    Nat.mod_eq_of_lt (by rw [ha.frameSize]; exact ha.fits), ← Nat.succ_mul]
  exact Nat.mul_le_mul_right _ h₁

/-- The kernel's rx handle lies in the frame of the fill entry it came from. -/
lemma Aligned.rxHandle_div {a off : Nat} (hoff : off < conf.xskFrameSize) :
    rxHandle conf.unalignedChunks (fillChunk conf.unalignedChunks conf.xskFrameSize a) off
      / conf.xskFrameSize = a / conf.xskFrameSize := by
  have hfs := ha.frameSize_pos
  rw [ha.unaligned, rxHandle, fillChunk, if_neg Bool.false_ne_true, if_neg Bool.false_ne_true,
    Nat.mul_comm, Nat.mul_add_div hfs, Nat.div_eq_of_lt hoff, Nat.add_zero]

lemma Aligned.rxHandle_mod {a off : Nat} (hoff : off < conf.xskFrameSize) :
    rxHandle conf.unalignedChunks (fillChunk conf.unalignedChunks conf.xskFrameSize a) off
      % conf.xskFrameSize = off := by
  rw [ha.unaligned, rxHandle, fillChunk, if_neg Bool.false_ne_true, if_neg Bool.false_ne_true,
    Nat.mul_comm, Nat.mul_add_mod, Nat.mod_eq_of_lt hoff]

/-- Frame `k` of socket `i`, as primed. -/
lemma Aligned.primedAddr_div {i k : Nat} (hi : i < conf.numInterfaces) (hk : k < framesPerSocket) :
    primedAddr (i * framesPerSocket) k conf.xskFrameSize / conf.xskFrameSize =
      i * framesPerSocket + k := by
  rw [ha.frameSize, primedAddr_eq ha.fits hi hk, Nat.mul_div_cancel _ (Nat.two_pow_pos s)]

end Arith

/-! ### The addresses of a world -/

lemma map_finset_sum {α β : Type} (f : α → β) (g : Nat → Multiset α) (t : Finset Nat) :
    Multiset.map f (∑ i in t, g i) = ∑ i in t, (g i).map f :=
  map_sum (Multiset.mapAddMonoidHom f) g t

lemma Pc.held_of_ge {n j : Nat} (toTx : Nat → Bucket PktInfo) (h : n ≤ j) (i : Nat) :
    Pc.held n (.fwd i j toTx) = [] := by
  simp [Pc.held, Nat.sub_eq_zero_of_le h]

lemma Pc.held_fwd_succ {n j : Nat} (toTx : Nat → Bucket PktInfo) (h : j < n) (i : Nat) :
    Pc.held n (.fwd i j toTx) = (toTx j).contents ++ Pc.held n (.fwd i (j + 1) toTx) := by
  obtain ⟨m, rfl⟩ : ∃ m, n = j + 1 + m := ⟨n - (j + 1), by omega⟩
  simp [Pc.held, show j + 1 + m - j = m + 1 by omega, List.range'_succ]

lemma Pc.held_retry (n i j : Nat) (toTx : Nat → Bucket PktInfo) :
    Pc.held n (.retry i j toTx) = Pc.held n (.fwd i j toTx) := rfl

/-- An address on a fill ring counts its frame. -/
lemma mem_frames_of_mem_fq {conf : Conf} {w : World} {i a : Nat} (hi : i < conf.numInterfaces)
    (h : a ∈ (w.xsks i).fq) : a / conf.xskFrameSize ∈ frames conf w := by
  refine Multiset.mem_map.2 ⟨a, Multiset.mem_add.2 (.inl ?_), rfl⟩
  exact Multiset.mem_sum.2 ⟨i, Finset.mem_range.2 hi, Multiset.mem_add.2 (.inl
    (Multiset.mem_add.2 (.inl (Multiset.mem_add.2 (.inl h)))))⟩

/-! ### Accounting -/

/-- `A'` is `A` less what a wrap of the `uint8_t` counters loses, which is nothing while
the batch size stays below 256. -/
def Loses (conf : Conf) (A A' : Multiset Nat) : Prop :=
  ∃ lost : Multiset Nat, A' + lost = A ∧ (conf.batchSize < 256 → lost = 0)

namespace Loses

variable {conf : Conf} {A A' B B' : Multiset Nat}

lemma of_eq (h : A' = A) : Loses conf A A' := ⟨0, by rw [add_zero, h], fun _ => rfl⟩

lemma trans (h₁ : Loses conf A B) (h₂ : Loses conf B A') : Loses conf A A' := by
  obtain ⟨l₁, e₁, z₁⟩ := h₁
  obtain ⟨l₂, e₂, z₂⟩ := h₂
  exact ⟨l₂ + l₁, by rw [← add_assoc, e₂, e₁], fun hb => by rw [z₁ hb, z₂ hb, add_zero]⟩

lemma add (h₁ : Loses conf A A') (h₂ : Loses conf B B') : Loses conf (A + B) (A' + B') := by
  obtain ⟨l₁, e₁, z₁⟩ := h₁
  obtain ⟨l₂, e₂, z₂⟩ := h₂
  exact ⟨l₁ + l₂, by rw [← e₁, ← e₂, add_add_add_comm], fun hb => by rw [z₁ hb, z₂ hb, add_zero]⟩

lemma map (f : Nat → Nat) (h : Loses conf A A') : Loses conf (A.map f) (A'.map f) := by
  obtain ⟨l, e, z⟩ := h
  exact ⟨l.map f, by rw [← Multiset.map_add, e], fun hb => by rw [z hb, Multiset.map_zero]⟩

/-- An exchange `A' + X = A + Y` that gives back no more than it takes, and all of it
below the wrap. -/
lemma of_exchange {X Y : Multiset Nat} (h : A' + X = A + Y) (hY : Y ≤ X)
    (hb : conf.batchSize < 256 → Y = X) : Loses conf A A' := by
  have hX : X = Y + (X - Y) := (add_tsub_cancel_of_le hY).symm
  rw [hX, ← add_assoc, add_comm A' Y, add_assoc, add_comm A Y] at h
  exact ⟨X - Y, add_left_cancel h, fun h' => by rw [hb h', tsub_self]⟩

lemma le (h : Loses conf A A') : A' ≤ A := by
  obtain ⟨l, e, -⟩ := h
  exact e ▸ Multiset.le_add_right _ _

lemma eq (h : Loses conf A A') (hb : conf.batchSize < 256) : A' = A := by
  obtain ⟨l, e, z⟩ := h
  rw [← e, z hb, add_zero]

end Loses

/-- A step keeps every frame it does not lose. -/
def Keeps (conf : Conf) (w w' : World) : Prop :=
  Loses conf (frames conf w) (frames conf w')

/-- A step that loses no address but the counters' keeps every frame. -/
lemma Keeps.of_addrs {conf : Conf} {w w' : World}
    (h : Loses conf (worldAddrs conf.numInterfaces w) (worldAddrs conf.numInterfaces w')) :
    Keeps conf w w' :=
  h.map _

lemma sum_exchange {n : Nat} {A A' R S : Nat → Multiset Nat}
    (h : ∀ o < n, A' o + R o = A o + S o) :
    ∑ o in Finset.range n, A' o + ∑ o in Finset.range n, R o =
      ∑ o in Finset.range n, A o + ∑ o in Finset.range n, S o := by
  rw [← Finset.sum_add_distrib, ← Finset.sum_add_distrib]
  exact Finset.sum_congr rfl fun o ho => h o (Finset.mem_range.1 ho)

lemma sum_single {n i : Nat} (hi : i < n) (D : Multiset Nat) :
    ∑ o in Finset.range n, (if o = i then D else 0) = D := by
  rw [Finset.sum_ite_eq', if_pos (Finset.mem_range.2 hi)]

/-- Splitting a list by a function with values below `n` and summing the pieces gives the
list back. -/
lemma sum_filter_eq {α : Type} {n : Nat} (f : α → Nat) :
    ∀ (l : List α), (∀ a ∈ l, f a < n) →
      ∑ o in Finset.range n, ((l.filter (f · = o) : List α) : Multiset α) = l
  | [], _ => by simp
  | a :: l, h => by
    have hrest := sum_filter_eq f l fun b hb => h b (List.mem_cons_of_mem a hb)
    have hsplit : ∀ o, ((List.filter (f · = o) (a :: l) : List α) : Multiset α) =
        (if o = f a then {a} else 0) + ↑(l.filter (f · = o)) := by
      intro o
      by_cases ho : o = f a
      · subst ho; simp [List.filter_cons]
      · simp [List.filter_cons, Ne.symm ho, ho]
    simp only [hsplit, Finset.sum_add_distrib, hrest, Finset.sum_ite_eq', Finset.mem_range,
      if_pos (h a (List.mem_cons_self a l))]
    simp [Multiset.singleton_add]

/-- `xsk_configure_socket` primes socket `i` with frames `i * 4096 .. (i + 1) * 4096`. -/
lemma init_frames {conf : Conf} {s : Nat} (ha : Aligned conf s) (bindFlags : Nat → Nat) :
    frames conf (initWorld conf bindFlags) = primedFrames conf := by
  have hsock : ∀ i ∈ Finset.range conf.numInterfaces,
      ((initXsks conf bindFlags i).addrs).map (· / conf.xskFrameSize) =
        Multiset.map (fun k => i * framesPerSocket + k) (Multiset.range framesPerSocket) := by
    intro i hi
    rw [Finset.mem_range] at hi
    simp only [XskSocketInfo.addrs, initXsks, if_pos hi, List.map_nil, Multiset.coe_nil,
      add_zero, Multiset.map_coe, List.map_map, ← Multiset.coe_range, Multiset.coe_eq_coe]
    exact List.Perm.of_eq (List.map_congr_left fun k hk =>
      ha.primedAddr_div hi (List.mem_range.1 hk))
  unfold frames worldAddrs primedFrames
  simp only [initWorld, Pc.held, List.map_nil, Multiset.coe_nil, add_zero, map_finset_sum]
  rw [Finset.sum_congr rfl hsock]
  clear hsock
  induction conf.numInterfaces with
  | zero => simp
  | succ m ih => rw [Finset.sum_range_succ, ih, Nat.succ_mul, Multiset.range_add]

/-! ### Frames apart -/

lemma mem_addrs_of_mem_tx {x : XskSocketInfo} {d : PktInfo} (h : d ∈ x.tx) : d.addr ∈ x.addrs :=
  Multiset.mem_add.2 (.inl (Multiset.mem_add.2 (.inr (Multiset.mem_coe.2 (List.mem_map_of_mem _ h)))))

lemma mem_addrs_of_mem_fq {x : XskSocketInfo} {a : Nat} (h : a ∈ x.fq) : a ∈ x.addrs :=
  Multiset.mem_add.2 (.inl (Multiset.mem_add.2 (.inl (Multiset.mem_add.2 (.inl h)))))

lemma addrs_le_sum (xsks : Xsks) {n j : Nat} (hj : j < n) :
    (xsks j).addrs ≤ ∑ o in Finset.range n, (xsks o).addrs :=
  @Finset.single_le_sum Nat (Multiset Nat) _ (fun o => (xsks o).addrs) _ (fun _ _ => zero_le _) j
    (Finset.mem_range.2 hj)

lemma addrs_le_worldAddrs {conf : Conf} {w : World} {j : Nat} (hj : j < conf.numInterfaces) :
    (w.xsks j).addrs ≤ worldAddrs conf.numInterfaces w :=
  le_add_right (addrs_le_sum w.xsks hj)

lemma addrs_add_le_worldAddrs {conf : Conf} {w : World} {j s' : Nat} (hj : j < conf.numInterfaces)
    (hs : s' < conf.numInterfaces) (hne : j ≠ s') :
    (w.xsks j).addrs + (w.xsks s').addrs ≤ worldAddrs conf.numInterfaces w := by
  refine le_add_right ?_
  rw [← @Finset.sum_pair Nat (Multiset Nat) (fun o => (w.xsks o).addrs) _ _ j s' hne]
  exact Finset.sum_le_sum_of_subset (by simp [Finset.insert_subset_iff, hj, hs])

section Nodup

variable {conf : Conf} {w : World} (hinv : Inv conf w)
include hinv

lemma Inv.nodup_frames : (frames conf w).Nodup :=
  Multiset.nodup_of_le hinv.frames_le (Multiset.nodup_range _)

lemma Inv.nodup_map {A : Multiset Nat} (h : A ≤ worldAddrs conf.numInterfaces w) :
    (A.map (· / conf.xskFrameSize)).Nodup :=
  Multiset.nodup_of_le (Multiset.map_le_map h) hinv.nodup_frames

end Nodup

end Xsknf
