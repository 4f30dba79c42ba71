import Xsknf.Bytes
import Xsknf.RetryLoop

/-!
# The bytes of the packets in flight

`process_batch` hands a packet to its destination by address: in place when the two
sockets share a region, after a `memcpy` to the same offset of the destination's region
when they do not.  The NIC then sends the bytes the classifier left, provided nothing writes
the frame in between: not the driver's rx, not the classifier of a later batch, not the copy
of another packet.

The argument needs the history of a run, kept as ghost state beside the world (`GWorld`):
for each frame, the bytes its packet was left with when it was classified.  The ghost runs
(`GReachable`) are the runs of the model with that history recorded
(`reachable_iff_ghost`).  `PayloadInv` says that every descriptor on a tx ring refers, in its
socket's region, to the recorded bytes of its frame, and every descriptor the worker holds
does so in the ingress socket's region.  In aligned mode every step keeps it, because every
descriptor in flight has a frame of its own (`Inv`, through `Apart`): `packets_intact`.
With `--unaligned` the copy takes the descriptor's address, whose top 16 bits carry the data
offset, as an offset into the regions (`packet_copy_unaligned_fails`).
-/

namespace Xsknf

open Finset

variable {conf : Conf} {s : Nat}

/-! ### Descriptors apart -/

/-- In aligned mode a descriptor inside a frame of some socket has its data at its address. -/
lemma Aligned.addOffset_eq (ha : Aligned conf s) {a : Nat}
    (h : frameOwner conf a < conf.numInterfaces) : xskUmemAddOffsetToAddr a = a := by
  have h₁ : a < conf.numInterfaces * framesPerSocket * conf.xskFrameSize :=
    (Nat.div_lt_iff_lt_mul ha.frameSize_pos).1 ((Nat.div_lt_iff_lt_mul (by decide)).1 h)
  have h₂ : conf.numInterfaces * framesPerSocket * conf.xskFrameSize < 2 ^ 32 := by
    rw [ha.frameSize, Nat.mul_comm conf.numInterfaces]; exact ha.fits
  have h₃ : a < 2 ^ xskUnalignedBufOffsetShift := lt_trans h₁ (lt_trans h₂ (by decide))
  rw [xskUmemAddOffsetToAddr, xskUmemExtractAddr, xskUmemExtractOffset,
    Nat.shiftRight_eq_div_pow, Nat.mod_eq_of_lt h₃, Nat.div_eq_of_lt h₃, Nat.add_zero]

lemma Aligned.inFrame (ha : Aligned conf s) {d : PktInfo}
    (h : frameOwner conf d.addr < conf.numInterfaces ∧ WellFormed conf d) :
    InFrame conf.xskFrameSize d :=
  ⟨ha.addOffset_eq h.1, h.2.2⟩

/-- What the bytes argument needs of the sockets and of the descriptors the worker holds:
every descriptor on a tx ring or held lies inside a frame of some socket, the held ones in
frames of their own, none of them in the frame of a descriptor on a tx ring. -/
structure Apart (conf : Conf) (xsks : Xsks) (ds : List PktInfo) : Prop where
  tx : ∀ j < conf.numInterfaces, ∀ d ∈ (xsks j).tx,
    frameOwner conf d.addr < conf.numInterfaces ∧ WellFormed conf d
  held : ∀ d ∈ ds, frameOwner conf d.addr < conf.numInterfaces ∧ WellFormed conf d
  nodup : (ds.map (·.addr / conf.xskFrameSize)).Nodup
  tx_held : ∀ j < conf.numInterfaces, ∀ d ∈ (xsks j).tx, ∀ e ∈ ds,
    d.addr / conf.xskFrameSize ≠ e.addr / conf.xskFrameSize

/-- Steps that leave the tx rings alone keep the sockets apart from the held batch. -/
lemma Apart.of_tx {xsks xsks' : Xsks} {ds : List PktInfo} (h : Apart conf xsks ds)
    (htx : ∀ j, (xsks' j).tx = (xsks j).tx) : Apart conf xsks' ds :=
  ⟨fun j hj d hd => h.tx j hj d (htx j ▸ hd), h.held, h.nodup,
    fun j hj d hd => h.tx_held j hj d (htx j ▸ hd)⟩

section Apart

variable {w : World} (hinv : Inv conf w)
include hinv

/-- Addresses in two disjoint parts of a world lie in different frames. -/
lemma Inv.frame_ne {A B : Multiset Nat} (h : A + B ≤ worldAddrs conf.numInterfaces w) {a b : Nat}
    (ha : a ∈ A) (hb : b ∈ B) : a / conf.xskFrameSize ≠ b / conf.xskFrameSize := fun he => by
  have := hinv.nodup_map h
  rw [Multiset.map_add, Multiset.nodup_add] at this
  refine Multiset.disjoint_left.1 this.2.2 (Multiset.mem_map_of_mem (· / conf.xskFrameSize) ha) ?_
  show a / conf.xskFrameSize ∈ _
  rw [he]
  exact Multiset.mem_map_of_mem _ hb

/-- A frame on a fill ring or an rx ring is pending on no tx ring. -/
lemma Inv.frame_ne_tx {s' j : Nat} (hs : s' < conf.numInterfaces) (hj : j < conf.numInterfaces)
    {a : Nat} (ha : a ∈ (w.xsks s').fq ∨ a ∈ (w.xsks s').rx.map PktInfo.addr) {d : PktInfo}
    (hd : d ∈ (w.xsks j).tx) : a / conf.xskFrameSize ≠ d.addr / conf.xskFrameSize := by
  have ha' : a ∈ (↑(w.xsks s').fq + ↑((w.xsks s').rx.map PktInfo.addr) : Multiset Nat) :=
    Multiset.mem_add.2 (ha.imp Multiset.mem_coe.2 Multiset.mem_coe.2)
  have hd' : d.addr ∈ (↑((w.xsks j).tx.map PktInfo.addr) : Multiset Nat) :=
    Multiset.mem_coe.2 (List.mem_map_of_mem _ hd)
  by_cases hsj : s' = j
  · subst hsj
    exact hinv.frame_ne ((le_add_right le_rfl).trans (addrs_le_worldAddrs hs)) ha' hd'
  · exact hinv.frame_ne ((add_le_add (le_add_right (le_add_right le_rfl))
      (le_add_right (le_add_left le_rfl))).trans (addrs_add_le_worldAddrs hs hj hsj)) ha' hd'

/-- No frame on a socket's rings is in the worker's hands. -/
lemma Inv.frame_ne_held {s' : Nat} (hs : s' < conf.numInterfaces) {a : Nat}
    (ha : a ∈ (w.xsks s').addrs) {d : PktInfo} (hd : d ∈ w.pc.held conf.numInterfaces) :
    a / conf.xskFrameSize ≠ d.addr / conf.xskFrameSize :=
  hinv.frame_ne le_rfl (Multiset.mem_of_le (addrs_le_sum w.xsks hs) ha)
    (Multiset.mem_coe.2 (List.mem_map_of_mem _ hd))

lemma Inv.nodup_rx {i : Nat} (hi : i < conf.numInterfaces) :
    ((w.xsks i).rx.map (·.addr / conf.xskFrameSize)).Nodup := by
  have := hinv.nodup_map ((le_add_right (le_add_right (le_add_left le_rfl))).trans
    (addrs_le_worldAddrs hi) : (↑((w.xsks i).rx.map PktInfo.addr) : Multiset Nat) ≤ _)
  rwa [Multiset.map_coe, Multiset.coe_nodup, List.map_map] at this

/-- Every held descriptor lies inside a frame of the ingress socket. -/
lemma Inv.held_placed {d : PktInfo} (hd : d ∈ w.pc.held conf.numInterfaces) :
    frameOwner conf d.addr < conf.numInterfaces ∧ WellFormed conf d := by
  have hp := hinv.pc
  revert hp hd
  cases w.pc with
  | fwd i j toTx => exact fun hd hp => ⟨(hp.2.2.2 d hd).1 ▸ hp.2.1, (hp.2.2.2 d hd).2⟩
  | retry i j toTx => exact fun hd hp => ⟨(hp.2.2.2 d hd).1 ▸ hp.2.1, (hp.2.2.2 d hd).2⟩
  | fwd1 toTx => exact fun hd hp => ⟨by rw [(hp.2 d hd).1, hp.1]; exact Nat.one_pos, (hp.2 d hd).2⟩
  | retry1 toTx => exact fun hd hp => ⟨by rw [(hp.2 d hd).1, hp.1]; exact Nat.one_pos, (hp.2 d hd).2⟩
  | _ => exact fun hd => absurd hd (List.not_mem_nil _)

lemma Inv.apart : Apart conf w.xsks (w.pc.held conf.numInterfaces) where
  tx := hinv.sock.tx
  held _ hd := hinv.held_placed hd
  nodup := by
    have := hinv.nodup_map (le_add_left le_rfl :
      (↑((w.pc.held conf.numInterfaces).map PktInfo.addr) : Multiset Nat) ≤ _)
    rwa [Multiset.map_coe, Multiset.coe_nodup, List.map_map] at this
  tx_held _ hj _ hd _ he := hinv.frame_ne_held hj (mem_addrs_of_mem_tx hd) he

/-- A frame pending on a tx ring is nowhere else in the world. -/
lemma Inv.count_frame_tx {j : Nat} (hj : j < conf.numInterfaces) {d : PktInfo}
    (hd : d ∈ (w.xsks j).tx) : (frames conf w).count (d.addr / conf.xskFrameSize) = 1 :=
  Multiset.count_eq_one_of_mem hinv.nodup_frames
    (Multiset.mem_map_of_mem _ (Multiset.mem_of_le (addrs_le_worldAddrs hj) (mem_addrs_of_mem_tx hd)))

end Apart

/-! ### Ghost runs -/

/-- A world with the history of its run: for each frame, the bytes its last classified
packet was left with. -/
structure GWorld where
  world : World
  payload : Nat → List UInt8

/-- The ingress socket of the descriptors the worker holds. -/
def Pc.ingress : Pc → Nat
  | .fwd i _ _ => i
  | .retry i _ _ => i
  | _ => 0

/-- What a worker step from `w` to `w'` records: the bytes the rx half leaves in each packet
of its batch, read in the ingress region after the classifier ran. -/
def recordStep (conf : Conf) (w w' : World) (payload : Nat → List UInt8) : Nat → List UInt8 :=
  match w.pc with
  | .recv i => recordBatch conf.xskFrameSize w'.mem (w.xsks i).buffer
      ((w.xsks i).rx.take (received conf (w.xsks i))) payload
  | .recv1 => recordBatch conf.xskFrameSize w'.mem (w.xsks 0).buffer
      ((w.xsks 0).rx.take (received conf (w.xsks 0))) payload
  | _ => payload

/-- A step of the system with its history: worker steps record what they classify. -/
inductive GStep (conf : Conf) : GWorld → GWorld → Prop
  | worker {w w' : World} {payload : Nat → List UInt8} (cls : Classifier) (ready : Bool) :
      workerStep conf cls ready w = .ok w' → GStep conf ⟨w, payload⟩ ⟨w', recordStep conf w w' payload⟩
  | kernel {w w' : World} {payload : Nat → List UInt8} :
      KernelStep conf w w' → GStep conf ⟨w, payload⟩ ⟨w', payload⟩

/-- The ghost worlds a run from `xsknf_init`'s sockets can reach, starting with no history. -/
def GReachable (conf : Conf) (bindFlags : Nat → Nat) (g : GWorld) : Prop :=
  Relation.ReflTransGen (GStep conf) ⟨initWorld conf bindFlags, fun _ => []⟩ g

lemma GStep.step {g g' : GWorld} (h : GStep conf g g') : Step conf g.world g'.world := by
  cases h with
  | worker cls ready h => exact .worker cls ready h
  | kernel h => exact .kernel h

/-- The ghost runs are the runs of the model, with their history. -/
lemma reachable_iff_ghost {bindFlags : Nat → Nat} {w : World} :
    Reachable conf bindFlags w ↔ ∃ payload, GReachable conf bindFlags ⟨w, payload⟩ := by
  constructor
  · intro h
    induction h with
    | refl => exact ⟨_, .refl⟩
    | tail _ hs ih =>
      obtain ⟨p, hg⟩ := ih
      cases hs with
      | worker cls ready h => exact ⟨_, hg.tail (.worker cls ready h)⟩
      | kernel h => exact ⟨p, hg.tail (.kernel h)⟩
  · rintro ⟨p, h⟩
    suffices ∀ g, GReachable conf bindFlags g → Reachable conf bindFlags g.world from this _ h
    intro g hg
    induction hg with
    | refl => exact .refl
    | tail _ hs ih => exact ih.tail hs.step

/-! ### The invariant -/

/-- What every run keeps about the bytes of the packets in flight: a descriptor on a tx ring
refers, in its socket's region, to the bytes recorded for its frame, and so does a
descriptor the worker holds, in the ingress socket's region. -/
structure PayloadInv (conf : Conf) (g : GWorld) : Prop where
  tx : ∀ j < conf.numInterfaces, ∀ d ∈ (g.world.xsks j).tx,
    pktBytes g.world.mem (g.world.xsks j).buffer d = g.payload (d.addr / conf.xskFrameSize)
  held : ∀ d ∈ g.world.pc.held conf.numInterfaces,
    pktBytes g.world.mem (g.world.xsks g.world.pc.ingress).buffer d =
      g.payload (d.addr / conf.xskFrameSize)

section Steps

variable {xsks xsks' : Xsks} {mem mem' : Mem} {pc pc' : Pc} {p : Nat → List UInt8}

/-- A step that writes no byte, keeps the regions, and only takes descriptors off tx rings
and out of the worker's hands keeps the invariant. -/
lemma PayloadInv.of_quiet (hp : PayloadInv conf ⟨⟨xsks, mem, pc⟩, p⟩)
    (hbuf : ∀ o, (xsks' o).buffer = (xsks o).buffer)
    (htx : ∀ j < conf.numInterfaces, ∀ d ∈ (xsks' j).tx, d ∈ (xsks j).tx)
    (hheld : ∀ d ∈ pc'.held conf.numInterfaces,
      d ∈ pc.held conf.numInterfaces ∧ pc'.ingress = pc.ingress) :
    PayloadInv conf ⟨⟨xsks', mem, pc'⟩, p⟩ where
  tx j hj d hd := by
    show pktBytes mem (xsks' j).buffer d = _
    rw [hbuf]
    exact hp.tx j hj d (htx j hj d hd)
  held d hd := by
    obtain ⟨hd', hi⟩ := hheld d hd
    show pktBytes mem (xsks' pc'.ingress).buffer d = _
    rw [hbuf, hi]
    exact hp.held d hd'

variable (ha : Aligned conf s)
include ha

/-- The driver's rx writes only inside the frame at the head of the fill ring. -/
lemma payloadInv_kernel_rx {w : World} {s' a off len : Nat} {rest : List Nat} {bytes : List UInt8}
    (hinv : Inv conf w) (hp : PayloadInv conf ⟨w, p⟩) (hs' : s' < conf.numInterfaces)
    (hfq : (w.xsks s').fq = a :: rest) (hlen : 0 < len) (hoff : off + len ≤ conf.xskFrameSize)
    (hbytes : bytes.length = len) :
    PayloadInv conf ⟨{ w with
      xsks := Function.update w.xsks s' { w.xsks s' with
        fq := rest
        rx := (w.xsks s').rx ++
          [⟨rxHandle conf.unalignedChunks (fillChunk conf.unalignedChunks conf.xskFrameSize a) off,
            len⟩] }
      mem := writeBytes w.mem (w.xsks s').buffer
        (fillChunk conf.unalignedChunks conf.xskFrameSize a + off) bytes }, p⟩ := by
  have hoff' : off < conf.xskFrameSize := by omega
  have hx : fillChunk conf.unalignedChunks conf.xskFrameSize a + off =
      rxHandle conf.unalignedChunks (fillChunk conf.unalignedChunks conf.xskFrameSize a) off := by
    rw [ha.unaligned]; rfl
  have hw := @writesIn_writeBytes conf.xskFrameSize (w.xsks s').buffer
    (fillChunk conf.unalignedChunks conf.xskFrameSize a + off) bytes w.mem
    (by rw [hx, ha.rxHandle_mod hoff', hbytes]; exact hoff)
  rw [show (fillChunk conf.unalignedChunks conf.xskFrameSize a + off) / conf.xskFrameSize =
    a / conf.xskFrameSize by rw [hx, ha.rxHandle_div hoff']] at hw
  have hfq' : a ∈ (w.xsks s').fq := hfq ▸ List.mem_cons_self _ _
  set x : XskSocketInfo := { w.xsks s' with
    fq := rest
    rx := (w.xsks s').rx ++
      [⟨rxHandle conf.unalignedChunks (fillChunk conf.unalignedChunks conf.xskFrameSize a) off,
        len⟩] }
  have htx : ∀ o, (Function.update w.xsks s' x o).tx = (w.xsks o).tx := update_field _ rfl
  have hbuf : ∀ o, (Function.update w.xsks s' x o).buffer = (w.xsks o).buffer :=
    update_field _ rfl
  constructor
  · intro j hj d hd
    rw [htx] at hd
    show pktBytes _ (Function.update w.xsks s' x j).buffer d = _
    rw [hbuf, pktBytes_of_writesIn hw
      (ha.inFrame (hinv.sock.tx j hj d hd)) fun _ hm =>
        hinv.frame_ne_tx hs' hj (.inl hfq') hd (List.mem_singleton.1 hm).symm]
    exact hp.tx j hj d hd
  · intro d hd
    show pktBytes _ (Function.update w.xsks s' x w.pc.ingress).buffer d = _
    rw [hbuf, pktBytes_of_writesIn hw
      (ha.inFrame (hinv.held_placed hd)) fun _ hm =>
        hinv.frame_ne_held hs' (mem_addrs_of_mem_fq hfq') hd (List.mem_singleton.1 hm).symm]
    exact hp.held d hd

/-- The rx half of a batch: the classifier writes the packets of the batch in the ingress
region, the history records what it left, and the worker holds part of the batch. -/
lemma PayloadInv.classify {i k : Nat} {cls : Classifier} (hinv : Inv conf ⟨xsks, mem, pc⟩)
    (hi : i < conf.numInterfaces) (hp : PayloadInv conf ⟨⟨xsks, mem, pc⟩, p⟩)
    (hbuf : ∀ o, (xsks' o).buffer = (xsks o).buffer)
    (htx : ∀ j, (xsks' j).tx = (xsks j).tx)
    (hheld : ∀ d ∈ pc'.held conf.numInterfaces, d ∈ (xsks i).rx.take k ∧ pc'.ingress = i) :
    PayloadInv conf ⟨⟨xsks', classifyWrites cls (xsks i).buffer mem ((xsks i).rx.take k), pc'⟩,
      recordBatch conf.xskFrameSize (classifyWrites cls (xsks i).buffer mem ((xsks i).rx.take k))
        (xsks i).buffer ((xsks i).rx.take k) p⟩ := by
  have hin : ∀ d ∈ (xsks i).rx.take k, InFrame conf.xskFrameSize d := fun d hd => by
    obtain ⟨ho, hwf⟩ := hinv.sock.rx i hi d (List.mem_of_mem_take hd)
    exact ha.inFrame ⟨ho ▸ hi, hwf⟩
  have hw := writesIn_classifyWrites cls mem (r := (xsks i).buffer) hin
  have hnd : (((xsks i).rx.take k).map (·.addr / conf.xskFrameSize)).Nodup := by
    rw [List.map_take]; exact (List.take_sublist _ _).nodup (hinv.nodup_rx hi)
  constructor
  · intro j hj d hd
    rw [htx] at hd
    have hF : d.addr / conf.xskFrameSize ∉ ((xsks i).rx.take k).map (·.addr / conf.xskFrameSize) :=
      fun hm => by
        obtain ⟨e, he, hef⟩ := List.mem_map.1 hm
        exact hinv.frame_ne_tx hi hj (.inr (List.mem_map_of_mem _ (List.mem_of_mem_take he))) hd hef
    show pktBytes _ (xsks' j).buffer d = recordBatch _ _ _ _ p _
    rw [hbuf, pktBytes_of_writesIn hw (ha.inFrame (hinv.sock.tx j hj d hd)) fun _ => hF,
      recordBatch_of_not_mem hF]
    exact hp.tx j hj d hd
  · intro d hd
    obtain ⟨hd', hi'⟩ := hheld d hd
    show pktBytes _ (xsks' pc'.ingress).buffer d = recordBatch _ _ _ _ p _
    rw [hbuf, hi', recordBatch_of_mem hnd hd']

/-- The forwarding of one bucket to socket `j`: in place, or copied to `j`'s region.  The
descriptors it puts on `j`'s tx ring refer there to the bytes they had in the ingress
region, and the copy overwrites neither a pending packet nor a held one. -/
lemma PayloadInv.enqueue {j : Nat} {b : Bucket PktInfo} (hj : j < conf.numInterfaces)
    (hap : Apart conf xsks (pc.held conf.numInterfaces)) (hp : PayloadInv conf ⟨⟨xsks, mem, pc⟩, p⟩)
    (hheld : pc.held conf.numInterfaces = b.contents ++ pc'.held conf.numInterfaces)
    (hing : pc'.ingress = pc.ingress)
    (hmem : ((xsks pc.ingress).buffer = (xsks j).buffer ∧ mem' = mem) ∨
      ((xsks pc.ingress).buffer ≠ (xsks j).buffer ∧
        copyPackets conf (xsks j).buffer (xsks pc.ingress).buffer mem b.contents = .ok mem')) :
    PayloadInv conf
      ⟨⟨Function.update xsks j ((xsks j).submitTx b.contents b.count.toNat), mem', pc'⟩, p⟩ := by
  have hbin : ∀ d ∈ b.contents, d ∈ pc.held conf.numInterfaces :=
    fun d hd => hheld ▸ List.mem_append_left _ hd
  have hin : ∀ d ∈ b.contents, InFrame conf.xskFrameSize d :=
    fun d hd => ha.inFrame (hap.held d (hbin d hd))
  have hw : WritesIn conf.xskFrameSize (xsks j).buffer (b.contents.map (·.addr / conf.xskFrameSize))
      mem mem' := by
    rcases hmem with ⟨-, rfl⟩ | ⟨-, hc⟩
    · exact .refl _
    · exact writesIn_copyPackets hc hin
  have hbuf := update_field XskSocketInfo.buffer
    (XskSocketInfo.submitTx_buffer (xsks j) b.contents b.count.toNat)
  have hold : ∀ j' < conf.numInterfaces, ∀ d ∈ (xsks j').tx,
      pktBytes mem' (xsks j').buffer d = p (d.addr / conf.xskFrameSize) := fun j' hj' d hd => by
    rw [pktBytes_of_writesIn hw (ha.inFrame (hap.tx j' hj' d hd)) fun _ hm => ?_]
    · exact hp.tx j' hj' d hd
    · obtain ⟨e, he, hef⟩ := List.mem_map.1 hm
      exact hap.tx_held j' hj' d hd e (hbin e he) hef.symm
  constructor
  · intro j' hj' d hd
    dsimp only at hd ⊢
    rw [hbuf]
    by_cases hjj : j' = j
    · subst hjj
      rw [Function.update_same, XskSocketInfo.submitTx_tx, List.mem_append] at hd
      rcases hd with hd | hd
      · exact hold j' hj' d hd
      · refine Eq.trans ?_ (hp.held d (hbin d hd))
        rcases hmem with ⟨he, rfl⟩ | ⟨hne, hc⟩
        · exact congrArg (pktBytes _ · d) he.symm
        · have hnd := hap.nodup
          rw [hheld, List.map_append] at hnd
          exact pktBytes_copyPackets (Ne.symm hne) hc hin (List.nodup_append.1 hnd).1 d hd
    · rw [Function.update_noteq hjj] at hd
      exact hold j' hj' d hd
  · intro d hd
    have hd' : d ∈ pc.held conf.numInterfaces := hheld ▸ List.mem_append_right _ hd
    show pktBytes mem' (Function.update xsks j _ pc'.ingress).buffer d = _
    rw [hbuf, hing]
    rcases hmem with ⟨-, rfl⟩ | ⟨hne, -⟩
    · exact hp.held d hd'
    · rw [pktBytes_of_writesIn hw (ha.inFrame (hap.held d hd')) fun h => absurd h hne]
      exact hp.held d hd'

end Steps

/-! ### One step of the worker -/

section WorkerStep

variable (ha : Aligned conf s) {cls : Classifier} {ready : Bool} {xsks : Xsks} {mem : Mem}
  {w' : World} {p : Nat → List UInt8}
include ha

omit ha in
lemma payloadInv_top (hp : PayloadInv conf ⟨⟨xsks, mem, .top⟩, p⟩)
    (h : workerStep conf cls ready ⟨xsks, mem, .top⟩ = .ok w') :
    PayloadInv conf ⟨w', recordStep conf ⟨xsks, mem, .top⟩ w' p⟩ := by
  have hsame : ∀ o, SameRings
      ((if conf.poll then countPolls conf.numInterfaces xsks else xsks) o) (xsks o) := fun o => by
    split
    · exact sameRings_countPolls _ _ o
    · exact .refl _
  simp only [workerStep] at h
  split at h <;> cases h <;>
    refine hp.of_quiet (fun o => (hsame o).buffer) (fun j _ d hd => (hsame j).tx ▸ hd) fun d hd => ?_
  · exact absurd hd (List.not_mem_nil _)
  · split at hd <;> exact absurd hd (List.not_mem_nil _)

omit ha in
lemma payloadInv_batch {i : Nat} (hp : PayloadInv conf ⟨⟨xsks, mem, .batch i⟩, p⟩)
    (h : workerStep conf cls ready ⟨xsks, mem, .batch i⟩ = .ok w') :
    PayloadInv conf ⟨w', recordStep conf ⟨xsks, mem, .batch i⟩ w' p⟩ := by
  simp only [workerStep] at h
  split at h
  · obtain ⟨xsks₁, hc, h⟩ := bind_eq_ok h
    cases h
    rw [(completeTx_ok hc).2]
    exact hp.of_quiet (afterCompleteTx_buffer conf xsks i)
      (fun j _ d hd => by rwa [afterCompleteTx_tx] at hd) fun d hd => absurd hd (List.not_mem_nil _)
  · cases h
    exact hp.of_quiet (fun _ => rfl) (fun _ _ _ hd => hd) fun d hd => absurd hd (List.not_mem_nil _)

lemma payloadInv_recv {i : Nat} (hinv : Inv conf ⟨xsks, mem, .recv i⟩)
    (hp : PayloadInv conf ⟨⟨xsks, mem, .recv i⟩, p⟩)
    (h : workerStep conf cls ready ⟨xsks, mem, .recv i⟩ = .ok w') :
    PayloadInv conf ⟨w', recordStep conf ⟨xsks, mem, .recv i⟩ w' p⟩ := by
  obtain ⟨-, hi⟩ := hinv.pc
  simp only [workerStep] at h
  obtain ⟨⟨xsks₁, mem₁, r⟩, hr, h⟩ := bind_eq_ok h
  rcases receive_ok hr with ⟨h0, rfl, rfl, rfl⟩ | ⟨-, -, rfl, rfl, rfl⟩
  · cases h
    have hsame := SameRings.update (sameRings_emptyPoll conf (xsks i))
    show PayloadInv conf ⟨_, recordBatch _ _ _ ((xsks i).rx.take (received conf (xsks i))) p⟩
    rw [h0, List.take_zero, recordBatch_nil]
    exact hp.of_quiet (fun o => (hsame o).buffer) (fun j _ d hd => (hsame j).tx ▸ hd)
      fun d hd => absurd hd (List.not_mem_nil _)
  · cases h
    exact hp.classify ha hinv hi (update_field _ (afterReceive_buffer conf cls (xsks i)))
      (update_field _ (afterReceive_tx conf cls (xsks i))) fun d hd => ⟨mem_batch_of_mem_held hd, rfl⟩

lemma payloadInv_fwd {i j : Nat} {toTx : Nat → Bucket PktInfo}
    (hinv : Inv conf ⟨xsks, mem, .fwd i j toTx⟩) (hp : PayloadInv conf ⟨⟨xsks, mem, .fwd i j toTx⟩, p⟩)
    (h : workerStep conf cls ready ⟨xsks, mem, .fwd i j toTx⟩ = .ok w') :
    PayloadInv conf ⟨w', recordStep conf ⟨xsks, mem, .fwd i j toTx⟩ w' p⟩ := by
  simp only [workerStep] at h
  split at h
  · rename_i hj
    have hsplit := Pc.held_fwd_succ toTx hj i
    split at h
    · cases h
      exact hp.of_quiet (fun _ => rfl) (fun _ _ _ hd => hd) fun d hd =>
        ⟨by rw [hsplit]; exact List.mem_append_right _ hd, rfl⟩
    · split at h
      · obtain ⟨⟨xsks₁, mem₁⟩, he, h⟩ := bind_eq_ok h
        cases h
        rw [enqueueTx_ok he]
        exact hp.enqueue ha hj hinv.apart hsplit rfl (enqueueTx_mem he)
      · cases h
        exact hp.of_quiet (fun _ => rfl) (fun _ _ _ hd => hd) fun d hd => ⟨hd, rfl⟩
  · cases h
    exact hp.of_quiet (fun _ => rfl) (fun _ _ _ hd => hd) fun d hd => absurd hd (List.not_mem_nil _)

lemma payloadInv_retry {i j : Nat} {toTx : Nat → Bucket PktInfo}
    (hinv : Inv conf ⟨xsks, mem, .retry i j toTx⟩)
    (hp : PayloadInv conf ⟨⟨xsks, mem, .retry i j toTx⟩, p⟩)
    (h : workerStep conf cls ready ⟨xsks, mem, .retry i j toTx⟩ = .ok w') :
    PayloadInv conf ⟨w', recordStep conf ⟨xsks, mem, .retry i j toTx⟩ w' p⟩ := by
  obtain ⟨-, -, hj, -⟩ := hinv.pc
  simp only [workerStep] at h
  obtain ⟨xsks₁, hc, h⟩ := bind_eq_ok h
  rw [(completeTx_ok hc).2] at h
  have hsame := SameRings.update (sameRings_wakeupKick conf (afterCompleteTx conf xsks i j))
  have htx : ∀ o, (Function.update (afterCompleteTx conf xsks i) j
      (wakeupKick conf (afterCompleteTx conf xsks i j)) o).tx = (xsks o).tx :=
    fun o => (hsame o).tx.trans (afterCompleteTx_tx conf xsks i o)
  have hp₂ : PayloadInv conf ⟨⟨Function.update (afterCompleteTx conf xsks i) j
      (wakeupKick conf (afterCompleteTx conf xsks i j)), mem, .retry i j toTx⟩, p⟩ :=
    hp.of_quiet (fun o => (hsame o).buffer.trans (afterCompleteTx_buffer conf xsks i o))
      (fun o _ d hd => htx o ▸ hd) fun d hd => ⟨hd, rfl⟩
  split at h
  · obtain ⟨⟨xsks₃, mem₃⟩, he, h⟩ := bind_eq_ok h
    cases h
    rw [enqueueTx_ok he]
    exact hp₂.enqueue ha hj (hinv.apart.of_tx htx) (Pc.held_fwd_succ toTx hj i) rfl
      (enqueueTx_mem he)
  · cases h
    exact hp₂

omit ha in
lemma payloadInv_batch1 (hp : PayloadInv conf ⟨⟨xsks, mem, .batch1⟩, p⟩)
    (h : workerStep conf cls ready ⟨xsks, mem, .batch1⟩ = .ok w') :
    PayloadInv conf ⟨w', recordStep conf ⟨xsks, mem, .batch1⟩ w' p⟩ := by
  simp only [workerStep] at h
  obtain ⟨xsk, hc, h⟩ := bind_eq_ok h
  cases h
  rw [completeTx1if_ok hc]
  refine hp.of_quiet (fun o => ?_) (fun j _ d hd => ?_) fun d hd => absurd hd (List.not_mem_nil _)
  · exact update_field _ (afterCompleteTx1if_buffer conf (xsks 0)) o
  · rwa [update_field _ (afterCompleteTx1if_tx conf (xsks 0))] at hd

lemma payloadInv_recv1 (hinv : Inv conf ⟨xsks, mem, .recv1⟩)
    (hp : PayloadInv conf ⟨⟨xsks, mem, .recv1⟩, p⟩)
    (h : workerStep conf cls ready ⟨xsks, mem, .recv1⟩ = .ok w') :
    PayloadInv conf ⟨w', recordStep conf ⟨xsks, mem, .recv1⟩ w' p⟩ := by
  have h0 : 0 < conf.numInterfaces := by
    rw [show conf.numInterfaces = 1 from hinv.pc]; exact Nat.one_pos
  simp only [workerStep] at h
  obtain ⟨⟨xsk, mem₁, r⟩, hr, h⟩ := bind_eq_ok h
  rcases receive1if_ok hr with ⟨hz, rfl, rfl, rfl⟩ | ⟨-, rfl, rfl, rfl⟩
  · cases h
    have hsame := SameRings.update (sameRings_emptyPoll conf (xsks 0))
    show PayloadInv conf ⟨_, recordBatch _ _ _ ((xsks 0).rx.take (received conf (xsks 0))) p⟩
    rw [hz, List.take_zero, recordBatch_nil]
    exact hp.of_quiet (fun o => (hsame o).buffer) (fun j _ d hd => (hsame j).tx ▸ hd)
      fun d hd => absurd hd (List.not_mem_nil _)
  · cases h
    exact hp.classify ha hinv h0 (update_field _ (afterReceive_buffer conf cls (xsks 0)))
      (update_field _ (afterReceive_tx conf cls (xsks 0))) fun d hd =>
        ⟨mem_batch_of_mem_forwardBucket hd, rfl⟩

lemma payloadInv_fwd1 {toTx : Bucket PktInfo} (hinv : Inv conf ⟨xsks, mem, .fwd1 toTx⟩)
    (hp : PayloadInv conf ⟨⟨xsks, mem, .fwd1 toTx⟩, p⟩)
    (h : workerStep conf cls ready ⟨xsks, mem, .fwd1 toTx⟩ = .ok w') :
    PayloadInv conf ⟨w', recordStep conf ⟨xsks, mem, .fwd1 toTx⟩ w' p⟩ := by
  have h0 : 0 < conf.numInterfaces := by rw [hinv.pc.1]; exact Nat.one_pos
  simp only [workerStep] at h
  split at h
  · cases h
    exact hp.of_quiet (fun _ => rfl) (fun _ _ _ hd => hd) fun d hd => absurd hd (List.not_mem_nil _)
  · split at h
    · cases h
      exact hp.enqueue ha h0 hinv.apart (List.append_nil _).symm rfl (.inl ⟨rfl, rfl⟩)
    · cases h
      exact hp.of_quiet (fun _ => rfl) (fun _ _ _ hd => hd) fun d hd => ⟨hd, rfl⟩

lemma payloadInv_retry1 {toTx : Bucket PktInfo} (hinv : Inv conf ⟨xsks, mem, .retry1 toTx⟩)
    (hp : PayloadInv conf ⟨⟨xsks, mem, .retry1 toTx⟩, p⟩)
    (h : workerStep conf cls ready ⟨xsks, mem, .retry1 toTx⟩ = .ok w') :
    PayloadInv conf ⟨w', recordStep conf ⟨xsks, mem, .retry1 toTx⟩ w' p⟩ := by
  have h0 : 0 < conf.numInterfaces := by rw [hinv.pc.1]; exact Nat.one_pos
  simp only [workerStep] at h
  obtain ⟨xsk, hc, h⟩ := bind_eq_ok h
  rw [completeTx1if_ok hc] at h
  set x := wakeupKick conf (afterCompleteTx1if conf (xsks 0))
  have htx : ∀ o, (Function.update xsks 0 x o).tx = (xsks o).tx := update_field _
    ((sameRings_wakeupKick conf _).tx.trans (afterCompleteTx1if_tx conf (xsks 0)))
  have hp₂ : PayloadInv conf ⟨⟨Function.update xsks 0 x, mem, .retry1 toTx⟩, p⟩ :=
    hp.of_quiet (update_field _ ((sameRings_wakeupKick conf _).buffer.trans
      (afterCompleteTx1if_buffer conf (xsks 0)))) (fun o _ d hd => htx o ▸ hd) fun d hd => ⟨hd, rfl⟩
  split at h
  · cases h
    have hz : Function.update xsks 0 (x.submitTx toTx.contents toTx.count.toNat) =
        Function.update (Function.update xsks 0 x) 0
          ((Function.update xsks 0 x 0).submitTx toTx.contents toTx.count.toNat) := by
      rw [Function.update_idem, Function.update_same]
    rw [hz]
    exact hp₂.enqueue ha h0 (hinv.apart.of_tx htx) (List.append_nil _).symm rfl (.inl ⟨rfl, rfl⟩)
  · cases h
    exact hp₂

/-- Every step of the worker keeps the invariant, with what it classifies recorded. -/
theorem payloadInv_workerStep {w : World} (hinv : Inv conf w) (hp : PayloadInv conf ⟨w, p⟩)
    (h : workerStep conf cls ready w = .ok w') : PayloadInv conf ⟨w', recordStep conf w w' p⟩ := by
  obtain ⟨xsks, mem, pc⟩ := w
  cases pc with
  | top => exact payloadInv_top hp h
  | batch i => exact payloadInv_batch hp h
  | recv i => exact payloadInv_recv ha hinv hp h
  | fwd i j toTx => exact payloadInv_fwd ha hinv hp h
  | retry i j toTx => exact payloadInv_retry ha hinv hp h
  | batch1 => exact payloadInv_batch1 hp h
  | recv1 => exact payloadInv_recv1 ha hinv hp h
  | fwd1 toTx => exact payloadInv_fwd1 ha hinv hp h
  | retry1 toTx => exact payloadInv_retry1 ha hinv hp h

/-- Every step of the kernel keeps the invariant. -/
theorem payloadInv_kernelStep {w : World} (hinv : Inv conf w) (hp : PayloadInv conf ⟨w, p⟩)
    (h : KernelStep conf w w') : PayloadInv conf ⟨w', p⟩ := by
  cases h with
  | rx s' a rest off len bytes hs' hfq _ hlen hoff hbytes _ =>
    exact payloadInv_kernel_rx ha hinv hp hs' hfq hlen hoff hbytes
  | tx s' d rest hs' htx _ =>
    obtain ⟨xsks, mem, pc⟩ := w
    refine hp.of_quiet (fun o => ?_) (fun j _ e he => ?_) fun d hd => ⟨hd, rfl⟩
    · exact update_field _ (by rfl) o
    · by_cases hj : j = s'
      · subst hj
        rw [Function.update_same] at he
        exact htx ▸ List.mem_cons_of_mem _ he
      · rwa [Function.update_noteq hj] at he
  | wakeup s' t f =>
    obtain ⟨xsks, mem, pc⟩ := w
    refine hp.of_quiet (fun o => ?_) (fun j _ e he => ?_) fun d hd => ⟨hd, rfl⟩
    · exact update_field _ (by rfl) o
    · rwa [update_field XskSocketInfo.tx (by rfl)] at he

end WorkerStep

/-! ### Whole runs -/

lemma payloadInv_init (bindFlags : Nat → Nat) :
    PayloadInv conf ⟨initWorld conf bindFlags, fun _ => []⟩ where
  tx _ _ _ hd := by simp [initWorld, initXsks] at hd
  held _ hd := absurd hd (List.not_mem_nil _)

/-- In aligned mode every ghost run keeps the frame invariant and the packet-bytes
invariant. -/
theorem payloadInv_reachable (ha : Aligned conf s) {bindFlags : Nat → Nat} {g : GWorld}
    (hg : GReachable conf bindFlags g) : Inv conf g.world ∧ PayloadInv conf g := by
  induction hg with
  | refl => exact ⟨inv_init ha bindFlags, payloadInv_init bindFlags⟩
  | tail _ h ih =>
    refine ⟨(inv_step ha ih.1 h.step).1, ?_⟩
    cases h with
    | worker cls ready h => exact payloadInv_workerStep ha ih.1 ih.2 h
    | kernel h => exact payloadInv_kernelStep ha ih.1 ih.2 h

/-- Packet bytes stay intact in aligned mode.  Every run of the model has a ghost run with
its history, and in every ghost run each descriptor pending on socket `j`'s tx ring refers,
at its data offset in `j`'s region, to the bytes the classifier left in the packet's
ingress frame (`PayloadInv`: copied between regions, in place otherwise); its data offset
is its address, its bytes lie inside its frame, and that frame is nowhere else in the
world: on no fill, rx or completion ring, under no other tx descriptor, not in the worker's
hands. -/
theorem packets_intact {conf : Conf} {s : Nat} {bindFlags : Nat → Nat} (ha : Aligned conf s) :
    (∀ w, Reachable conf bindFlags w ↔ ∃ payload, GReachable conf bindFlags ⟨w, payload⟩) ∧
      ∀ g, GReachable conf bindFlags g → PayloadInv conf g ∧
        ∀ j < conf.numInterfaces, ∀ d ∈ (g.world.xsks j).tx,
          xskUmemAddOffsetToAddr d.addr = d.addr ∧
          (∀ x, d.addr ≤ x → x < d.addr + d.len →
            x / conf.xskFrameSize = d.addr / conf.xskFrameSize) ∧
          (frames conf g.world).count (d.addr / conf.xskFrameSize) = 1 := by
  refine ⟨fun w => reachable_iff_ghost, fun g hg => ?_⟩
  obtain ⟨hinv, hp⟩ := payloadInv_reachable ha hg
  refine ⟨hp, fun j hj d hd => ?_⟩
  have hd' := hinv.sock.tx j hj d hd
  refine ⟨ha.addOffset_eq hd'.1, fun x h₁ h₂ => ?_, hinv.count_frame_tx hj hd⟩
  rw [show x = d.addr + (x - d.addr) by omega, add_div_of_mod_add_lt (by have := hd'.2.2; omega)]

theorem packets_intact_jammed :
    ∃ g toTx, GReachable twoPortConf (fun _ => 0) g ∧ Jammed twoPortConf g.world 0 1 toTx ∧
      (g.world.xsks 1).tx.length = txSize ∧ PayloadInv twoPortConf g := by
  obtain ⟨w, T, hw, hj, htx, -⟩ := sched_jam
  have h := @packets_intact twoPortConf 12 (fun _ => 0) aligned_twoPortConf
  obtain ⟨p, hg⟩ := (h.1 w).1 hw
  exact ⟨⟨w, p⟩, T, hg, hj, htx, (h.2 _ hg).1⟩

/-! ### Unaligned chunks -/

/-- Two interfaces with `--unaligned` 4096-byte chunks, batches of 64. -/
def splitConf : Conf :=
  { numInterfaces := 2, batchSize := 64, poll := false, busyPoll := false,
    xskFrameSize := 4096, unalignedChunks := true }

/-- Socket `1` bound in copy mode, to `copy_buffer`, socket `0` to `buffer`. -/
def splitBindFlags : Nat → Nat := fun i => if i = 1 then xdpCopy else 0

/-- A run of `splitConf` after the driver has written one byte at data offset 256 of socket
`0`'s chunk `0` and the worker, with nothing to complete, has entered the rx half of
`process_batch(xsks, 0)`. -/
def splitRecv : World :=
  { xsks := Function.update (initXsks splitConf splitBindFlags) 0
      { initXsks splitConf splitBindFlags 0 with fq := fq0Rest, rx := [⟨rxHandle true 0 256, 1⟩] }
    mem := writeBytes (fun _ _ => 0) 0 (fillChunk true 4096 0 + 256) [0]
    pc := .recv 0 }

/-- The same run once `process_batch(xsks, 0)` has classified the packet to socket `1` and
passed the empty destination `0`. -/
def splitFwd : World :=
  ⟨Function.update splitRecv.xsks 0 (afterReceive splitConf (forwardTo 1) (splitRecv.xsks 0)),
    classifyWrites (forwardTo 1) (splitRecv.xsks 0).buffer splitRecv.mem
      ((splitRecv.xsks 0).rx.take (received splitConf (splitRecv.xsks 0))),
    .fwd 0 1 (txBuckets (batchPairs splitConf (forwardTo 1) (splitRecv.xsks 0)))⟩

lemma reachable_splitFwd : Reachable splitConf splitBindFlags splitFwd := by
  have k₁ := @KernelStep.rx splitConf (initWorld splitConf splitBindFlags) 0 _ fq0Rest 256 1 [0]
    (by decide) (initXsks_fq_zero (by decide) rfl _) (by decide) (by decide) (by decide) rfl
    (by decide)
  have hrecv : Reachable splitConf splitBindFlags splitRecv :=
    ((Relation.ReflTransGen.single (.kernel k₁)).tail
      (.worker dropAll true (workerStep_top rfl rfl))).tail (.worker dropAll true (by rfl))
  have k₄ := @workerStep_recv splitConf (forwardTo 1) true splitRecv 0 _ _ _ rfl
    (receive_eq (by decide) (by decide) (.inl (by decide)))
  exact (hrecv.tail (.worker _ _ k₄)).tail (.worker (forwardTo 1) true (by rfl))

/-- With `--unaligned` the forwarding loop copies between split regions at the descriptor's
address, not at its data offset.  A packet at data offset 256 of chunk 0 of socket `0`
(region `0`), classified to socket `1` (region `1`), has the address `2 ^ 56`; the worker
reaches the copy holding it, and the copy of its one byte falls outside the regions, so the
step faults whatever the classifier and `poll` answer. -/
theorem packet_copy_unaligned_fails :
    ∃ w, Reachable splitConf splitBindFlags w ∧ (w.xsks 0).buffer ≠ (w.xsks 1).buffer ∧
      w.pc.held splitConf.numInterfaces = [⟨2 ^ 56, 1⟩] ∧ xskUmemAddOffsetToAddr (2 ^ 56) = 256 ∧
      ∀ cls ready, workerStep splitConf cls ready w = .error .outOfBounds :=
  ⟨splitFwd, reachable_splitFwd, by decide, rfl, by decide, fun _ _ =>
    workerStep_fwd_error rfl (by decide) (by decide) (by decide)
      (enqueueTx_error (by decide) (copyPackets_cons_error (by decide)))⟩

end Xsknf
