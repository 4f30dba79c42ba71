import Xsknf.CompleteTx

/-!
# One batch: receive, classify, recycle, forward

`process_batch(xsks, i)` runs `complete_tx(xsks, i)`, peeks up to `batch_size` rx
descriptors of socket `i`, asks the classifier about each packet, releases the rx slots,
gives the dropped frames back to socket `i`'s fill ring and forwards the rest to the tx
rings of their destinations, copying the bytes when the destination's region is not the
source's.  `process_batch_1if` does the same for a worker with one interface.

The classifier is an oracle: for the `p`-th packet of a batch it returns a verdict and the
bytes it leaves in the packet.  Every classifier, stateful or not, is one such oracle.

Here are the pieces, each as the code computes it; `Worker.lean` strings them into the
worker's steps, with the reservation retry loop as a state of its own so that kernel steps
can run while the worker waits in it.
-/

namespace Xsknf

/-- The bytes of a worker's regions (`buffer`, `copy_buffer`), by region identity. -/
abbrev Mem := Nat → Nat → UInt8

/-- The classifier as an oracle: for the `p`-th packet of a batch, the verdict
`xsknf_packet_processor` returns and the bytes it leaves in the packet. -/
abbrev Classifier := Nat → Int × List UInt8

/-- Write `bytes` at offset `start` of region `r`. -/
def writeBytes (mem : Mem) (r start : Nat) (bytes : List UInt8) : Mem :=
  Function.update mem r fun a =>
    if start ≤ a ∧ a < start + bytes.length then bytes.getD (a - start) 0 else mem r a

/-- `__builtin_memcpy(dst + addr, src + addr, len)` between two regions. -/
def memcpy (mem : Mem) (dst src addr len : Nat) : Mem :=
  Function.update mem dst fun a => if addr ≤ a ∧ a < addr + len then mem src a else mem dst a

/-- The verdicts of a batch, paired with the descriptors they are about. -/
def verdictPairs (cls : Classifier) (descs : List PktInfo) : List (Int × PktInfo) :=
  descs.enum.map fun pd => ((cls pd.1).1, pd.2)

/-- The descriptors of a batch that got verdict `v`, in receive order. -/
def selectVerdict (v : Int) (pairs : List (Int × PktInfo)) : List PktInfo :=
  pairs.filterMap fun rd => if rd.1 = v then some rd.2 else none

/-- What the classifier writes: for each packet, its bytes at
`xsk_umem__add_offset_to_addr(addr)` in the socket's region, at most `len` of them. -/
def classifyWrites (cls : Classifier) (r : Nat) (mem : Mem) (descs : List PktInfo) : Mem :=
  descs.enum.foldl (fun mem pd =>
    writeBytes mem r (xskUmemAddOffsetToAddr pd.2.addr) ((cls pd.1).2.take pd.2.len)) mem

/-- One iteration of the classification loop of `process_batch`: a `-1` goes to `to_drop`,
a verdict `ret` to `to_tx[ret]`, a row of an array of `num_interfaces` rows. -/
def classifyStep (n : Nat) (acc : Bucket PktInfo × (Nat → Bucket PktInfo)) (rd : Int × PktInfo) :
    Except Fault (Bucket PktInfo × (Nat → Bucket PktInfo)) :=
  if rd.1 = -1 then pure (acc.1.push rd.2, acc.2)
  else if 0 ≤ rd.1 ∧ rd.1 < n then
    pure (acc.1, Function.update acc.2 rd.1.toNat ((acc.2 rd.1.toNat).push rd.2))
  else throw .outOfBounds

/-- One iteration of the classification loop of `process_batch_1if`: anything but `-1`
goes to the single `to_tx`. -/
def classifyStep1if (acc : Bucket PktInfo × Bucket PktInfo) (rd : Int × PktInfo) :
    Bucket PktInfo × Bucket PktInfo :=
  if rd.1 = -1 then (acc.1.push rd.2, acc.2) else (acc.1, acc.2.push rd.2)

namespace XskSocketInfo

variable (xsk : XskSocketInfo)

/-- `xsk_ring_cons__release(&rx_xsk->rx, rcvd); rx_xsk->stats.rx_npkts += rcvd`. -/
def releaseRx (rcvd : Nat) : XskSocketInfo :=
  { xsk with rx := xsk.rx.drop rcvd, stats := { xsk.stats with rxNpkts := xsk.stats.rxNpkts + rcvd } }

/-- Reserve, write and submit descriptors on the tx ring, and add them to
`outstanding_tx`. -/
def submitTx (descs : List PktInfo) (ntx : Nat) : XskSocketInfo :=
  { xsk with tx := xsk.tx ++ descs, outstandingTx := xsk.outstandingTx + ntx }

/-- `xsks[i].stats.tx_wakeup_sendtos++`. -/
def countWakeup : XskSocketInfo :=
  { xsk with stats := { xsk.stats with txWakeupSendtos := xsk.stats.txWakeupSendtos + 1 } }

variable (rcvd : Nat) (descs : List PktInfo) (ntx : Nat)

@[simp] lemma releaseRx_rx : (xsk.releaseRx rcvd).rx = xsk.rx.drop rcvd := rfl
@[simp] lemma releaseRx_tx : (xsk.releaseRx rcvd).tx = xsk.tx := rfl
@[simp] lemma releaseRx_fq : (xsk.releaseRx rcvd).fq = xsk.fq := rfl
@[simp] lemma releaseRx_cq : (xsk.releaseRx rcvd).cq = xsk.cq := rfl
@[simp] lemma releaseRx_outstandingTx : (xsk.releaseRx rcvd).outstandingTx = xsk.outstandingTx := rfl
@[simp] lemma releaseRx_buffer : (xsk.releaseRx rcvd).buffer = xsk.buffer := rfl
@[simp] lemma releaseRx_bindFlags : (xsk.releaseRx rcvd).bindFlags = xsk.bindFlags := rfl
@[simp] lemma releaseRx_txNeedsWakeup : (xsk.releaseRx rcvd).txNeedsWakeup = xsk.txNeedsWakeup := rfl
@[simp] lemma releaseRx_fqNeedsWakeup : (xsk.releaseRx rcvd).fqNeedsWakeup = xsk.fqNeedsWakeup := rfl

@[simp] lemma submitTx_tx : (xsk.submitTx descs ntx).tx = xsk.tx ++ descs := rfl
@[simp] lemma submitTx_rx : (xsk.submitTx descs ntx).rx = xsk.rx := rfl
@[simp] lemma submitTx_fq : (xsk.submitTx descs ntx).fq = xsk.fq := rfl
@[simp] lemma submitTx_cq : (xsk.submitTx descs ntx).cq = xsk.cq := rfl
@[simp] lemma submitTx_outstandingTx :
    (xsk.submitTx descs ntx).outstandingTx = xsk.outstandingTx + ntx := rfl
@[simp] lemma submitTx_buffer : (xsk.submitTx descs ntx).buffer = xsk.buffer := rfl
@[simp] lemma submitTx_bindFlags : (xsk.submitTx descs ntx).bindFlags = xsk.bindFlags := rfl
@[simp] lemma submitTx_stats : (xsk.submitTx descs ntx).stats = xsk.stats := rfl
@[simp] lemma submitTx_txNeedsWakeup : (xsk.submitTx descs ntx).txNeedsWakeup = xsk.txNeedsWakeup := rfl
@[simp] lemma submitTx_fqNeedsWakeup : (xsk.submitTx descs ntx).fqNeedsWakeup = xsk.fqNeedsWakeup := rfl

@[simp] lemma countWakeup_tx : xsk.countWakeup.tx = xsk.tx := rfl
@[simp] lemma countWakeup_rx : xsk.countWakeup.rx = xsk.rx := rfl
@[simp] lemma countWakeup_fq : xsk.countWakeup.fq = xsk.fq := rfl
@[simp] lemma countWakeup_cq : xsk.countWakeup.cq = xsk.cq := rfl
@[simp] lemma countWakeup_outstandingTx : xsk.countWakeup.outstandingTx = xsk.outstandingTx := rfl
@[simp] lemma countWakeup_buffer : xsk.countWakeup.buffer = xsk.buffer := rfl
@[simp] lemma countWakeup_bindFlags : xsk.countWakeup.bindFlags = xsk.bindFlags := rfl
@[simp] lemma countWakeup_txNeedsWakeup : xsk.countWakeup.txNeedsWakeup = xsk.txNeedsWakeup := rfl
@[simp] lemma countWakeup_fqNeedsWakeup : xsk.countWakeup.fqNeedsWakeup = xsk.fqNeedsWakeup := rfl

end XskSocketInfo

/-- The empty-batch branch: kick the driver with `recvfrom` and count it, unless the
socket is in copy mode or neither busy poll is on nor the fill ring asks for a wakeup. -/
def emptyPoll (conf : Conf) (xsk : XskSocketInfo) : XskSocketInfo :=
  if !xsk.isCopy && (conf.busyPoll || xsk.fqNeedsWakeup) then
    { xsk with stats := { xsk.stats with rxEmptyPolls := xsk.stats.rxEmptyPolls + 1 } }
  else xsk

/-- `if (ndrop) { reserve; if (ret != ndrop) exit_with_error(-ret); ...; submit }`: the
dropped frames go back to the receiving socket's fill ring, original addresses. -/
def recycleDrops (xsk : XskSocketInfo) (toDrop : Bucket PktInfo) : Except Fault XskSocketInfo :=
  if toDrop.count.toNat = 0 then pure xsk
  else
    let ret := reserve fillSize xsk.fq toDrop.count.toNat
    if ret ≠ toDrop.count.toNat then throw (.exitWithError (-(ret : Int)))
    else pure (xsk.submitFill (toDrop.contents.map PktInfo.addr))

/-- The rx half of `process_batch(xsks, ifindex)`, after its `complete_tx`: peek, classify,
release, recycle the drops.  It returns the buckets `to_tx` for the forwarding loop, or
`none` when the rx ring was empty and the function returned. -/
def receive (conf : Conf) (cls : Classifier) (xsks : Xsks) (mem : Mem) (ifindex : Nat) :
    Except Fault (Xsks × Mem × Option (Nat → Bucket PktInfo)) :=
  let rcvd := peek (xsks ifindex).rx conf.batchSize
  if rcvd = 0 then pure (Function.update xsks ifindex (emptyPoll conf (xsks ifindex)), mem, none)
  else do
    let descs := (xsks ifindex).rx.take rcvd
    let (toDrop, toTx) ← (verdictPairs cls descs).foldlM (classifyStep conf.numInterfaces)
      (Bucket.empty, fun _ => Bucket.empty)
    let rxXsk ← recycleDrops ((xsks ifindex).releaseRx rcvd) toDrop
    pure (Function.update xsks ifindex rxXsk,
      classifyWrites cls (xsks ifindex).buffer mem descs, some toTx)

/-- The rx half of `process_batch_1if(xsk)`. -/
def receive1if (conf : Conf) (cls : Classifier) (xsk : XskSocketInfo) (mem : Mem) :
    Except Fault (XskSocketInfo × Mem × Option (Bucket PktInfo)) :=
  let rcvd := peek xsk.rx conf.batchSize
  if rcvd = 0 then pure (emptyPoll conf xsk, mem, none)
  else do
    let descs := xsk.rx.take rcvd
    let (toDrop, toTx) := (verdictPairs cls descs).foldl classifyStep1if
      (Bucket.empty, Bucket.empty)
    let xsk' ← recycleDrops (xsk.releaseRx rcvd) toDrop
    pure (xsk', classifyWrites cls xsk.buffer mem descs, some toTx)

/-- The copy of the forwarding loop, `__builtin_memcpy(xsks[i].buffer + addr,
rx_xsk->buffer + addr, len)` for each packet: both regions are `umem_bufsize` bytes long. -/
def copyPackets (conf : Conf) (dst src : Nat) : Mem → List PktInfo → Except Fault Mem
  | mem, [] => pure mem
  | mem, d :: ds =>
    if d.addr + d.len ≤ umemBufsize conf.numInterfaces conf.xskFrameSize then
      copyPackets conf dst src (memcpy mem dst src d.addr d.len) ds
    else throw .outOfBounds

/-- Lines 567-586 of `process_batch`, once the reservation succeeded: copy when the regions
differ, write the descriptors with their original addresses, submit, and add them to the
destination's `outstanding_tx`. -/
def enqueueTx (conf : Conf) (xsks : Xsks) (mem : Mem) (ingress dest : Nat) (b : Bucket PktInfo) :
    Except Fault (Xsks × Mem) := do
  let mem ← if (xsks ingress).buffer ≠ (xsks dest).buffer then
      copyPackets conf (xsks dest).buffer (xsks ingress).buffer mem b.contents
    else pure mem
  pure (Function.update xsks dest ((xsks dest).submitTx b.contents b.count.toNat), mem)

/-- The reservation of `ntx[dest]` tx slots, as `xsk_ring_prod__reserve` answers it. -/
def txReserved (xsk : XskSocketInfo) (b : Bucket PktInfo) : Bool :=
  reserve txSize xsk.tx b.count.toNat = b.count.toNat

/-- The kick of the retry loop: `if (conf.busy_poll || xsk_ring_prod__needs_wakeup(&xsks[i].tx))
{ xsks[i].stats.tx_wakeup_sendtos++; kick_tx(&xsks[i]); }`. -/
def wakeupKick (conf : Conf) (xsk : XskSocketInfo) : XskSocketInfo :=
  if conf.busyPoll || xsk.txNeedsWakeup then xsk.countWakeup else xsk

/-! ### The classification loop -/

/-- Every verdict of a batch is `-1` or a row of `to_tx`. -/
def VerdictsIn (n : Nat) (pairs : List (Int × PktInfo)) : Prop :=
  ∀ rd ∈ pairs, rd.1 = -1 ∨ (0 ≤ rd.1 ∧ rd.1 < n)

instance (n : Nat) (pairs : List (Int × PktInfo)) : Decidable (VerdictsIn n pairs) :=
  inferInstanceAs (Decidable (∀ rd ∈ pairs, _))

@[simp] lemma selectVerdict_nil (v : Int) : selectVerdict v [] = [] := rfl

lemma selectVerdict_cons (v : Int) (rd : Int × PktInfo) (pairs : List (Int × PktInfo)) :
    selectVerdict v (rd :: pairs) =
      if rd.1 = v then rd.2 :: selectVerdict v pairs else selectVerdict v pairs := by
  by_cases h : rd.1 = v <;> simp [selectVerdict, List.filterMap_cons, h]

lemma selectVerdict_eq_map {v : Int} {pairs : List (Int × PktInfo)} (h : ∀ rd ∈ pairs, rd.1 = v) :
    selectVerdict v pairs = pairs.map Prod.snd := by
  induction pairs with
  | nil => rfl
  | cons rd pairs ih =>
    rw [selectVerdict_cons, if_pos (h rd (List.mem_cons_self _ _)),
      ih fun x hx => h x (List.mem_cons_of_mem _ hx), List.map_cons]

lemma selectVerdict_eq_nil {v : Int} {pairs : List (Int × PktInfo)} (h : ∀ rd ∈ pairs, rd.1 ≠ v) :
    selectVerdict v pairs = [] := by
  induction pairs with
  | nil => rfl
  | cons rd pairs ih =>
    rw [selectVerdict_cons, if_neg (h rd (List.mem_cons_self _ _)),
      ih fun x hx => h x (List.mem_cons_of_mem _ hx)]

lemma foldlM_classifyStep {n : Nat} : ∀ (pairs : List (Int × PktInfo)) (b : Bucket PktInfo)
    (t : Nat → Bucket PktInfo), VerdictsIn n pairs →
    pairs.foldlM (classifyStep n) (b, t) =
      .ok (b.pushAll (selectVerdict (-1) pairs), fun j => (t j).pushAll (selectVerdict j pairs))
  | [], b, t, _ => rfl
  | rd :: pairs, b, t, h => by
    have hrest : VerdictsIn n pairs := fun x hx => h x (List.mem_cons_of_mem rd hx)
    rw [List.foldlM_cons]
    rcases h rd (List.mem_cons_self rd pairs) with hd | ⟨h0, hn⟩
    · have hj : ∀ j : Nat, rd.1 ≠ j := fun j => by rw [hd]; omega
      rw [classifyStep, if_pos hd, pure_bind, foldlM_classifyStep pairs _ _ hrest]
      simp [selectVerdict_cons, hd, hj]
    · have hd : rd.1 ≠ -1 := by omega
      rw [classifyStep, if_neg hd, if_pos ⟨h0, hn⟩, pure_bind, foldlM_classifyStep pairs _ _ hrest]
      simp only [selectVerdict_cons, if_neg hd]
      congr 2
      funext j
      by_cases hj : rd.1.toNat = j
      · subst hj; simp [Int.toNat_of_nonneg h0]
      · have : rd.1 ≠ j := fun e => hj (by simp [e])
        simp [Function.update_noteq (Ne.symm hj), this]

lemma foldlM_classifyStep_error {n : Nat} : ∀ (pairs : List (Int × PktInfo)) (b : Bucket PktInfo)
    (t : Nat → Bucket PktInfo), ¬ VerdictsIn n pairs →
    pairs.foldlM (classifyStep n) (b, t) = .error .outOfBounds
  | [], _, _, h => absurd (fun _ hx => by simp at hx) h
  | rd :: pairs, b, t, h => by
    rw [List.foldlM_cons]
    by_cases hrd : rd.1 = -1 ∨ (0 ≤ rd.1 ∧ rd.1 < n)
    · have hrest : ¬ VerdictsIn n pairs := fun hr => h fun x hx => by
        rcases List.mem_cons.1 hx with rfl | hx
        · exact hrd
        · exact hr x hx
      rcases hrd with hd | hin
      · rw [classifyStep, if_pos hd, pure_bind, foldlM_classifyStep_error pairs _ _ hrest]
      · rw [classifyStep, if_neg (by omega), if_pos hin, pure_bind,
          foldlM_classifyStep_error pairs _ _ hrest]
    · rw [classifyStep, if_neg (by omega), if_neg (by omega)]
      rfl

/-- The descriptors of a batch that did not get `-1`, in receive order. -/
def selectForward (pairs : List (Int × PktInfo)) : List PktInfo :=
  pairs.filterMap fun rd => if rd.1 = -1 then none else some rd.2

lemma foldl_classifyStep1if : ∀ (pairs : List (Int × PktInfo)) (b t : Bucket PktInfo),
    pairs.foldl classifyStep1if (b, t) =
      (b.pushAll (selectVerdict (-1) pairs), t.pushAll (selectForward pairs))
  | [], _, _ => rfl
  | rd :: pairs, b, t => by
    rw [List.foldl_cons, classifyStep1if]
    by_cases hd : rd.1 = -1
    · rw [if_pos hd, foldl_classifyStep1if]
      simp [selectVerdict_cons, selectForward, hd]
    · rw [if_neg hd, foldl_classifyStep1if]
      simp [selectVerdict_cons, selectForward, hd]

/-- With verdicts in `{-1, 0}`, the forwarded packets of the single-interface path are the
general path's `to_tx[0]`. -/
lemma selectForward_eq_selectVerdict_zero {pairs : List (Int × PktInfo)}
    (h : ∀ rd ∈ pairs, rd.1 = -1 ∨ rd.1 = 0) : selectForward pairs = selectVerdict 0 pairs := by
  induction pairs with
  | nil => rfl
  | cons rd pairs ih =>
    have hrest := ih fun x hx => h x (List.mem_cons_of_mem rd hx)
    rcases h rd (List.mem_cons_self rd pairs) with hd | hd <;>
      simp_all [selectForward, selectVerdict_cons]

/-! ### The rx half as a whole -/

/-- `rcvd`: the descriptors `xsk_ring_cons__peek` hands out, at most `batch_size`. -/
def received (conf : Conf) (xsk : XskSocketInfo) : Nat := peek xsk.rx conf.batchSize

/-- The verdicts of the batch on a socket's rx ring. -/
def batchPairs (conf : Conf) (cls : Classifier) (xsk : XskSocketInfo) : List (Int × PktInfo) :=
  verdictPairs cls (xsk.rx.take (received conf xsk))

/-- `to_drop` after the classification loop. -/
def dropBucket (pairs : List (Int × PktInfo)) : Bucket PktInfo :=
  Bucket.empty.pushAll (selectVerdict (-1) pairs)

/-- `to_tx` after the classification loop. -/
def txBuckets (pairs : List (Int × PktInfo)) (j : Nat) : Bucket PktInfo :=
  Bucket.empty.pushAll (selectVerdict j pairs)

/-- A socket after `recycleDrops`, when its fill ring had room. -/
def recycled (xsk : XskSocketInfo) (toDrop : Bucket PktInfo) : XskSocketInfo :=
  if toDrop.count.toNat = 0 then xsk else xsk.submitFill (toDrop.contents.map PktInfo.addr)

/-- The receiving socket after the rx half of a batch that was not empty. -/
def afterReceive (conf : Conf) (cls : Classifier) (xsk : XskSocketInfo) : XskSocketInfo :=
  recycled (xsk.releaseRx (received conf xsk)) (dropBucket (batchPairs conf cls xsk))

/-- With nothing dropped `to_drop` reads back empty, so the recycling is one submit. -/
lemma recycled_eq (xsk : XskSocketInfo) (b : Bucket PktInfo) :
    recycled xsk b = xsk.submitFill (b.contents.map PktInfo.addr) := by
  unfold recycled
  split
  · rw [Bucket.contents_eq_nil ‹_›, List.map_nil, XskSocketInfo.submitFill_nil]
  · rfl

section AfterReceive

variable (conf : Conf) (cls : Classifier) (xsk : XskSocketInfo)

@[simp] lemma afterReceive_fq : (afterReceive conf cls xsk).fq =
    xsk.fq ++ (dropBucket (batchPairs conf cls xsk)).contents.map PktInfo.addr := by
  simp [afterReceive, recycled_eq]
@[simp] lemma afterReceive_rx :
    (afterReceive conf cls xsk).rx = xsk.rx.drop (received conf xsk) := by
  simp [afterReceive, recycled_eq]
@[simp] lemma afterReceive_tx : (afterReceive conf cls xsk).tx = xsk.tx := by
  simp [afterReceive, recycled_eq]
@[simp] lemma afterReceive_cq : (afterReceive conf cls xsk).cq = xsk.cq := by
  simp [afterReceive, recycled_eq]
@[simp] lemma afterReceive_outstandingTx :
    (afterReceive conf cls xsk).outstandingTx = xsk.outstandingTx := by
  simp [afterReceive, recycled_eq]
lemma afterReceive_rxNpkts : (afterReceive conf cls xsk).stats.rxNpkts =
    xsk.stats.rxNpkts + received conf xsk := by
  simp [afterReceive, recycled_eq, XskSocketInfo.releaseRx]
@[simp] lemma afterReceive_buffer : (afterReceive conf cls xsk).buffer = xsk.buffer := by
  simp [afterReceive, recycled_eq]

end AfterReceive

lemma received_le_length (conf : Conf) (xsk : XskSocketInfo) : received conf xsk ≤ xsk.rx.length :=
  Nat.min_le_right _ _

lemma received_le_batchSize (conf : Conf) (xsk : XskSocketInfo) :
    received conf xsk ≤ conf.batchSize :=
  Nat.min_le_left _ _

lemma recycleDrops_ok {xsk xsk' : XskSocketInfo} {b : Bucket PktInfo}
    (h : recycleDrops xsk b = .ok xsk') : xsk' = recycled xsk b := by
  unfold recycleDrops at h
  unfold recycled
  split at h
  · cases h; rw [if_pos ‹_›]
  · dsimp only at h
    split at h
    · cases h
    · cases h; rw [if_neg ‹_›]

lemma recycleDrops_eq {xsk : XskSocketInfo} {b : Bucket PktInfo}
    (h : b.count.toNat = 0 ∨ xsk.fq.length + b.count.toNat ≤ fillSize) :
    recycleDrops xsk b = .ok (recycled xsk b) := by
  unfold recycleDrops recycled
  split
  · rfl
  · rename_i h0
    have hr : reserve fillSize xsk.fq b.count.toNat = b.count.toNat :=
      (reserve_eq_iff (Nat.pos_of_ne_zero h0)).2 (h.resolve_left h0)
    simp only [hr, ne_eq, not_true_eq_false, if_false]
    rfl

section Receive

variable {conf : Conf} {cls : Classifier} {xsks : Xsks} {mem : Mem} {i : Nat}

/-- Everything the rx half of `process_batch` can do: return on an empty ring, or classify
a batch whose verdicts are all in range, release it, recycle its drops and hand `to_tx` to
the forwarding loop. -/
theorem receive_ok {xsks' : Xsks} {mem' : Mem} {r : Option (Nat → Bucket PktInfo)}
    (h : receive conf cls xsks mem i = .ok (xsks', mem', r)) :
    (received conf (xsks i) = 0 ∧ xsks' = Function.update xsks i (emptyPoll conf (xsks i)) ∧
        mem' = mem ∧ r = none) ∨
      (0 < received conf (xsks i) ∧ VerdictsIn conf.numInterfaces (batchPairs conf cls (xsks i)) ∧
        xsks' = Function.update xsks i (afterReceive conf cls (xsks i)) ∧
        mem' = classifyWrites cls (xsks i).buffer mem ((xsks i).rx.take (received conf (xsks i))) ∧
        r = some (txBuckets (batchPairs conf cls (xsks i)))) := by
  unfold receive at h
  dsimp only at h
  split at h
  · cases h; exact .inl ⟨‹_›, rfl, rfl, rfl⟩
  · obtain ⟨⟨toDrop, toTx⟩, hf, h⟩ := bind_eq_ok h
    obtain ⟨rxXsk, hr, h⟩ := bind_eq_ok h
    cases h
    change (batchPairs conf cls (xsks i)).foldlM _ _ = _ at hf
    by_cases hv : VerdictsIn conf.numInterfaces (batchPairs conf cls (xsks i))
    · rw [foldlM_classifyStep _ _ _ hv] at hf
      cases hf
      exact .inr ⟨Nat.pos_of_ne_zero ‹_›, hv, by rw [recycleDrops_ok hr]; rfl, rfl, rfl⟩
    · rw [foldlM_classifyStep_error _ _ _ hv] at hf
      cases hf

/-- On an empty rx ring the rx half only counts its poll. -/
lemma receive_empty (hr : received conf (xsks i) = 0) :
    receive conf cls xsks mem i = .ok (Function.update xsks i (emptyPoll conf (xsks i)), mem, none) :=
  if_pos hr

/-- A verdict out of range stops the batch before anything is released or forwarded. -/
theorem receive_error (hr : 0 < received conf (xsks i))
    (hv : ¬ VerdictsIn conf.numInterfaces (batchPairs conf cls (xsks i))) :
    receive conf cls xsks mem i = .error .outOfBounds := by
  unfold receive
  dsimp only
  rw [if_neg (show peek (xsks i).rx conf.batchSize ≠ 0 from Nat.pos_iff_ne_zero.1 hr)]
  exact congrArg (· >>= _) (foldlM_classifyStep_error (batchPairs conf cls (xsks i)) _ _ hv)

/-- The rx half of `process_batch` returns when the verdicts are in range and the drops
fit the fill ring. -/
theorem receive_eq (hr : 0 < received conf (xsks i))
    (hv : VerdictsIn conf.numInterfaces (batchPairs conf cls (xsks i)))
    (hroom : (dropBucket (batchPairs conf cls (xsks i))).count.toNat = 0 ∨
      (xsks i).fq.length + (dropBucket (batchPairs conf cls (xsks i))).count.toNat ≤ fillSize) :
    receive conf cls xsks mem i = .ok (Function.update xsks i (afterReceive conf cls (xsks i)),
      classifyWrites cls (xsks i).buffer mem ((xsks i).rx.take (received conf (xsks i))),
      some (txBuckets (batchPairs conf cls (xsks i)))) := by
  unfold receive
  dsimp only
  rw [if_neg (show peek (xsks i).rx conf.batchSize ≠ 0 from Nat.pos_iff_ne_zero.1 hr)]
  change (batchPairs conf cls (xsks i)).foldlM _ _ >>= _ = _
  rw [foldlM_classifyStep _ _ _ hv, ok_bind]
  exact congrArg (· >>= _) (@recycleDrops_eq ((xsks i).releaseRx _) _ hroom)

end Receive

/-- The single `to_tx` of `process_batch_1if` after its classification loop. -/
def forwardBucket (pairs : List (Int × PktInfo)) : Bucket PktInfo :=
  Bucket.empty.pushAll (selectForward pairs)

section Receive1if

variable {conf : Conf} {cls : Classifier} {xsk : XskSocketInfo} {mem : Mem}

lemma foldl_classifyStep1if_batch :
    (verdictPairs cls (xsk.rx.take (peek xsk.rx conf.batchSize))).foldl classifyStep1if
      (Bucket.empty, Bucket.empty) =
        (dropBucket (batchPairs conf cls xsk), forwardBucket (batchPairs conf cls xsk)) :=
  foldl_classifyStep1if _ _ _

/-- Everything the rx half of `process_batch_1if` can do. -/
theorem receive1if_ok {xsk' : XskSocketInfo} {mem' : Mem} {r : Option (Bucket PktInfo)}
    (h : receive1if conf cls xsk mem = .ok (xsk', mem', r)) :
    (received conf xsk = 0 ∧ xsk' = emptyPoll conf xsk ∧ mem' = mem ∧ r = none) ∨
      (0 < received conf xsk ∧ xsk' = afterReceive conf cls xsk ∧
        mem' = classifyWrites cls xsk.buffer mem (xsk.rx.take (received conf xsk)) ∧
        r = some (forwardBucket (batchPairs conf cls xsk))) := by
  unfold receive1if at h
  dsimp only at h
  split at h
  · cases h; exact .inl ⟨‹_›, rfl, rfl, rfl⟩
  · rw [foldl_classifyStep1if_batch] at h
    obtain ⟨xsk₁, hr, h⟩ := bind_eq_ok h
    cases h
    exact .inr ⟨Nat.pos_of_ne_zero ‹_›, recycleDrops_ok hr, rfl, rfl⟩

lemma receive1if_empty (hr : received conf xsk = 0) :
    receive1if conf cls xsk mem = .ok (emptyPoll conf xsk, mem, none) :=
  if_pos hr

/-- The rx half of `process_batch_1if` returns when the drops fit the fill ring. -/
theorem receive1if_eq (hr : 0 < received conf xsk)
    (hroom : (dropBucket (batchPairs conf cls xsk)).count.toNat = 0 ∨
      xsk.fq.length + (dropBucket (batchPairs conf cls xsk)).count.toNat ≤ fillSize) :
    receive1if conf cls xsk mem = .ok (afterReceive conf cls xsk,
      classifyWrites cls xsk.buffer mem (xsk.rx.take (received conf xsk)),
      some (forwardBucket (batchPairs conf cls xsk))) := by
  unfold receive1if
  dsimp only
  rw [if_neg (show peek xsk.rx conf.batchSize ≠ 0 from Nat.pos_iff_ne_zero.1 hr),
    foldl_classifyStep1if_batch]
  exact congrArg (· >>= _) (@recycleDrops_eq (xsk.releaseRx _) _ hroom)

end Receive1if

/-- The forwarding of one bucket changes only the destination's tx ring and
`outstanding_tx`; the copy touches only the bytes. -/
lemma enqueueTx_ok {conf : Conf} {xsks xsks' : Xsks} {mem mem' : Mem} {i j : Nat}
    {b : Bucket PktInfo} (h : enqueueTx conf xsks mem i j b = .ok (xsks', mem')) :
    xsks' = Function.update xsks j ((xsks j).submitTx b.contents b.count.toNat) := by
  unfold enqueueTx at h
  dsimp only at h
  split at h
  · obtain ⟨mem₁, -, h⟩ := bind_eq_ok h
    cases h; rfl
  · cases h; rfl

/-- The bytes after forwarding one bucket: untouched when the two sockets share a region,
copied by `copyPackets` otherwise. -/
lemma enqueueTx_mem {conf : Conf} {xsks xsks' : Xsks} {mem mem' : Mem} {i j : Nat}
    {b : Bucket PktInfo} (h : enqueueTx conf xsks mem i j b = .ok (xsks', mem')) :
    ((xsks i).buffer = (xsks j).buffer ∧ mem' = mem) ∨
      ((xsks i).buffer ≠ (xsks j).buffer ∧
        copyPackets conf (xsks j).buffer (xsks i).buffer mem b.contents = .ok mem') := by
  unfold enqueueTx at h
  dsimp only at h
  split at h
  · obtain ⟨mem₁, hc, h⟩ := bind_eq_ok h
    cases h
    exact .inr ⟨‹_›, hc⟩
  · cases h
    exact .inl ⟨not_not.1 ‹_›, rfl⟩

/-- Between two sockets of one region the forwarding of a bucket copies nothing. -/
lemma enqueueTx_of_buffer_eq {conf : Conf} {xsks : Xsks} {mem : Mem} {i j : Nat}
    {b : Bucket PktInfo} (h : (xsks i).buffer = (xsks j).buffer) :
    enqueueTx conf xsks mem i j b =
      .ok (Function.update xsks j ((xsks j).submitTx b.contents b.count.toNat), mem) := by
  simp only [enqueueTx, h, ne_eq, not_true_eq_false, if_false]
  rfl

/-- The reservation succeeds when the tx ring has room for the whole bucket. -/
lemma txReserved_iff {xsk : XskSocketInfo} {b : Bucket PktInfo} (h : 0 < b.count.toNat) :
    txReserved xsk b = true ↔ xsk.tx.length + b.count.toNat ≤ txSize := by
  rw [txReserved, decide_eq_true_iff, reserve_eq_iff h]

/-- The reservation reads only the tx ring. -/
lemma txReserved_congr {x y : XskSocketInfo} (h : x.tx = y.tx) (b : Bucket PktInfo) :
    txReserved x b = txReserved y b := by
  rw [txReserved, txReserved, h]

lemma copyPackets_cons_error {conf : Conf} {dst src : Nat} {mem : Mem} {d : PktInfo}
    {ds : List PktInfo} (h : ¬ d.addr + d.len ≤ umemBufsize conf.numInterfaces conf.xskFrameSize) :
    copyPackets conf dst src mem (d :: ds) = .error .outOfBounds := by
  rw [copyPackets, if_neg h]
  rfl

/-- A copy that leaves the regions ends the forwarding of the bucket. -/
lemma enqueueTx_error {conf : Conf} {xsks : Xsks} {mem : Mem} {i j : Nat} {b : Bucket PktInfo}
    {e : Fault} (hne : (xsks i).buffer ≠ (xsks j).buffer)
    (h : copyPackets conf (xsks j).buffer (xsks i).buffer mem b.contents = .error e) :
    enqueueTx conf xsks mem i j b = .error e := by
  simp only [enqueueTx, if_pos hne, h]
  rfl

end Xsknf
