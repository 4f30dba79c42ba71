import Xsknf.Invariant

/-!
# The single-interface fast path

With one interface `worker_loop` calls `process_batch_1if(&xsks[0])`, which skips the
owner decode of `complete_tx` and the copy between regions.  The general
`process_batch(xsks, 0)` would do the same: in aligned mode and below the wrap of the
`uint8_t` counters, `complete_tx` and `complete_tx_1if` agree (`completeTx_single`), and
with verdicts in `{-1, 0}` so do the rx halves (`receive_single`).  `fastPath_agrees`
assembles them into a simulation: from matching places of one call, each worker step of
the fast path and of the general path ends in the same fault or in matching worlds, with
the same rings, counters and bytes, and kernel steps keep them matched.

With `--unaligned` the two paths part: the general path decodes an owner from an address
whose top bits carry the data offset, and faults where the fast path recycles the frame
(`fastPath_differs_unaligned`).
-/

namespace Xsknf

variable {conf : Conf} {xsks : Xsks}

lemma completeTx_single {s : Nat} (ha : Aligned conf s) (hn : conf.numInterfaces = 1)
    (hb : conf.batchSize < 256) (hown : ∀ a ∈ (xsks 0).cq, frameOwner conf a < conf.numInterfaces) :
    completeTx conf xsks 0 = (Function.update xsks 0 ·) <$> completeTx1if conf (xsks 0) := by
  unfold completeTx completeTx1if
  by_cases h0 : (xsks 0).outstandingTx = 0
  · rw [if_pos h0, if_pos h0]
    exact congrArg Except.ok (Function.update_eq_self 0 xsks).symm
  rw [if_neg h0, if_neg h0]
  dsimp only
  by_cases hs : peek (kickTrigger conf (xsks 0)).cq (ndescs conf (kickTrigger conf (xsks 0))) = 0
  · rw [if_pos hs, if_pos hs]; rfl
  rw [if_neg hs, if_neg hs]
  set x := kickTrigger conf (xsks 0)
  set sent := peek x.cq (ndescs conf x)
  have hD : ∀ a ∈ x.cq.take sent, frameOwner conf a < conf.numInterfaces :=
    fun a h => hown a (List.mem_of_mem_take h)
  have hsent : sent < 256 := lt_of_le_of_lt ((Nat.min_le_left _ _).trans (ndescs_le_batchSize _ _)) hb
  have hlen : (x.cq.take sent).length = sent := by
    rw [List.length_take]; exact Nat.min_eq_left (Nat.min_le_right _ _)
  have howned : ownedBy (ownerShift conf.xskFrameSize) 0 (x.cq.take sent) = x.cq.take sent := by
    rw [ha.ownedBy_eq hD]
    exact List.filter_eq_self.2 fun a h => by have := hD a h; simp; omega
  have hcount : (Bucket.empty.pushAll (x.cq.take sent)).count.toNat = sent := by
    rw [Bucket.count_pushAll, hlen]; simpa using Nat.mod_eq_of_lt hsent
  rw [bucketByOwner_eq (ha.ownersIn hD), ok_bind, hn]
  simp only [fillOwners, howned, hcount, if_neg hs, Function.update_same,
    XskSocketInfo.releaseCq_fq]
  split
  · rfl
  · simp only [pure_bind, map_pure, Function.update_idem, Function.update_same,
      Bucket.contents_empty_pushAll _ (hlen ▸ hsent)]
    rfl

/-- `to_tx` with `b` in row `0` and every other row empty. -/
def singleRow (b : Bucket PktInfo) : Nat → Bucket PktInfo :=
  Function.update (fun _ => Bucket.empty) 0 b

/-- Verdicts in `{-1, 0}` sort a batch into row `0` of `to_tx` exactly as the
single-interface path sorts it into its `to_tx`. -/
lemma txBuckets_eq_singleRow {pairs : List (Int × PktInfo)}
    (h : ∀ rd ∈ pairs, rd.1 = -1 ∨ rd.1 = 0) : txBuckets pairs = singleRow (forwardBucket pairs) := by
  funext j
  by_cases hj : j = 0
  · subst hj
    rw [singleRow, Function.update_same, forwardBucket, selectForward_eq_selectVerdict_zero h]
    rfl
  · rw [singleRow, Function.update_noteq hj, txBuckets, selectVerdict_eq_nil fun rd hrd => by
      rcases h rd hrd with h' | h' <;> rw [h'] <;> omega]
    rfl

lemma verdicts_of_classifier {cls : Classifier} (hcls : ∀ p, (cls p).1 = -1 ∨ (cls p).1 = 0)
    (descs : List PktInfo) : ∀ rd ∈ verdictPairs cls descs, rd.1 = -1 ∨ rd.1 = 0 := by
  intro rd h
  obtain ⟨pd, -, rfl⟩ := List.mem_map.1 h
  exact hcls pd.1

lemma receive_single {cls : Classifier} {mem : Mem} (hn : conf.numInterfaces = 1)
    (hcls : ∀ p, (cls p).1 = -1 ∨ (cls p).1 = 0) :
    receive conf cls xsks mem 0 =
      (fun r => (Function.update xsks 0 r.1, r.2.1, r.2.2.map singleRow)) <$>
        receive1if conf cls (xsks 0) mem := by
  have hv : ∀ rd ∈ batchPairs conf cls (xsks 0), rd.1 = -1 ∨ rd.1 = 0 :=
    verdicts_of_classifier hcls _
  unfold receive receive1if
  dsimp only
  split
  · rfl
  · have hfold : (verdictPairs cls ((xsks 0).rx.take (peek (xsks 0).rx conf.batchSize))).foldlM
        (classifyStep conf.numInterfaces) (Bucket.empty, fun _ => Bucket.empty) =
        .ok (dropBucket (batchPairs conf cls (xsks 0)), txBuckets (batchPairs conf cls (xsks 0))) :=
      foldlM_classifyStep _ _ _ fun rd h => (hv rd h).imp_right fun h0 => by rw [h0, hn]; omega
    rw [hfold, ok_bind, foldl_classifyStep1if_batch, txBuckets_eq_singleRow hv]
    cases recycleDrops ((xsks 0).releaseRx (peek (xsks 0).rx conf.batchSize))
      (dropBucket (batchPairs conf cls (xsks 0))) <;> rfl
/-! ### The simulation -/

/-- The fast path at one place of a call, and the general path at the same place. -/
inductive PcMatch : Pc → Pc → Prop
  /-- About to call `process_batch_1if(&xsks[0])`, or `process_batch(xsks, 0)`. -/
  | batch : PcMatch .batch1 (.batch 0)
  /-- The completion phase is done. -/
  | recv : PcMatch .recv1 (.recv 0)
  /-- At the forwarding, with the same packets to forward. -/
  | fwd {b : Bucket PktInfo} {t : Nat → Bucket PktInfo} : t 0 = b → PcMatch (.fwd1 b) (.fwd 0 0 t)
  /-- In the reservation retry loop. -/
  | retry {b : Bucket PktInfo} {t : Nat → Bucket PktInfo} : t 0 = b →
      PcMatch (.retry1 b) (.retry 0 0 t)
  /-- The call has forwarded; the general path has yet to leave its loop over destinations. -/
  | forwarded (t : Nat → Bucket PktInfo) : PcMatch .top (.fwd 0 1 t)
  /-- The call has returned. -/
  | returned : PcMatch .top (.batch 1)

/-- The two paths at the same place of a call, with the same sockets and bytes. -/
structure FastMatch (w₁ w : World) : Prop where
  xsks : w.xsks = w₁.xsks
  mem : w.mem = w₁.mem
  pc : PcMatch w₁.pc w.pc

/-- The results of a step of each path agree: the same fault, or matching worlds. -/
def ResultMatch : Except Fault World → Except Fault World → Prop
  | .error e, .error e' => e = e'
  | .ok w₁, .ok w => FastMatch w₁ w
  | _, _ => False

lemma resultMatch_bind {α : Type} (m : Except Fault α) {f g : α → Except Fault World}
    (h : ∀ a, ResultMatch (f a) (g a)) : ResultMatch (m >>= f) (m >>= g) := by
  cases m with
  | error e => exact (rfl : e = e)
  | ok a => exact h a

section Steps

variable {s : Nat} {cls : Classifier} {ready : Bool} {mem : Mem}

lemma resultMatch_batch (ha : Aligned conf s) (hn : conf.numInterfaces = 1)
    (hb : conf.batchSize < 256) (hs : SockInv conf xsks) :
    ResultMatch (workerStep conf cls ready ⟨xsks, mem, .batch1⟩)
      (workerStep conf cls ready ⟨xsks, mem, .batch 0⟩) := by
  have hown := hs.cq 0 (by omega)
  simp only [workerStep, if_pos (show 0 < conf.numInterfaces by omega),
    completeTx_single ha hn hb hown, bind_map_left]
  exact resultMatch_bind _ fun x => ⟨rfl, rfl, .recv⟩

lemma resultMatch_recv (hn : conf.numInterfaces = 1) (hcls : ∀ p, (cls p).1 = -1 ∨ (cls p).1 = 0) :
    ResultMatch (workerStep conf cls ready ⟨xsks, mem, .recv1⟩)
      (workerStep conf cls ready ⟨xsks, mem, .recv 0⟩) := by
  simp only [workerStep, receive_single hn hcls, bind_map_left]
  refine resultMatch_bind _ fun ⟨x, m, r⟩ => ?_
  cases r with
  | none => exact ⟨rfl, rfl, .returned⟩
  | some b => exact ⟨rfl, rfl, .fwd (Function.update_same _ _ _)⟩

lemma resultMatch_fwd (hn : conf.numInterfaces = 1) (t : Nat → Bucket PktInfo) :
    ResultMatch (workerStep conf cls ready ⟨xsks, mem, .fwd1 (t 0)⟩)
      (workerStep conf cls ready ⟨xsks, mem, .fwd 0 0 t⟩) := by
  simp only [workerStep, if_pos (show 0 < conf.numInterfaces by omega)]
  split
  · exact ⟨rfl, rfl, .forwarded t⟩
  · split
    · rw [enqueueTx_of_buffer_eq rfl]; exact ⟨rfl, rfl, .forwarded t⟩
    · exact ⟨rfl, rfl, .retry rfl⟩

lemma resultMatch_retry (ha : Aligned conf s) (hn : conf.numInterfaces = 1)
    (hb : conf.batchSize < 256) (hs : SockInv conf xsks) (t : Nat → Bucket PktInfo) :
    ResultMatch (workerStep conf cls ready ⟨xsks, mem, .retry1 (t 0)⟩)
      (workerStep conf cls ready ⟨xsks, mem, .retry 0 0 t⟩) := by
  have hown := hs.cq 0 (by omega)
  simp only [workerStep, completeTx_single ha hn hb hown, bind_map_left, Function.update_idem,
    Function.update_same]
  refine resultMatch_bind _ fun x => ?_
  split
  · rw [enqueueTx_of_buffer_eq rfl]
    simp only [ok_bind, Function.update_idem, Function.update_same]
    exact ⟨rfl, rfl, .forwarded t⟩
  · exact ⟨rfl, rfl, .retry rfl⟩

end Steps

/-- The single-interface fast path agrees with the general path.  With one interface, in
aligned mode, below the wrap of the `uint8_t` counters and with verdicts in `{-1, 0}`: from
any world the fast path reaches and a general-path world at the same place of the same call,
a worker step of each ends in the same fault or in matching worlds (the same rings,
`outstanding_tx`, statistics and bytes); once the fast path has returned, the general path
only leaves its loop over destinations; and a kernel step of either is a kernel step of the
other. -/
theorem fastPath_agrees {s : Nat} {bindFlags : Nat → Nat} {cls : Classifier} {ready : Bool}
    {w₁ w : World} (ha : Aligned conf s) (hn : conf.numInterfaces = 1) (hb : conf.batchSize < 256)
    (hcls : ∀ p, (cls p).1 = -1 ∨ (cls p).1 = 0) (hw₁ : Reachable conf bindFlags w₁)
    (hm : FastMatch w₁ w) :
    (w₁.pc ≠ .top → ResultMatch (workerStep conf cls ready w₁) (workerStep conf cls ready w)) ∧
      (∀ t, w.pc = .fwd 0 1 t → workerStep conf cls ready w = .ok { w with pc := .batch 1 }) ∧
      (∀ w₁', KernelStep conf w₁ w₁' →
        KernelStep conf w { w₁' with pc := w.pc } ∧ FastMatch w₁' { w₁' with pc := w.pc }) := by
  have hs := (inv_reachable ha hw₁).1.sock
  obtain ⟨xsks, mem, pc₁⟩ := w₁
  obtain ⟨xs, m, pc⟩ := w
  obtain ⟨rfl, rfl, hpc⟩ := hm
  refine ⟨fun htop => ?_, fun t ht => ?_, fun w₁' hk => ?_⟩
  · cases hpc with
    | batch => exact resultMatch_batch ha hn hb hs
    | recv => exact resultMatch_recv hn hcls
    | fwd h => subst h; exact resultMatch_fwd hn _
    | retry h => subst h; exact resultMatch_retry ha hn hb hs _
    | forwarded => exact absurd rfl htop
    | returned => exact absurd rfl htop
  · subst ht
    simp [workerStep, hn]
    rfl
  · cases hk with
    | rx s' a rest off len bytes h1 h2 h3 h4 h5 h6 h7 =>
      exact ⟨.rx _ s' a rest off len bytes h1 h2 h3 h4 h5 h6 h7, rfl, rfl, hpc⟩
    | tx s' d rest h1 h2 h3 => exact ⟨.tx _ s' d rest h1 h2 h3, rfl, rfl, hpc⟩
    | wakeup s' t f => exact ⟨.wakeup _ s' t f, rfl, rfl, hpc⟩

/-- One interface with 4096-byte frames in aligned mode, batches of 64. -/
def onePortConf : Conf :=
  { numInterfaces := 1, batchSize := 64, poll := false, busyPoll := false,
    xskFrameSize := 4096, unalignedChunks := false }

/-- With `--unaligned` a packet received at data offset 32 of frame `0` and forwarded back out
of interface `0` completes as `0 + (32 << 48)`.  At the next batch `complete_tx_1if` recycles
it, while `complete_tx` decodes owner `2^53 >> 24 = 2^29` (`owner_shift = 12 + 13 - 1`) and
indexes `to_fill` out of bounds. -/
theorem fastPath_differs_unaligned :
    ∃ w, Reachable unalignedConf (fun _ => 0) w ∧ w.pc = .batch1 ∧ (w.xsks 0).cq = [2 ^ 53] ∧
      (∃ w', workerStep unalignedConf (forwardTo 0) true w = .ok w') ∧
      workerStep unalignedConf (forwardTo 0) true ⟨w.xsks, w.mem, .batch 0⟩ = .error .outOfBounds := by
  set w₃ := unalignedRecv 32
  set P := batchPairs unalignedConf (forwardTo 0) (w₃.xsks 0) with hP
  have hdrop : (dropBucket P).contents = [] := rfl
  -- the packet is forwarded to interface 0 and sent
  set w₄ : World :=
    { xsks := Function.update w₃.xsks 0 (afterReceive unalignedConf (forwardTo 0) (w₃.xsks 0))
      mem := classifyWrites (forwardTo 0) (w₃.xsks 0).buffer w₃.mem
        ((w₃.xsks 0).rx.take (received unalignedConf (w₃.xsks 0)))
      pc := .fwd1 (forwardBucket P) }
  have k₄ : workerStep unalignedConf (forwardTo 0) true w₃ = .ok w₄ :=
    workerStep_recv1 rfl (receive1if_eq (by decide) (.inl rfl))
  set w₅ : World := { w₄ with
    xsks := Function.update w₄.xsks 0
      ((w₄.xsks 0).submitTx (forwardBucket P).contents (forwardBucket P).count.toNat)
    pc := .top }
  have k₅ : workerStep unalignedConf (forwardTo 0) true w₄ = .ok w₅ := rfl
  have htx : (w₅.xsks 0).tx = [⟨2 ^ 53, 1⟩] := rfl
  have k₆ := @KernelStep.tx unalignedConf w₅ 0 _ [] (by decide) htx (by decide)
  set w₆ : World := { w₅ with xsks := Function.update w₅.xsks 0 { w₅.xsks 0 with
    tx := []
    cq := (w₅.xsks 0).cq ++ [2 ^ 53] } }
  have k₇ : workerStep unalignedConf (forwardTo 0) true w₆ = .ok { w₆ with pc := .batch1 } := rfl
  -- at the next batch the fast path recycles the frame
  have hfq : (w₆.xsks 0).fq = fq0Rest := by
    simp only [w₆, w₅, w₄, Function.update_same, XskSocketInfo.submitTx_fq, afterReceive_fq]
    rw [← hP, hdrop, List.map_nil, List.append_nil]
    simp only [w₃, unalignedRecv, Function.update_same]
  have hdrained : drained unalignedConf (w₆.xsks 0) = 1 := rfl
  have hcq : (w₆.xsks 0).cq = [2 ^ 53] := rfl
  have hroom : (w₆.xsks 0).fq.length + drained unalignedConf (w₆.xsks 0) ≤ fillSize := by
    rw [hfq, hdrained]
    simp [fq0Rest, fillSize, xskRingProdDefaultNumDescs]
  exact ⟨{ w₆ with pc := .batch1 },
    (((((reachable_unalignedRecv 32 (by decide)).tail (.worker _ _ k₄)).tail (.worker _ _ k₅)).tail
      (.kernel k₆)).tail (.worker _ _ k₇)), rfl, hcq,
    ⟨_, workerStep_batch1 rfl (completeTx1if_eq (.inr hroom))⟩,
    workerStep_batch_error rfl (by decide) (completeTx_error (by rw [hdrained, hcq]; decide))⟩

end Xsknf
