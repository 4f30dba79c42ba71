import Xsknf.Progress
import Xsknf.FastPath

/-!
# The reservation retry loops

When `xsk_ring_prod__reserve` cannot find `ntx[j]` slots on the tx ring of destination `j`,
`process_batch(xsks, i)` loops on `complete_tx(xsks, i)`, kicking socket `j`, until the
reservation succeeds.  The loop drains the completion ring of the ingress `i`, not that of
`j`.  Once `j`'s completion ring is full the kernel cannot send from `j`'s tx ring either,
and no step of the worker or of the kernel frees a slot there again: a world in that state
(`Jammed`) stays in it along every run, with the same tx ring, and since `complete_tx`
returns in every world of a run the worker spins there (`jammed_spins`).  Two sockets that
forward everything to interface `1` reach such a world with both of socket `1`'s rings full
(`retry_loop_jams`).

When the destination is the ingress itself the loop drains the very ring that holds the
kernel back, and some run always leaves it (`retry_self_leaves`); so does the loop of
`process_batch_1if`, which waits on its only socket (`retry1_leaves`).
-/

namespace Xsknf

variable {conf : Conf} {s : Nat}

/-! ### The jammed loop -/

/-- The worker in the retry loop of `process_batch(xsks, i)`, waiting for `ntx[j]` slots on
the tx ring of another socket `j`, whose completion ring is full and whose tx ring has no
room for them. -/
structure Jammed (conf : Conf) (w : World) (i j : Nat) (toTx : Nat → Bucket PktInfo) : Prop where
  pc : w.pc = .retry i j toTx
  ne : i ≠ j
  cq_full : compSize ≤ (w.xsks j).cq.length
  no_room : txReserved (w.xsks j) (toTx j) = false

section Jammed

variable {w w' : World} {i j : Nat} {toTx : Nat → Bucket PktInfo}

lemma Jammed.of_rings (h : Jammed conf w i j toTx) (hpc : w'.pc = w.pc)
    (htx : (w'.xsks j).tx = (w.xsks j).tx) (hcq : (w'.xsks j).cq = (w.xsks j).cq) :
    Jammed conf w' i j toTx :=
  ⟨hpc.trans h.pc, h.ne, hcq ▸ h.cq_full, (txReserved_congr htx _).trans h.no_room⟩

/-- A turn of the loop in a jammed world: `complete_tx` of the ingress, the kick of `j`, and
a reservation that fails again, since `complete_tx(xsks, i)` leaves `j`'s tx ring alone. -/
lemma Jammed.workerStep_eq (h : Jammed conf w i j toTx) (cls : Classifier) (ready : Bool) :
    workerStep conf cls ready w = (fun xs => { w with
      xsks := Function.update xs j (wakeupKick conf (xs j)) }) <$> completeTx conf w.xsks i := by
  obtain ⟨xsks, mem, pc⟩ := w
  obtain ⟨hpc, -, -, hno⟩ := h
  cases hpc
  simp only [workerStep]
  cases hc : completeTx conf xsks i with
  | error e => rfl
  | ok xs =>
    have htx : (wakeupKick conf (xs j)).tx = (xsks j).tx := by
      rw [(sameRings_wakeupKick conf _).tx, (completeTx_ok hc).2, afterCompleteTx_tx]
    simp only [ok_bind, Function.update_same, txReserved_congr htx, hno, Bool.false_eq_true,
      if_false]
    rfl

/-- No step of the worker or of the kernel touches `j`'s rings in a jammed world: the loop
drains the ingress, and the kernel has no completion slot to send from `j`. -/
theorem Jammed.step (h : Jammed conf w i j toTx) (hs : Step conf w w') :
    Jammed conf w' i j toTx ∧ (w'.xsks j).tx = (w.xsks j).tx ∧ (w'.xsks j).cq = (w.xsks j).cq := by
  suffices hr : w'.pc = w.pc ∧ (w'.xsks j).tx = (w.xsks j).tx ∧ (w'.xsks j).cq = (w.xsks j).cq from
    ⟨h.of_rings hr.1 hr.2.1 hr.2.2, hr.2⟩
  cases hs with
  | worker cls ready hw =>
    rw [h.workerStep_eq] at hw
    cases hc : completeTx conf w.xsks i with
    | error e => rw [hc] at hw; cases hw
    | ok xs =>
      rw [hc] at hw
      obtain rfl := (Except.ok.inj hw).symm
      rw [(completeTx_ok hc).2]
      have hsame := sameRings_wakeupKick conf (afterCompleteTx conf w.xsks i j)
      refine ⟨rfl, ?_, ?_⟩ <;> simp only [Function.update_same]
      · rw [hsame.tx, afterCompleteTx_tx]
      · rw [hsame.cq, afterCompleteTx_cq, if_neg h.ne.symm]
  | kernel hk =>
    cases hk with
    | rx s' =>
      exact ⟨rfl, update_field XskSocketInfo.tx (by rfl) j, update_field XskSocketInfo.cq (by rfl) j⟩
    | tx s' d rest hs' htx hcq =>
      have hjs : j ≠ s' := by rintro rfl; have := h.cq_full; omega
      exact ⟨rfl, by simp only [Function.update_noteq hjs], by simp only [Function.update_noteq hjs]⟩
    | wakeup s' =>
      exact ⟨rfl, update_field XskSocketInfo.tx (by rfl) j, update_field XskSocketInfo.cq (by rfl) j⟩

/-- Along every run from a jammed world the worker stays in the loop and `j`'s rings never
change: no step frees a slot of `j`'s tx ring. -/
theorem Jammed.run (h : Jammed conf w i j toTx) (hr : Relation.ReflTransGen (Step conf) w w') :
    Jammed conf w' i j toTx ∧ (w'.xsks j).tx = (w.xsks j).tx ∧ (w'.xsks j).cq = (w.xsks j).cq := by
  induction hr with
  | refl => exact ⟨h, rfl, rfl⟩
  | tail _ hs ih =>
    obtain ⟨h', htx, hcq⟩ := ih.1.step hs
    exact ⟨h', htx.trans ih.2.1, hcq.trans ih.2.2⟩

end Jammed

/-! ### Bursts of the kernel -/

section Bursts

variable {bindFlags : Nat → Nat} {w : World} {s' : Nat}

/-- The driver receives `k` one-byte packets in a row on socket `s'`, into the frames at the
head of its fill ring. -/
lemma reachable_rx_burst (ha : Aligned conf s) (hw : Reachable conf bindFlags w)
    (hs : s' < conf.numInterfaces) : ∀ k, k ≤ (w.xsks s').fq.length →
      (w.xsks s').rx.length + k ≤ rxSize → ∃ w', Reachable conf bindFlags w' ∧ w'.pc = w.pc ∧
        ∃ R : List PktInfo, R.length = k ∧ w'.xsks = Function.update w.xsks s'
          { w.xsks s' with fq := (w.xsks s').fq.drop k, rx := (w.xsks s').rx ++ R }
  | 0, _, _ => ⟨w, hw, rfl, [], rfl, by
      funext o
      by_cases ho : o = s'
      · subst ho; simp
      · simp [ho]⟩
  | k + 1, hk, hroom => by
    obtain ⟨w₁, hw₁, hpc, R, hR, hx⟩ := reachable_rx_burst ha hw hs k (by omega) (by omega)
    have hfq : (w₁.xsks s').fq = (w.xsks s').fq[k] :: (w.xsks s').fq.drop (k + 1) := by
      rw [hx, Function.update_same, List.drop_eq_getElem_cons]
    have hrx : (w₁.xsks s').rx = (w.xsks s').rx ++ R := by rw [hx, Function.update_same]
    have hown := (inv_reachable ha hw₁).1.sock.fq s' hs _ (hfq ▸ List.mem_cons_self _ _)
    set d : PktInfo := ⟨rxHandle conf.unalignedChunks
      (fillChunk conf.unalignedChunks conf.xskFrameSize (w.xsks s').fq[k]) 0, 1⟩
    have hstep := KernelStep.rx w₁ s' _ _ 0 1 [0] hs hfq
      (by rw [hrx, List.length_append, hR]; omega) Nat.one_pos ha.frameSize_pos rfl
      (ha.fillChunk_add_le (by rw [hown]; exact hs))
    refine ⟨_, hw₁.tail (.kernel hstep), hpc, R ++ [d], by rw [List.length_append, hR]; rfl, ?_⟩
    simp only [hx, Function.update_idem, Function.update_same, List.append_assoc]

/-- The kernel sends `k` descriptors in a row from socket `s'`'s tx ring. -/
lemma reachable_tx_burst (hw : Reachable conf bindFlags w) (hs : s' < conf.numInterfaces) :
    ∀ k, k ≤ (w.xsks s').tx.length → (w.xsks s').cq.length + k ≤ compSize →
      ∃ w', Reachable conf bindFlags w' ∧ w'.pc = w.pc ∧ w'.xsks = Function.update w.xsks s'
        { w.xsks s' with
          tx := (w.xsks s').tx.drop k
          cq := (w.xsks s').cq ++ ((w.xsks s').tx.take k).map PktInfo.addr }
  | 0, _, _ => ⟨w, hw, rfl, by
      funext o
      by_cases ho : o = s'
      · subst ho; simp
      · simp [ho]⟩
  | k + 1, hk, hroom => by
    obtain ⟨w₁, hw₁, hpc, hx⟩ := reachable_tx_burst hw hs k (by omega) (by omega)
    have htx : (w₁.xsks s').tx = (w.xsks s').tx[k] :: (w.xsks s').tx.drop (k + 1) := by
      rw [hx, Function.update_same, List.drop_eq_getElem_cons]
    have hcq : (w₁.xsks s').cq = (w.xsks s').cq ++ ((w.xsks s').tx.take k).map PktInfo.addr := by
      rw [hx, Function.update_same]
    have hstep := KernelStep.tx w₁ s' _ _ hs htx
      (by rw [hcq, List.length_append, List.length_map, List.length_take]; omega)
    refine ⟨_, hw₁.tail (.kernel hstep), hpc, ?_⟩
    simp only [hx, Function.update_idem, Function.update_same, List.take_succ,
      List.getElem?_eq_getElem (show k < (w.xsks s').tx.length by omega), Option.toList_some,
      List.map_append, List.map_cons, List.map_nil, List.append_assoc]

end Bursts

/-! ### A schedule that jams the loop

Two sockets bound without flags share region `0`, and the classifier forwards every packet
to interface `1`.  In each round the driver receives a batch of 64 packets on each socket
and the worker forwards both batches to socket `1`.  Sixteen rounds fill socket `1`'s tx ring
while the kernel sends nothing; the kernel then sends all of it, which fills the completion
ring.  In each of the next thirty-two rounds `complete_tx(xsks, 1)` frees 64 completions and
the kernel sends 64 descriptors, so the completion ring stays full while the tx ring fills
again.  A last batch from socket `0` then finds no room on socket `1`'s tx ring. -/

section ForwardTo

variable (conf : Conf) (x : XskSocketInfo) {v : Int}

lemma fst_of_mem_batchPairs_forwardTo {rd : Int × PktInfo}
    (h : rd ∈ batchPairs conf (forwardTo v) x) : rd.1 = v := by
  obtain ⟨pd, -, rfl⟩ := List.mem_map.1 h
  rfl

lemma verdictsIn_forwardTo (hv : 0 ≤ v) (hn : v < conf.numInterfaces) :
    VerdictsIn conf.numInterfaces (batchPairs conf (forwardTo v) x) := fun rd h =>
  .inr (by rw [fst_of_mem_batchPairs_forwardTo conf x h]; exact ⟨hv, hn⟩)

lemma dropBucket_forwardTo (hv : 0 ≤ v) :
    dropBucket (batchPairs conf (forwardTo v) x) = Bucket.empty := by
  rw [dropBucket, selectVerdict_eq_nil fun rd h => by
    rw [fst_of_mem_batchPairs_forwardTo conf x h]; omega]
  rfl

lemma txBuckets_forwardTo_ne {o : Nat} (ho : (o : Int) ≠ v) :
    txBuckets (batchPairs conf (forwardTo v) x) o = Bucket.empty := by
  rw [txBuckets, selectVerdict_eq_nil fun rd h => by
    rw [fst_of_mem_batchPairs_forwardTo conf x h]; exact ho.symm]
  rfl

/-- Below the wrap, `to_tx[j]` of a batch all sent to `j` is the batch. -/
lemma txBuckets_forwardTo {j : Nat} (hj : (j : Int) = v) (hr : received conf x < 256) :
    (txBuckets (batchPairs conf (forwardTo v) x) j).contents = x.rx.take (received conf x) := by
  rw [txBuckets, selectVerdict_eq_map fun rd h => by
    rw [fst_of_mem_batchPairs_forwardTo conf x h, hj], batchPairs_snd]
  exact Bucket.contents_empty_pushAll _ (by rw [List.length_take]; omega)

end ForwardTo

/-- The worlds of the schedule, by the rings it uses: sockets `0` and `1` in one region,
nothing in flight on socket `0`, at least `f₀` and `f₁` frames on the fill rings, and `t`
and `c` entries on socket `1`'s tx and completion rings. -/
structure Sched (w : World) (f₀ f₁ t c : Nat) : Prop where
  buffer : (w.xsks 0).buffer = (w.xsks 1).buffer
  fq₀ : f₀ ≤ (w.xsks 0).fq.length
  fq₁ : f₁ ≤ (w.xsks 1).fq.length
  idle : (w.xsks 0).outstandingTx = 0
  tx : (w.xsks 1).tx.length = t
  cq : (w.xsks 1).cq.length = c

section Schedule

variable {w : World} {f₀ f₁ t c : Nat}

lemma sched_init : Sched (initWorld twoPortConf fun _ => 0) 4096 4096 0 0 where
  buffer := rfl
  fq₀ := by simp [initWorld, initXsks, twoPortConf, framesPerSocket, framesPerSocketShift]
  fq₁ := by simp [initWorld, initXsks, twoPortConf, framesPerSocket, framesPerSocketShift]
  idle := rfl
  tx := rfl
  cq := rfl

lemma Sched.of_xsks {w' : World} (hs : Sched w f₀ f₁ t c) (h : w'.xsks = w.xsks) :
    Sched w' f₀ f₁ t c := by
  obtain ⟨xsks, mem, pc⟩ := w'
  subst h
  exact ⟨hs.1, hs.2, hs.3, hs.4, hs.5, hs.6⟩

/-- An update of one socket that changes at most its rx ring keeps the shape. -/
lemma Sched.update_rx (hs : Sched w f₀ f₁ t c) {i : Nat} {x : XskSocketInfo}
    (hbuf : x.buffer = (w.xsks i).buffer) (hfq : x.fq = (w.xsks i).fq)
    (hout : x.outstandingTx = (w.xsks i).outstandingTx) (htx : x.tx = (w.xsks i).tx)
    (hcq : x.cq = (w.xsks i).cq) (m : Mem) (p : Pc) :
    Sched ⟨Function.update w.xsks i x, m, p⟩ f₀ f₁ t c where
  buffer := by
    dsimp only
    rw [update_field _ hbuf, update_field _ hbuf]; exact hs.buffer
  fq₀ := by dsimp only; rw [update_field _ hfq]; exact hs.fq₀
  fq₁ := by dsimp only; rw [update_field _ hfq]; exact hs.fq₁
  idle := by dsimp only; rw [update_field _ hout]; exact hs.idle
  tx := by dsimp only; rw [update_field _ htx]; exact hs.tx
  cq := by dsimp only; rw [update_field _ hcq]; exact hs.cq

/-- Submitting descriptors on socket `1`'s tx ring. -/
lemma Sched.submitTx (hs : Sched w f₀ f₁ t c) (ds : List PktInfo) (n : Nat) (m : Mem) (p : Pc) :
    Sched ⟨Function.update w.xsks 1 ((w.xsks 1).submitTx ds n), m, p⟩ f₀ f₁ (t + ds.length) c := by
  have x₀ : Function.update w.xsks 1 ((w.xsks 1).submitTx ds n) 0 = w.xsks 0 :=
    Function.update_noteq (by decide) _ _
  refine ⟨?_, ?_, ?_, ?_, ?_, ?_⟩ <;> dsimp only <;> simp only [x₀, Function.update_same]
  · exact hs.buffer
  · exact hs.fq₀
  · exact hs.fq₁
  · exact hs.idle
  · rw [XskSocketInfo.submitTx_tx, List.length_append, hs.tx]
  · exact hs.cq

/-- The driver receives a batch of 64 packets on each socket. -/
lemma sched_rx (hw : Reachable twoPortConf (fun _ => 0) w) (hs : Sched w f₀ f₁ t c)
    (h₀ : (w.xsks 0).rx = []) (h₁ : (w.xsks 1).rx = []) (hf₀ : 64 ≤ f₀) (hf₁ : 64 ≤ f₁) :
    ∃ w', Reachable twoPortConf (fun _ => 0) w' ∧ w'.pc = w.pc ∧
      Sched w' (f₀ - 64) (f₁ - 64) t c ∧ (w'.xsks 0).rx.length = 64 ∧ (w'.xsks 1).rx.length = 64 := by
  have hs₀ := hs.fq₀
  have hs₁ := hs.fq₁
  obtain ⟨w₁, hw₁, hpc₁, R₀, hR₀, hx₁⟩ := reachable_rx_burst aligned_twoPortConf hw
    (show 0 < twoPortConf.numInterfaces by decide) 64 (by omega) (by rw [h₀]; decide)
  have e₁ : w₁.xsks 1 = w.xsks 1 := by rw [hx₁, Function.update_noteq (by decide)]
  obtain ⟨w₂, hw₂, hpc₂, R₁, hR₁, hx₂⟩ := reachable_rx_burst aligned_twoPortConf hw₁
    (show 1 < twoPortConf.numInterfaces by decide) 64 (by rw [e₁]; omega) (by rw [e₁, h₁]; decide)
  have x₀ : w₂.xsks 0 = { w.xsks 0 with fq := (w.xsks 0).fq.drop 64, rx := (w.xsks 0).rx ++ R₀ } := by
    rw [hx₂, Function.update_noteq (by decide), hx₁, Function.update_same]
  have x₁ : w₂.xsks 1 = { w.xsks 1 with fq := (w.xsks 1).fq.drop 64, rx := (w.xsks 1).rx ++ R₁ } := by
    rw [hx₂, Function.update_same, e₁]
  refine ⟨w₂, hw₂, hpc₂.trans hpc₁, ⟨?_, ?_, ?_, ?_, ?_, ?_⟩, ?_, ?_⟩
  · rw [x₀, x₁]; exact hs.buffer
  · rw [x₀]; show _ ≤ ((w.xsks 0).fq.drop 64).length; rw [List.length_drop]; omega
  · rw [x₁]; show _ ≤ ((w.xsks 1).fq.drop 64).length; rw [List.length_drop]; omega
  · rw [x₀]; exact hs.idle
  · rw [x₁]; exact hs.tx
  · rw [x₁]; exact hs.cq
  · rw [x₀]; show ((w.xsks 0).rx ++ R₀).length = 64; rw [List.length_append, h₀, hR₀]; rfl
  · rw [x₁]; show ((w.xsks 1).rx ++ R₁).length = 64; rw [List.length_append, h₁, hR₁]; rfl

/-- The kernel sends `k` descriptors of socket `1`. -/
lemma sched_tx (hw : Reachable twoPortConf (fun _ => 0) w) (hs : Sched w f₀ f₁ t c) {k : Nat}
    (hk : k ≤ t) (hc : c + k ≤ 2048) :
    ∃ w', Reachable twoPortConf (fun _ => 0) w' ∧ w'.pc = w.pc ∧ Sched w' f₀ f₁ (t - k) (c + k) ∧
      ∀ o, (w'.xsks o).rx = (w.xsks o).rx := by
  obtain ⟨w', hw', hpc, hx⟩ := reachable_tx_burst hw
    (show 1 < twoPortConf.numInterfaces by decide) k (by rw [hs.tx]; exact hk) (by rw [hs.cq]; exact hc)
  have x₀ : w'.xsks 0 = w.xsks 0 := by rw [hx, Function.update_noteq (by decide)]
  have x₁ : w'.xsks 1 = { w.xsks 1 with
      tx := (w.xsks 1).tx.drop k
      cq := (w.xsks 1).cq ++ ((w.xsks 1).tx.take k).map PktInfo.addr } := by
    rw [hx, Function.update_same]
  refine ⟨w', hw', hpc, ⟨?_, ?_, ?_, ?_, ?_, ?_⟩, fun o => ?_⟩
  · rw [x₀, x₁]; exact hs.buffer
  · rw [x₀]; exact hs.fq₀
  · rw [x₁]; exact hs.fq₁
  · rw [x₀]; exact hs.idle
  · rw [x₁]; show ((w.xsks 1).tx.drop k).length = _; rw [List.length_drop, hs.tx]
  · rw [x₁]; show ((w.xsks 1).cq ++ ((w.xsks 1).tx.take k).map PktInfo.addr).length = _
    rw [List.length_append, List.length_map, List.length_take, hs.cq, hs.tx]; omega
  · rw [hx]; exact update_field XskSocketInfo.rx (by rfl) o

/-- From the top of its loop the worker enters `process_batch(xsks, 0)`, with nothing to
complete on socket `0`. -/
lemma sched_enter (hw : Reachable twoPortConf (fun _ => 0) w) (hpc : w.pc = .top)
    (hs : Sched w f₀ f₁ t c) : Reachable twoPortConf (fun _ => 0) ⟨w.xsks, w.mem, .recv 0⟩ := by
  have k₁ : workerStep twoPortConf dropAll false w = .ok { w with pc := .batch 0 } :=
    workerStep_top hpc rfl
  have k₂ : workerStep twoPortConf dropAll false { w with pc := .batch 0 } =
      .ok ⟨w.xsks, w.mem, .recv 0⟩ :=
    workerStep_batch rfl (by decide) (completeTx_idle hs.idle)
  exact (hw.tail (.worker _ _ k₁)).tail (.worker _ _ k₂)

/-- The worker classifies the 64 packets on socket `i`'s rx ring, all to interface `1`, and
skips destination `0`. -/
lemma sched_receive {i : Nat} (hw : Reachable twoPortConf (fun _ => 0) w)
    (hpc : w.pc = .recv i) (hs : Sched w f₀ f₁ t c) (hrx : (w.xsks i).rx.length = 64) :
    ∃ w' T, Reachable twoPortConf (fun _ => 0) w' ∧ w'.pc = .fwd i 1 T ∧ Sched w' f₀ f₁ t c ∧
      (T 1).count.toNat = 64 ∧ (T 1).contents.length = 64 ∧ (w'.xsks i).rx = [] ∧
      ∀ o, o ≠ i → (w'.xsks o).rx = (w.xsks o).rx := by
  have hr : received twoPortConf (w.xsks i) = 64 := by
    show min 64 (w.xsks i).rx.length = 64; rw [hrx]; rfl
  have hdrop := dropBucket_forwardTo twoPortConf (w.xsks i) (show (0 : Int) ≤ 1 by decide)
  have hT : (txBuckets (batchPairs twoPortConf (forwardTo 1) (w.xsks i)) 1).contents.length = 64 := by
    rw [txBuckets_forwardTo twoPortConf (w.xsks i) (show ((1 : Nat) : Int) = 1 from rfl) (by omega),
      List.length_take, hr, hrx]
    rfl
  have k₁ : workerStep twoPortConf (forwardTo 1) false w =
      .ok ⟨Function.update w.xsks i (afterReceive twoPortConf (forwardTo 1) (w.xsks i)),
        classifyWrites (forwardTo 1) (w.xsks i).buffer w.mem
          ((w.xsks i).rx.take (received twoPortConf (w.xsks i))),
        .fwd i 0 (txBuckets (batchPairs twoPortConf (forwardTo 1) (w.xsks i)))⟩ :=
    workerStep_recv hpc (receive_eq (by rw [hr]; decide)
      (verdictsIn_forwardTo twoPortConf _ (by decide) (by decide)) (.inl (by rw [hdrop]; rfl)))
  have hfq : (afterReceive twoPortConf (forwardTo 1) (w.xsks i)).fq = (w.xsks i).fq := by
    rw [afterReceive_fq, hdrop, Bucket.contents_empty, List.map_nil, List.append_nil]
  refine ⟨_, _, (hw.tail (.worker _ _ k₁)).tail (.worker dropAll false
    (workerStep_fwd_skip rfl (by decide) ?_)), rfl,
    hs.update_rx (afterReceive_buffer _ _ _) hfq (afterReceive_outstandingTx _ _ _)
      (afterReceive_tx _ _ _) (afterReceive_cq _ _ _) _ _,
    by rw [← Bucket.length_contents, hT], hT, ?_, fun o ho => ?_⟩
  · rw [txBuckets_forwardTo_ne twoPortConf _ (by decide)]; rfl
  · show (Function.update w.xsks i (afterReceive twoPortConf (forwardTo 1) (w.xsks i)) i).rx = []
    rw [Function.update_same, afterReceive_rx, hr, List.drop_eq_nil_of_le hrx.le]
  · show (Function.update w.xsks i (afterReceive twoPortConf (forwardTo 1) (w.xsks i)) o).rx = _
    rw [Function.update_noteq ho]

/-- The worker forwards the 64 packets on socket `i`'s rx ring to socket `1` and moves on to
the next interface. -/
lemma sched_forward {i : Nat} (hi : i < 2) (hw : Reachable twoPortConf (fun _ => 0) w)
    (hpc : w.pc = .recv i) (hs : Sched w f₀ f₁ t c) (hrx : (w.xsks i).rx.length = 64)
    (ht : t + 64 ≤ 2048) :
    ∃ w', Reachable twoPortConf (fun _ => 0) w' ∧ w'.pc = .batch (i + 1) ∧
      Sched w' f₀ f₁ (t + 64) c ∧ (w'.xsks i).rx = [] ∧
      ∀ o, o ≠ i → (w'.xsks o).rx = (w.xsks o).rx := by
  obtain ⟨w₁, T, hw₁, hpc₁, hs₁, hc, hlen, hr₁, hro⟩ := sched_receive hw hpc hs hrx
  have hbuf : (w₁.xsks i).buffer = (w₁.xsks 1).buffer := by
    rcases (by omega : i = 0 ∨ i = 1) with rfl | rfl
    · exact hs₁.buffer
    · rfl
  have hres : txReserved (w₁.xsks 1) (T 1) = true := by
    rw [txReserved_iff (by omega), hs₁.tx, hc]; exact ht
  have k₂ : workerStep twoPortConf dropAll false w₁ = .ok ⟨Function.update w₁.xsks 1
      ((w₁.xsks 1).submitTx (T 1).contents (T 1).count.toNat), w₁.mem, .fwd i 2 T⟩ :=
    workerStep_fwd hpc₁ (by decide) (by omega) hres (enqueueTx_of_buffer_eq hbuf)
  have hs₂ := hs₁.submitTx (T 1).contents (T 1).count.toNat w₁.mem (.batch (i + 1))
  rw [hlen] at hs₂
  refine ⟨_, (hw₁.tail (.worker _ _ k₂)).tail (.worker dropAll false
    (workerStep_fwd_end rfl (by decide))), rfl, hs₂, ?_, fun o ho => ?_⟩
  · exact (update_field XskSocketInfo.rx (by rfl) i).trans hr₁
  · exact (update_field XskSocketInfo.rx (by rfl) o).trans (hro o ho)

/-- `complete_tx(xsks, 1)` frees `min c 64` completions of socket `1`. -/
lemma sched_complete (hw : Reachable twoPortConf (fun _ => 0) w) (hpc : w.pc = .batch 1)
    (hs : Sched w f₀ f₁ t c) :
    ∃ w', Reachable twoPortConf (fun _ => 0) w' ∧ w'.pc = .recv 1 ∧
      Sched w' f₀ f₁ t (c - min c 64) ∧ ∀ o, (w'.xsks o).rx = (w.xsks o).rx := by
  have hinv := (inv_reachable aligned_twoPortConf hw).1
  have hout := hinv.sock.outstanding 1 (by decide)
  refine ⟨_, hw.tail (.worker dropAll false (workerStep_batch hpc (by decide)
    (completeTx_eq_of_inv hinv aligned_twoPortConf (by decide)))), rfl, ⟨?_, ?_, ?_, ?_, ?_, ?_⟩,
    fun o => afterCompleteTx_rx _ _ _ _⟩ <;> dsimp only
  · rw [afterCompleteTx_buffer, afterCompleteTx_buffer]; exact hs.buffer
  · rw [afterCompleteTx_fq, List.length_append]; have := hs.fq₀; omega
  · rw [afterCompleteTx_fq, List.length_append]; have := hs.fq₁; omega
  · rw [afterCompleteTx_outstandingTx, if_neg (by decide)]; exact hs.idle
  · rw [afterCompleteTx_tx]; exact hs.tx
  · have hb : twoPortConf.batchSize = 64 := rfl
    rw [afterCompleteTx_cq, if_pos rfl, List.length_drop, drained_eq, hout, hs.tx, hs.cq, hb]
    omega

/-- One round of the schedule: a batch on each socket, both forwarded to socket `1`, with
`complete_tx(xsks, 1)` in between and the kernel sending as many descriptors as it frees. -/
lemma sched_round (hw : Reachable twoPortConf (fun _ => 0) w) (hpc : w.pc = .top)
    (hs : Sched w f₀ f₁ t c) (h₀ : (w.xsks 0).rx = []) (h₁ : (w.xsks 1).rx = [])
    (hf₀ : 64 ≤ f₀) (hf₁ : 64 ≤ f₁) (hc : c ≤ 2048) (ht : t + 128 ≤ 2048 + min c 64) :
    ∃ w', Reachable twoPortConf (fun _ => 0) w' ∧ w'.pc = .top ∧
      Sched w' (f₀ - 64) (f₁ - 64) (t + 128 - min c 64) c ∧
      (w'.xsks 0).rx = [] ∧ (w'.xsks 1).rx = [] := by
  -- the driver's batches, and the forwarding of socket `0`'s
  obtain ⟨w₁, hw₁, hpc₁, hs₁, hr₀, hr₁⟩ := sched_rx hw hs h₀ h₁ hf₀ hf₁
  obtain ⟨w₂, hw₂, hpc₂, hs₂, h₂₀, h₂₁⟩ := sched_forward (by decide)
    (sched_enter hw₁ (hpc₁.trans hpc) hs₁) rfl (hs₁.of_xsks rfl) hr₀ (by omega)
  -- `complete_tx(xsks, 1)`, and the kernel sends what it freed room for
  obtain ⟨w₃, hw₃, hpc₃, hs₃, h₃⟩ := sched_complete hw₂ hpc₂ hs₂
  obtain ⟨w₄, hw₄, hpc₄, hs₄, h₄⟩ := sched_tx hw₃ hs₃ (show min c 64 ≤ t + 64 by omega)
    (by omega)
  rw [Nat.sub_add_cancel (Nat.min_le_left c 64)] at hs₄
  -- the forwarding of socket `1`'s batch
  obtain ⟨w₅, hw₅, hpc₅, hs₅, h₅₁, h₅₀⟩ := sched_forward (by decide) hw₄ (hpc₄.trans hpc₃) hs₄
    (by rw [h₄, h₃, h₂₁ 1 (by decide)]; exact hr₁) (by omega)
  rw [show t + 64 - min c 64 + 64 = t + 128 - min c 64 by omega] at hs₅
  refine ⟨_, hw₅.tail (.worker dropAll false (workerStep_batch_end hpc₅ (by decide))), rfl,
    hs₅.of_xsks rfl, ?_, h₅₁⟩
  exact (h₅₀ 0 (by decide)).trans ((h₄ 0).trans ((h₃ 0).trans h₂₀))

/-- Sixteen rounds in which the kernel sends nothing fill socket `1`'s tx ring. -/
lemma sched_fill : ∀ k ≤ 16, ∃ w, Reachable twoPortConf (fun _ => 0) w ∧ w.pc = .top ∧
    Sched w (4096 - 64 * k) (4096 - 64 * k) (128 * k) 0 ∧ (w.xsks 0).rx = [] ∧ (w.xsks 1).rx = []
  | 0, _ => ⟨_, .refl, rfl, sched_init, rfl, rfl⟩
  | k + 1, hk => by
    obtain ⟨w, hw, hpc, hs, h₀, h₁⟩ := sched_fill k (by omega)
    obtain ⟨w', hw', hpc', hs', h₀', h₁'⟩ :=
      sched_round hw hpc hs h₀ h₁ (by omega) (by omega) (by omega) (by omega)
    refine ⟨w', hw', hpc', ?_, h₀', h₁'⟩
    exact hs'

/-- The kernel then sends all of it, which fills the completion ring, and in each of thirty-two
rounds `complete_tx(xsks, 1)` frees what the kernel sends next: the tx ring fills again
under a full completion ring. -/
lemma sched_saturate : ∀ k ≤ 32, ∃ w, Reachable twoPortConf (fun _ => 0) w ∧ w.pc = .top ∧
    Sched w (3072 - 64 * k) (3072 - 64 * k) (64 * k) 2048 ∧ (w.xsks 0).rx = [] ∧ (w.xsks 1).rx = []
  | 0, _ => by
    obtain ⟨w, hw, hpc, hs, h₀, h₁⟩ := sched_fill 16 le_rfl
    obtain ⟨w', hw', hpc', hs', hr⟩ := sched_tx hw hs (show 2048 ≤ 128 * 16 by decide) (by decide)
    exact ⟨w', hw', hpc'.trans hpc, hs', (hr 0).trans h₀, (hr 1).trans h₁⟩
  | k + 1, hk => by
    obtain ⟨w, hw, hpc, hs, h₀, h₁⟩ := sched_saturate k (by omega)
    obtain ⟨w', hw', hpc', hs', h₀', h₁'⟩ :=
      sched_round hw hpc hs h₀ h₁ (by omega) (by omega) le_rfl (by omega)
    refine ⟨w', hw', hpc', ?_, h₀', h₁'⟩
    exact hs'

/-- A last batch from socket `0` finds no room on socket `1`'s full tx ring, under its full
completion ring. -/
lemma sched_jam : ∃ w toTx, Reachable twoPortConf (fun _ => 0) w ∧
    Jammed twoPortConf w 0 1 toTx ∧ (w.xsks 1).tx.length = txSize ∧
    (w.xsks 1).cq.length = compSize := by
  obtain ⟨w, hw, hpc, hs, h₀, h₁⟩ := sched_saturate 32 le_rfl
  obtain ⟨w₁, hw₁, hpc₁, hs₁, hr₀, -⟩ := sched_rx hw hs h₀ h₁ (by decide) (by decide)
  obtain ⟨w₂, T, hw₂, hpc₂, hs₂, hc, -, -, -⟩ :=
    sched_receive (sched_enter hw₁ (hpc₁.trans hpc) hs₁) rfl (hs₁.of_xsks rfl) hr₀
  have hres : txReserved (w₂.xsks 1) (T 1) = false := by
    rw [Bool.eq_false_iff, ne_eq, txReserved_iff (by omega), hs₂.tx, hc]; decide
  refine ⟨_, T, hw₂.tail (.worker dropAll false (workerStep_fwd_retry hpc₂ (by decide) (by omega)
    hres)), ⟨rfl, by decide, ?_, hres⟩, hs₂.tx, hs₂.cq⟩
  show compSize ≤ (w₂.xsks 1).cq.length
  rw [hs₂.cq]
  rfl

theorem frames_conserved_two_ports :
    ∃ w toTx, Reachable twoPortConf (fun _ => 0) w ∧ Jammed twoPortConf w 0 1 toTx ∧
      frames twoPortConf w = primedFrames twoPortConf ∧ SockInv twoPortConf w.xsks := by
  obtain ⟨w, T, hw, hj, -, -⟩ := sched_jam
  have h := frames_conserved aligned_twoPortConf (by decide) hw
  exact ⟨w, T, hw, hj, h.1, h.2.1⟩

end Schedule

/-- A jammed worker spins.  From a jammed world of a run in aligned mode, every run keeps the
worker in the loop with the destination's tx ring unchanged, and every turn of the worker
returns into a jammed world again: no fault ends the loop, and no turn leaves it. -/
theorem jammed_spins (ha : Aligned conf s) {bindFlags : Nat → Nat} {w w' : World} {i j : Nat}
    {toTx : Nat → Bucket PktInfo} (hw : Reachable conf bindFlags w) (h : Jammed conf w i j toTx)
    (hr : Relation.ReflTransGen (Step conf) w w') :
    Jammed conf w' i j toTx ∧ (w'.xsks j).tx = (w.xsks j).tx ∧
      ∀ cls ready, ∃ w'', workerStep conf cls ready w' = .ok w'' ∧ Jammed conf w'' i j toTx := by
  obtain ⟨h', htx, -⟩ := h.run hr
  have hinv := (inv_reachable ha (hw.trans hr)).1
  have hi : i < conf.numInterfaces := by
    have hp := hinv.pc
    rw [h'.pc] at hp
    exact hp.2.1
  refine ⟨h', htx, fun cls ready => ?_⟩
  have hstep : workerStep conf cls ready w' = .ok { w' with
      xsks := Function.update (afterCompleteTx conf w'.xsks i) j
        (wakeupKick conf (afterCompleteTx conf w'.xsks i j)) } := by
    rw [h'.workerStep_eq, completeTx_eq_of_inv hinv ha hi]
    rfl
  exact ⟨_, hstep, (h'.step (.worker cls ready hstep)).1⟩

/-- The loop does jam.  Two sockets bound without flags, so in one region, forward every
packet to interface `1`.  A schedule of the worker and the kernel reaches a world where
`process_batch(xsks, 0)` waits for 64 slots of socket `1`'s tx ring, which holds `txSize`
descriptors, while socket `1`'s completion ring holds `compSize` completions; the worker
spins there for good. -/
theorem retry_loop_jams :
    ∃ w toTx, Reachable twoPortConf (fun _ => 0) w ∧ Jammed twoPortConf w 0 1 toTx ∧
      (w.xsks 1).tx.length = txSize ∧ (w.xsks 1).cq.length = compSize ∧
      ∀ w', Relation.ReflTransGen (Step twoPortConf) w w' →
        Jammed twoPortConf w' 0 1 toTx ∧ (w'.xsks 1).tx = (w.xsks 1).tx ∧
          ∀ cls ready, ∃ w'', workerStep twoPortConf cls ready w' = .ok w'' ∧
            Jammed twoPortConf w'' 0 1 toTx := by
  obtain ⟨w, T, hw, hj, htx, hcq⟩ := sched_jam
  exact ⟨w, T, hw, hj, htx, hcq, fun w' hr => jammed_spins aligned_twoPortConf hw hj hr⟩

/-! ### Forwarding to the ingress: the loop can be left

When the destination is the ingress itself, the loop drains the completion ring that holds
the kernel back.  While the reservation fails the tx ring is not empty, so either the kernel
can send from it, or its completion ring is full and the next turn drains at least one
completion.  Each of these steps lowers `2 * |tx| + |cq|`, so some run leaves the loop.
`process_batch_1if` forwards only to its own socket, so its loop can always be left too. -/

/-- The rule of variants for runs: if from every state of `P` some step reaches `Q`, or stays
in `P` and lowers `μ`, then from every state of `P` some run reaches `Q`. -/
lemma exists_run_of_variant {α : Type} {r : α → α → Prop} (P Q : α → Prop) (μ : α → Nat)
    (h : ∀ a, P a → ∃ b, r a b ∧ (Q b ∨ P b ∧ μ b < μ a)) :
    ∀ a, P a → ∃ b, Relation.ReflTransGen r a b ∧ Q b := by
  intro a ha
  generalize hμ : μ a = n
  induction n using Nat.strong_induction_on generalizing a with
  | _ n ih =>
    obtain ⟨b, hr, hQ | ⟨hP, hlt⟩⟩ := h a ha
    · exact ⟨b, .single hr, hQ⟩
    · obtain ⟨c, hc, hQ⟩ := ih _ (hμ ▸ hlt) b hP rfl
      exact ⟨c, .head hr hc, hQ⟩

/-- With an empty tx ring every reservation succeeds: a bucket holds fewer than 256 entries. -/
lemma txReserved_of_tx_nil {x : XskSocketInfo} (h : x.tx = []) (b : Bucket PktInfo) :
    txReserved x b = true := by
  have hb : b.count.toNat ≤ txSize - x.tx.length := by
    have := b.count_lt
    rw [h]
    show _ ≤ 2048 - 0
    omega
  simp [txReserved, reserve, hb]

section Leave

variable {bindFlags : Nat → Nat} {w : World}

/-- The measure of the retry loops on socket `o`: it falls with each descriptor the kernel
sends from `o` and with each completion the worker drains from it. -/
def loopMeasure (o : Nat) (w : World) : Nat := 2 * (w.xsks o).tx.length + (w.xsks o).cq.length

/-- After a failed turn of a retry loop on socket `o`, `o`'s tx ring is not empty: the kernel
can send from it, which lowers the measure, or its completion ring is full and the next turn
drains some of it. -/
lemma kernel_send_or_drain (hinv : Inv conf w) (hb : 0 < conf.batchSize) {o : Nat}
    (ho : o < conf.numInterfaces) (hne : (w.xsks o).tx ≠ []) :
    (∃ w', KernelStep conf w w' ∧ w'.pc = w.pc ∧ loopMeasure o w' < loopMeasure o w) ∨
      0 < drained conf (w.xsks o) := by
  obtain ⟨d, rest, hd⟩ := List.exists_cons_of_ne_nil hne
  by_cases hcq : (w.xsks o).cq.length < compSize
  · refine .inl ⟨_, .tx w o d rest ho hd hcq, rfl, ?_⟩
    simp only [loopMeasure, Function.update_same, List.length_append, hd, List.length_cons,
      List.length_nil]
    omega
  · exact .inr (drained_pos hb (by rw [hinv.sock.outstanding o ho]; omega)
      (lt_of_lt_of_le (by decide) (Nat.not_lt.1 hcq)))

variable {i : Nat} {t : Nat → Bucket PktInfo}

/-- One step of the loop of `process_batch(xsks, i)` that forwards to `i` itself: the turn
that leaves it, a send of the kernel from `i`'s tx ring, or a turn that drains a completion
of `i`. -/
lemma retry_self_step (ha : Aligned conf s) (hb : 0 < conf.batchSize)
    (hw : Reachable conf bindFlags w) (hpc : w.pc = .retry i i t) :
    ∃ w', Step conf w w' ∧
      (w'.pc = .fwd i (i + 1) t ∨ w'.pc = .retry i i t ∧ loopMeasure i w' < loopMeasure i w) := by
  have hinv := (inv_reachable ha hw).1
  have hp := hinv.pc
  rw [hpc] at hp
  have hi : i < conf.numInterfaces := hp.2.1
  have hc := completeTx_eq_of_inv hinv ha hi
  have hsame := sameRings_wakeupKick conf (afterCompleteTx conf w.xsks i i)
  cases hr : txReserved (wakeupKick conf (afterCompleteTx conf w.xsks i i)) (t i)
  case true =>
    exact ⟨_, .worker dropAll false (workerStep_retry hpc hc hr (enqueueTx_of_buffer_eq rfl)),
      .inl rfl⟩
  case false =>
    have htx : (wakeupKick conf (afterCompleteTx conf w.xsks i i)).tx = (w.xsks i).tx := by
      rw [hsame.tx, afterCompleteTx_tx]
    have hne : (w.xsks i).tx ≠ [] := fun h => by
      rw [txReserved_of_tx_nil (htx.trans h)] at hr; cases hr
    rcases kernel_send_or_drain hinv hb hi hne with ⟨w', hk, hpc', hlt⟩ | hdr
    · exact ⟨w', .kernel hk, .inr ⟨hpc'.trans hpc, hlt⟩⟩
    · refine ⟨_, .worker dropAll false (workerStep_retry_again hpc hc hr), .inr ⟨rfl, ?_⟩⟩
      simp only [loopMeasure, Function.update_same, htx, hsame.cq, afterCompleteTx_cq, ite_true,
        List.length_drop]
      have := drained_le_length conf (w.xsks i)
      omega

/-- Forwarding to the ingress cannot jam the retry loop.  From every world of a run in which
`process_batch(xsks, i)` waits for room on socket `i`'s own tx ring, some run of the worker
and the kernel leaves the loop, having submitted the bucket. -/
theorem retry_self_leaves (ha : Aligned conf s) (hb : 0 < conf.batchSize)
    (hw : Reachable conf bindFlags w) (hpc : w.pc = .retry i i t) :
    ∃ w', Relation.ReflTransGen (Step conf) w w' ∧ w'.pc = .fwd i (i + 1) t :=
  exists_run_of_variant (fun w => Reachable conf bindFlags w ∧ w.pc = .retry i i t)
    (fun w => w.pc = .fwd i (i + 1) t) (loopMeasure i)
    (fun _ ⟨hw, hpc⟩ => by
      obtain ⟨w', hs, h⟩ := retry_self_step ha hb hw hpc
      exact ⟨w', hs, h.imp_right fun h => ⟨⟨hw.tail hs, h.1⟩, h.2⟩⟩) w ⟨hw, hpc⟩

end Leave

/-- After the thirty-two rounds of the schedule, a batch of 64 packets on socket `1` alone
finds no room on socket `1`'s full tx ring: `process_batch(xsks, 1)` waits on its own tx
ring. -/
lemma sched_self_retry : ∃ w T, Reachable twoPortConf (fun _ => 0) w ∧ w.pc = .retry 1 1 T := by
  obtain ⟨w, hw, hpc, hs, h₀, h₁⟩ := sched_saturate 32 le_rfl
  have hf := hs.fq₁
  -- the driver's batch on socket `1`
  obtain ⟨w₁, hw₁, hpc₁, R, hR, hx⟩ := reachable_rx_burst aligned_twoPortConf hw
    (show 1 < twoPortConf.numInterfaces by decide) 64 (by omega) (by rw [h₁]; decide)
  have x₀ : w₁.xsks 0 = w.xsks 0 := by rw [hx, Function.update_noteq (by decide)]
  have x₁ : w₁.xsks 1 = { w.xsks 1 with fq := (w.xsks 1).fq.drop 64, rx := (w.xsks 1).rx ++ R } := by
    rw [hx, Function.update_same]
  have hs₁ : Sched w₁ (3072 - 64 * 32) (3072 - 64 * 32 - 64) (64 * 32) 2048 := by
    refine ⟨?_, ?_, ?_, ?_, ?_, ?_⟩
    · rw [x₀, x₁]; exact hs.buffer
    · rw [x₀]; exact hs.fq₀
    · rw [x₁]; show _ ≤ ((w.xsks 1).fq.drop 64).length; rw [List.length_drop]; omega
    · rw [x₀]; exact hs.idle
    · rw [x₁]; exact hs.tx
    · rw [x₁]; exact hs.cq
  -- `process_batch(xsks, 0)` finds socket `0`'s rx ring empty
  have h0 : received twoPortConf (w₁.xsks 0) = 0 := by rw [received, x₀, h₀]; rfl
  have k₃ : workerStep twoPortConf dropAll false ⟨w₁.xsks, w₁.mem, .recv 0⟩ =
      .ok ⟨Function.update w₁.xsks 0 (emptyPoll twoPortConf (w₁.xsks 0)), w₁.mem, .batch 1⟩ :=
    workerStep_recv_none rfl (receive_empty h0)
  have hsame := sameRings_emptyPoll twoPortConf (w₁.xsks 0)
  -- `complete_tx(xsks, 1)`, and the batch of socket `1` forwarded to socket `1`
  obtain ⟨w₄, hw₄, hpc₄, hs₄, h₄⟩ := sched_complete
    ((sched_enter hw₁ (hpc₁.trans hpc) hs₁).tail (.worker _ _ k₃)) rfl
    (hs₁.update_rx hsame.buffer hsame.fq hsame.outstanding hsame.tx hsame.cq _ _)
  have hrx : (w₄.xsks 1).rx.length = 64 := by
    rw [h₄]
    show (Function.update w₁.xsks 0 (emptyPoll twoPortConf (w₁.xsks 0)) 1).rx.length = 64
    rw [Function.update_noteq (show (1 : Nat) ≠ 0 by decide), x₁]
    show ((w.xsks 1).rx ++ R).length = 64
    rw [List.length_append, h₁, hR]; rfl
  obtain ⟨w₅, T, hw₅, hpc₅, hs₅, hc, -⟩ := sched_receive hw₄ hpc₄ hs₄ hrx
  have hres : txReserved (w₅.xsks 1) (T 1) = false := by
    rw [Bool.eq_false_iff, ne_eq, txReserved_iff (by omega), hs₅.tx, hc]; decide
  exact ⟨_, T, hw₅.tail (.worker dropAll false (workerStep_fwd_retry hpc₅ (by decide) (by omega)
    hres)), rfl⟩

theorem retry_self_leaves_two_ports : ∃ w T, Reachable twoPortConf (fun _ => 0) w ∧
    w.pc = .retry 1 1 T ∧ ∃ w', Relation.ReflTransGen (Step twoPortConf) w w' ∧ w'.pc = .fwd 1 2 T := by
  obtain ⟨w, T, hw, hpc⟩ := sched_self_retry
  exact ⟨w, T, hw, hpc, retry_self_leaves aligned_twoPortConf (by decide) hw hpc⟩

section Leave1

variable {bindFlags : Nat → Nat} {w : World} {t : Bucket PktInfo}

/-- One step of the loop of `process_batch_1if`: the turn that leaves it, a send of the
kernel, or a turn that drains a completion. -/
lemma retry1_step (ha : Aligned conf s) (hb : 0 < conf.batchSize)
    (hw : Reachable conf bindFlags w) (hpc : w.pc = .retry1 t) :
    ∃ w', Step conf w w' ∧ (w'.pc = .top ∨ w'.pc = .retry1 t ∧ loopMeasure 0 w' < loopMeasure 0 w) := by
  have hinv := (inv_reachable ha hw).1
  have hp := hinv.pc
  rw [hpc] at hp
  have h0 : 0 < conf.numInterfaces := by rw [hp.1]; exact Nat.one_pos
  have hc := completeTx1if_eq (.inr (hinv.drainRoom1if hp.1))
  have hsame := sameRings_wakeupKick conf (afterCompleteTx1if conf (w.xsks 0))
  cases hr : txReserved (wakeupKick conf (afterCompleteTx1if conf (w.xsks 0))) t
  case true => exact ⟨_, .worker dropAll false (workerStep_retry1 hpc hc hr), .inl rfl⟩
  case false =>
    have htx : (wakeupKick conf (afterCompleteTx1if conf (w.xsks 0))).tx = (w.xsks 0).tx := by
      rw [hsame.tx, afterCompleteTx1if_tx]
    have hne : (w.xsks 0).tx ≠ [] := fun h => by
      rw [txReserved_of_tx_nil (htx.trans h)] at hr; cases hr
    rcases kernel_send_or_drain hinv hb h0 hne with ⟨w', hk, hpc', hlt⟩ | hdr
    · exact ⟨w', .kernel hk, .inr ⟨hpc'.trans hpc, hlt⟩⟩
    · refine ⟨_, .worker dropAll false (workerStep_retry1_again hpc hc hr), .inr ⟨rfl, ?_⟩⟩
      simp only [loopMeasure, Function.update_same, htx, hsame.cq, afterCompleteTx1if_cq,
        List.length_drop]
      have := drained_le_length conf (w.xsks 0)
      omega

/-- With one interface, some run from every world of a run brings the worker back to the top
of `worker_loop`: no phase of `process_batch_1if` faults in aligned mode, and its retry loop
can be left, by the variant of `retry1_step`. -/
lemma top_of_one_port (ha : Aligned conf s) (hb : 0 < conf.batchSize)
    (hw : Reachable conf bindFlags w) (hn : conf.numInterfaces = 1) :
    ∃ w', Relation.ReflTransGen (Step conf) w w' ∧ w'.pc = .top := by
  have retry : ∀ {w t}, Reachable conf bindFlags w → w.pc = .retry1 t →
      ∃ w', Relation.ReflTransGen (Step conf) w w' ∧ w'.pc = .top := fun {w t} hw hpc =>
    exists_run_of_variant (fun w => Reachable conf bindFlags w ∧ w.pc = .retry1 t)
      (fun w => w.pc = .top) (loopMeasure 0)
      (fun _ ⟨hw, hpc⟩ => by
        obtain ⟨w', hs, h⟩ := retry1_step ha hb hw hpc
        exact ⟨w', hs, h.imp_right fun h => ⟨⟨hw.tail hs, h.1⟩, h.2⟩⟩) w ⟨hw, hpc⟩
  -- the forwarding: nothing to send, the bucket submitted, or the loop entered
  have fwd : ∀ {w b}, Reachable conf bindFlags w → w.pc = .fwd1 b →
      ∃ w', Relation.ReflTransGen (Step conf) w w' ∧ w'.pc = .top := fun {w b} hw hpc => by
    by_cases hc : b.count.toNat = 0
    · exact ⟨_, .single (.worker dropAll false (workerStep_fwd1_empty hpc hc)), rfl⟩
    cases hr : txReserved (w.xsks 0) b
    · have hs : Step conf w _ := .worker dropAll false (workerStep_fwd1_retry hpc hc hr)
      obtain ⟨w', hr', htop⟩ := retry (hw.tail hs) rfl
      exact ⟨w', .head hs hr', htop⟩
    · exact ⟨_, .single (.worker dropAll false (workerStep_fwd1 hpc hc hr)), rfl⟩
  -- the rx half: nothing received, or a bucket to forward
  have recv : ∀ {w}, Reachable conf bindFlags w → w.pc = .recv1 →
      ∃ w', Relation.ReflTransGen (Step conf) w w' ∧ w'.pc = .top := fun {w} hw hpc => by
    rcases Nat.eq_zero_or_pos (received conf (w.xsks 0)) with h0 | hr
    · exact ⟨_, .single (.worker dropAll false (workerStep_recv1_none hpc (receive1if_empty h0))),
        rfl⟩
    · have hs : Step conf w _ := .worker dropAll false (workerStep_recv1 hpc (receive1if_eq hr
        (.inr ((inv_reachable ha hw).1.dropRoom (by omega) dropAll))))
      obtain ⟨w', hr', htop⟩ := fwd (hw.tail hs) rfl
      exact ⟨w', .head hs hr', htop⟩
  have hinv := (inv_reachable ha hw).1
  have hp := hinv.pc
  cases hpc : w.pc with
  | top => exact ⟨w, .refl, hpc⟩
  | batch1 =>
    have hs : Step conf w _ :=
      .worker dropAll false (workerStep_batch1 hpc (completeTx1if_eq (.inr (hinv.drainRoom1if hn))))
    obtain ⟨w', hr', htop⟩ := recv (hw.tail hs) rfl
    exact ⟨w', .head hs hr', htop⟩
  | recv1 => exact recv hw hpc
  | fwd1 b => exact fwd hw hpc
  | retry1 t => exact retry hw hpc
  | batch i | recv i | fwd i j t | retry i j t => rw [hpc] at hp; exact absurd hp.1 (by omega)

/-- The retry loop of `process_batch_1if` cannot jam: `complete_tx_1if` drains the completion
ring of the one socket it waits on.  From every world of a run in which the loop waits for
room on the tx ring, some run of the worker and the kernel leaves it, having submitted the
bucket, back at the top of `worker_loop`. -/
theorem retry1_leaves (ha : Aligned conf s) (hb : 0 < conf.batchSize)
    (hw : Reachable conf bindFlags w) (hpc : w.pc = .retry1 t) :
    ∃ w', Relation.ReflTransGen (Step conf) w w' ∧ w'.pc = .top := by
  have hp := (inv_reachable ha hw).1.pc
  rw [hpc] at hp
  exact top_of_one_port ha hb hw hp.1

end Leave1

/-! ### A schedule that enters the loop of `process_batch_1if`

One interface; the driver receives batches of 64 packets, the classifier sends every packet
back out of interface `0`, and the kernel sends nothing.  Thirty-two rounds fill the tx ring,
and the next batch waits for room. -/

lemma aligned_onePortConf : Aligned onePortConf 12 := ⟨rfl, rfl, by decide, by decide⟩

/-- The worlds of the one-port schedule: at least `f` frames on the fill ring, `t`
descriptors on the tx ring, and nothing received or completed. -/
structure OneSched (w : World) (f t : Nat) : Prop where
  fq : f ≤ (w.xsks 0).fq.length
  tx : (w.xsks 0).tx.length = t
  rx : (w.xsks 0).rx = []
  cq : (w.xsks 0).cq = []

section OneSchedule

variable {w : World} {f t : Nat}

lemma oneSched_init : OneSched (initWorld onePortConf fun _ => 0) 4096 0 where
  fq := by simp [initWorld, initXsks, onePortConf, framesPerSocket, framesPerSocketShift]
  tx := rfl
  rx := rfl
  cq := rfl

/-- From the top of its loop the worker enters `process_batch_1if`, with nothing to complete. -/
lemma oneSched_enter (hw : Reachable onePortConf (fun _ => 0) w) (hpc : w.pc = .top)
    (hcq : (w.xsks 0).cq = []) :
    Reachable onePortConf (fun _ => 0) ⟨Function.update w.xsks 0 (afterCompleteTx1if onePortConf (w.xsks 0)),
      w.mem, .recv1⟩ := by
  have k₁ : workerStep onePortConf dropAll false w = .ok { w with pc := .batch1 } :=
    workerStep_top hpc rfl
  have hd : drained onePortConf (w.xsks 0) = 0 := by simp [drained_eq, hcq]
  exact (hw.tail (.worker _ _ k₁)).tail
    (.worker dropAll false (workerStep_batch1 rfl (completeTx1if_eq (.inl hd))))

/-- `process_batch_1if` takes the 64 packets on the rx ring, all of them for interface `0`. -/
lemma oneSched_take (hw : Reachable onePortConf (fun _ => 0) w) (hpc : w.pc = .recv1)
    (hrx : (w.xsks 0).rx.length = 64) :
    ∃ w' T, Reachable onePortConf (fun _ => 0) w' ∧ w'.pc = .fwd1 T ∧ T.count.toNat = 64 ∧
      (w'.xsks 0).fq = (w.xsks 0).fq ∧ (w'.xsks 0).tx = (w.xsks 0).tx ∧ (w'.xsks 0).rx = [] ∧
      (w'.xsks 0).cq = (w.xsks 0).cq := by
  have hr : received onePortConf (w.xsks 0) = 64 := by rw [received, peek, hrx]; rfl
  have hdrop := dropBucket_forwardTo onePortConf (w.xsks 0) (show (0 : Int) ≤ 0 from le_rfl)
  have hT : (forwardBucket (batchPairs onePortConf (forwardTo 0) (w.xsks 0))).contents.length = 64 := by
    have hv : ∀ rd ∈ batchPairs onePortConf (forwardTo 0) (w.xsks 0), rd.1 = 0 :=
      fun rd h => fst_of_mem_batchPairs_forwardTo _ _ h
    rw [forwardBucket, selectForward_eq_selectVerdict_zero fun rd h => .inr (hv rd h),
      selectVerdict_eq_map hv, batchPairs_snd, Bucket.contents_empty_pushAll _ (by simp [hr])]
    simp [hr, hrx]
  refine ⟨_, _, hw.tail (.worker (forwardTo 0) false (workerStep_recv1 hpc
    (receive1if_eq (by rw [hr]; decide) (.inl (by rw [hdrop]; rfl))))), rfl,
    by rw [← Bucket.length_contents, hT], ?_, ?_, ?_, ?_⟩ <;>
    simp only [Function.update_same, afterReceive_fq, afterReceive_tx, afterReceive_rx,
      afterReceive_cq, hdrop, Bucket.contents_empty, List.map_nil, List.append_nil]
  rw [hr, List.drop_of_length_le hrx.le]

/-- The driver receives 64 packets, and `process_batch_1if` takes them all for interface `0`. -/
lemma oneSched_receive (hw : Reachable onePortConf (fun _ => 0) w) (hpc : w.pc = .top)
    (hs : OneSched w f t) (hf : 64 ≤ f) :
    ∃ w' T, Reachable onePortConf (fun _ => 0) w' ∧ w'.pc = .fwd1 T ∧ T.count.toNat = 64 ∧
      OneSched w' (f - 64) t := by
  have hfq := hs.fq
  obtain ⟨w₁, hw₁, hpc₁, R, hR, hx⟩ := reachable_rx_burst aligned_onePortConf hw
    (show 0 < onePortConf.numInterfaces by decide) 64 (by omega) (by rw [hs.rx]; decide)
  have x₁ : w₁.xsks 0 = { w.xsks 0 with fq := (w.xsks 0).fq.drop 64, rx := (w.xsks 0).rx ++ R } := by
    rw [hx, Function.update_same]
  have hcq : (w₁.xsks 0).cq = [] := by rw [x₁]; exact hs.cq
  have hd : drained onePortConf (w₁.xsks 0) = 0 := by simp [drained_eq, hcq]
  obtain ⟨w₂, T, hw₂, hpc₂, hc, hfq₂, htx₂, hrx₂, hcq₂⟩ := oneSched_take
    (oneSched_enter hw₁ (hpc₁.trans hpc) hcq) rfl (by
      simp only [Function.update_same, afterCompleteTx1if_rx]
      rw [x₁]
      show ((w.xsks 0).rx ++ R).length = 64
      rw [List.length_append, hs.rx, hR]; rfl)
  refine ⟨w₂, T, hw₂, hpc₂, hc, ⟨?_, ?_, hrx₂, ?_⟩⟩ <;>
    simp only [hfq₂, htx₂, hcq₂, Function.update_same, afterCompleteTx1if_fq, afterCompleteTx1if_tx,
      afterCompleteTx1if_cq, hd, hcq, List.take_zero, List.drop_zero, List.append_nil]
  · rw [x₁]; show _ ≤ ((w.xsks 0).fq.drop 64).length; rw [List.length_drop]; omega
  · rw [x₁]; exact hs.tx

/-- One round: the batch goes out on the tx ring, which has room for it. -/
lemma oneSched_round (hw : Reachable onePortConf (fun _ => 0) w) (hpc : w.pc = .top)
    (hs : OneSched w f t) (hf : 64 ≤ f) (ht : t + 64 ≤ 2048) :
    ∃ w', Reachable onePortConf (fun _ => 0) w' ∧ w'.pc = .top ∧ OneSched w' (f - 64) (t + 64) := by
  obtain ⟨w₁, T, hw₁, hpc₁, hc, hs₁⟩ := oneSched_receive hw hpc hs hf
  have hres : txReserved (w₁.xsks 0) T = true := by
    rw [txReserved_iff (by omega), hs₁.tx, hc]; exact ht
  refine ⟨_, hw₁.tail (.worker dropAll false (workerStep_fwd1 hpc₁ (by omega) hres)), rfl,
    ⟨?_, ?_, ?_, ?_⟩⟩ <;> simp only [Function.update_same]
  · exact hs₁.fq
  · rw [XskSocketInfo.submitTx_tx, List.length_append, hs₁.tx, Bucket.length_contents, hc]
  · exact hs₁.rx
  · exact hs₁.cq

/-- Thirty-two rounds fill the tx ring. -/
lemma oneSched_fill : ∀ k ≤ 32, ∃ w, Reachable onePortConf (fun _ => 0) w ∧ w.pc = .top ∧
    OneSched w (4096 - 64 * k) (64 * k)
  | 0, _ => ⟨_, .refl, rfl, oneSched_init⟩
  | k + 1, hk => by
    obtain ⟨w, hw, hpc, hs⟩ := oneSched_fill k (by omega)
    obtain ⟨w', hw', hpc', hs'⟩ := oneSched_round hw hpc hs (by omega) (by omega)
    exact ⟨w', hw', hpc', hs'⟩

/-- The next batch finds the tx ring full: `process_batch_1if` waits for room. -/
lemma oneSched_retry : ∃ w T, Reachable onePortConf (fun _ => 0) w ∧ w.pc = .retry1 T := by
  obtain ⟨w, hw, hpc, hs⟩ := oneSched_fill 32 le_rfl
  obtain ⟨w₁, T, hw₁, hpc₁, hc, hs₁⟩ := oneSched_receive hw hpc hs (by decide)
  have hres : txReserved (w₁.xsks 0) T = false := by
    rw [Bool.eq_false_iff, ne_eq, txReserved_iff (by omega), hs₁.tx, hc]; decide
  exact ⟨_, T, hw₁.tail (.worker dropAll false (workerStep_fwd1_retry hpc₁ (by omega) hres)), rfl⟩

end OneSchedule

theorem retry1_leaves_one_port : ∃ w T, Reachable onePortConf (fun _ => 0) w ∧ w.pc = .retry1 T ∧
    ∃ w', Relation.ReflTransGen (Step onePortConf) w w' ∧ w'.pc = .top := by
  obtain ⟨w, T, hw, hpc⟩ := oneSched_retry
  exact ⟨w, T, hw, hpc, retry1_leaves aligned_onePortConf (by decide) hw hpc⟩

theorem fastPath_agrees_in_retry : ∃ w T, Reachable onePortConf (fun _ => 0) w ∧ w.pc = .retry1 T ∧
    ResultMatch (workerStep onePortConf dropAll true w)
      (workerStep onePortConf dropAll true ⟨w.xsks, w.mem, .retry 0 0 fun _ => T⟩) := by
  obtain ⟨w, T, hw, hpc⟩ := oneSched_retry
  have hm : FastMatch w ⟨w.xsks, w.mem, .retry 0 0 fun _ => T⟩ := ⟨rfl, rfl, hpc ▸ .retry rfl⟩
  exact ⟨w, T, hw, hpc, (fastPath_agrees aligned_onePortConf rfl (by decide) (fun _ => .inl rfl) hw
    hm).1 (by rw [hpc]; exact Pc.noConfusion)⟩

end Xsknf
