import Xsknf.Invariant
import Xsknf.ParseArgs
import Mathlib.Order.Interval.Finset.Nat

/-!
# The worker does not stop in aligned mode

Every phase of the data path has a fatal branch.  The reservations on the fill rings in
`complete_tx`, `complete_tx_1if`, `process_batch` and `process_batch_1if` end in
`exit_with_error(-ret)` when they come back short; `complete_tx` indexes `to_fill` with the
owner it decodes; `process_batch` indexes `to_tx` with the verdict; and the copy of the
forwarding loop reads and writes the regions at the packet's address.

In aligned mode the invariant of the runs rules out all of them but the verdict.  A fill
ring and what goes back to it are distinct frames of one owner, which primed only
`FRAMES_PER_SOCKET` of them, the fill ring's size; every address names a socket of the
worker; and every descriptor the worker holds lies inside its frame, so inside the regions.
From every world of a run the worker's step returns, unless it is the rx half of
`process_batch` and the classifier answers outside `{-1} ∪ [0, num_interfaces)`
(`workerStep_error_iff`).

That verdict is an index nothing checks.  `process_batch` indexes `to_tx` and `ntx` with it,
where the specification has the worker refuse it; and every `-i` of the command line writes
`bind_flags` and `interfaces` at `num_interfaces` (`parseArgs_overflows`), which nothing
compares with `XSKNF_MAX_INTERFACES` either (`indexes_unchecked`).
-/

namespace Xsknf

variable {conf : Conf} {s : Nat}

/-! ### Room on the fill rings -/

section Room

variable {w : World} (hinv : Inv conf w)
include hinv

/-- Addresses of distinct frames of one owner, anywhere in a world, are no more than the
`FRAMES_PER_SOCKET` frames that owner primed. -/
lemma Inv.length_le_of_owner {L : List Nat}
    (hL : (L : Multiset Nat) ≤ worldAddrs conf.numInterfaces w) {o : Nat}
    (ho : ∀ a ∈ L, frameOwner conf a = o) : L.length ≤ framesPerSocket := by
  have hnd : (L.map (· / conf.xskFrameSize)).Nodup := by simpa using hinv.nodup_map hL
  have hsub : (L.map (· / conf.xskFrameSize)).toFinset ⊆
      Finset.Ico (o * framesPerSocket) ((o + 1) * framesPerSocket) := fun x hx => by
    obtain ⟨a, ha, rfl⟩ := List.mem_map.1 (List.mem_toFinset.1 hx)
    have h := ho a ha
    unfold frameOwner at h
    rw [Finset.mem_Ico, ← Nat.le_div_iff_mul_le (by decide), ← Nat.div_lt_iff_lt_mul (by decide), h]
    omega
  calc L.length = (L.map (· / conf.xskFrameSize)).toFinset.card := by
        rw [List.toFinset_card_of_nodup hnd, List.length_map]
    _ ≤ (Finset.Ico (o * framesPerSocket) ((o + 1) * framesPerSocket)).card :=
        Finset.card_le_card hsub
    _ = framesPerSocket := by rw [Nat.card_Ico, Nat.succ_mul, Nat.add_sub_cancel_left]

/-- Every bucket of `complete_tx(xsks, i)` fits its owner's fill ring: the ring and the
bucket hold distinct frames of the owner. -/
lemma Inv.fillRoom (ha : Aligned conf s) {i : Nat} (hi : i < conf.numInterfaces) :
    FillRoom (fillBuckets conf ((w.xsks i).cq.take (drained conf (w.xsks i))))
      (List.range conf.numInterfaces) w.xsks := fun o ho => by
  have ho := List.mem_range.1 ho
  set D := (w.xsks i).cq.take (drained conf (w.xsks i))
  set F := D.filter (frameOwner conf · = o)
  have hcount : (fillBuckets conf D o).count.toNat ≤ F.length := by
    rw [fillBuckets_eq_filter ha (drained_owner hinv.sock hi), Bucket.count_pushAll]
    simpa using Nat.mod_le F.length 256
  have hF : (F : Multiset Nat) ≤ (w.xsks i).cq :=
    Multiset.coe_le.2 ((List.filter_sublist _).trans (List.take_sublist _ _)).subperm
  have hle : (((w.xsks o).fq ++ F : List Nat) : Multiset Nat) ≤ worldAddrs conf.numInterfaces w := by
    rw [← Multiset.coe_add]
    by_cases hoi : o = i
    · subst hoi
      exact (add_le_add (le_add_right (le_add_right le_rfl)) hF).trans (addrs_le_worldAddrs ho)
    · exact (add_le_add (le_add_right (le_add_right (le_add_right le_rfl))) (le_add_left hF)).trans
        (addrs_add_le_worldAddrs ho hi hoi)
  have hown : ∀ a ∈ (w.xsks o).fq ++ F, frameOwner conf a = o := fun a ha' => by
    rcases List.mem_append.1 ha' with h | h
    · exact hinv.sock.fq o ho a h
    · simpa using (List.mem_filter.1 h).2
  have hlen := hinv.length_le_of_owner hle hown
  rw [List.length_append] at hlen
  have : framesPerSocket = fillSize := rfl
  exact .inr (by omega)

/-- In aligned mode `complete_tx` returns in every world of a run: every drained address
names a socket, and every bucket fits its owner's fill ring, so the `exit_with_error` of the
fill loop is unreachable. -/
theorem completeTx_eq_of_inv (ha : Aligned conf s) {i : Nat} (hi : i < conf.numInterfaces) :
    completeTx conf w.xsks i = .ok (afterCompleteTx conf w.xsks i) :=
  completeTx_eq (ha.ownersIn (drained_owner hinv.sock hi)) (hinv.fillRoom ha hi)

/-- A fill ring has room for frames of its owner that sit elsewhere on the socket's rings:
the ring and they are distinct frames of the owner. -/
lemma Inv.fq_length_add_le {i : Nat} (hi : i < conf.numInterfaces) {L : List Nat}
    (hL : ↑(w.xsks i).fq + (L : Multiset Nat) ≤ (w.xsks i).addrs)
    (ho : ∀ a ∈ L, frameOwner conf a = i) : (w.xsks i).fq.length + L.length ≤ fillSize := by
  have h := hinv.length_le_of_owner (L := (w.xsks i).fq ++ L)
    (by rw [← Multiset.coe_add]; exact hL.trans (addrs_le_worldAddrs hi))
    fun a ha => (List.mem_append.1 ha).elim (hinv.sock.fq i hi a) (ho a)
  rwa [List.length_append] at h

/-- The drops of a batch fit the fill ring of the socket that received them. -/
lemma Inv.dropRoom {i : Nat} (hi : i < conf.numInterfaces) (cls : Classifier) :
    (w.xsks i).fq.length + (dropBucket (batchPairs conf cls (w.xsks i))).count.toNat ≤ fillSize := by
  set D := (dropBucket (batchPairs conf cls (w.xsks i))).contents
  have hD : (D : Multiset PktInfo) ≤ (w.xsks i).rx :=
    ((le_add_right le_rfl).trans (buckets1if_le _).1).trans (by
      rw [batchPairs_snd]; exact Multiset.coe_le.2 (List.take_sublist _ _).subperm)
  have hrx : ((D.map PktInfo.addr : List Nat) : Multiset Nat) ≤ ↑((w.xsks i).rx.map PktInfo.addr) := by
    simpa only [Multiset.map_coe] using Multiset.map_le_map (f := PktInfo.addr) hD
  have h := hinv.fq_length_add_le hi (le_add_right (le_add_right (add_le_add_left hrx _)))
    fun a ha => by
      obtain ⟨d, hd, rfl⟩ := List.mem_map.1 ha
      exact (hinv.sock.rx i hi d (Multiset.mem_of_le hD hd)).1
  rwa [List.length_map, Bucket.length_contents] at h

/-- What `complete_tx_1if` drains fits the fill ring of the one socket. -/
lemma Inv.drainRoom1if (hn : conf.numInterfaces = 1) :
    (w.xsks 0).fq.length + drained conf (w.xsks 0) ≤ fillSize := by
  have h0 : 0 < conf.numInterfaces := hn ▸ Nat.one_pos
  have h := hinv.fq_length_add_le h0 (L := (w.xsks 0).cq.take (drained conf (w.xsks 0)))
    (add_le_add (le_add_right (le_add_right le_rfl))
      (Multiset.coe_le.2 (List.take_sublist _ _).subperm))
    fun a ha => by have := hinv.sock.cq 0 h0 a (List.mem_of_mem_take ha); omega
  rwa [List.length_take, Nat.min_eq_left (drained_le_length _ _)] at h

end Room

/-! ### Copies inside the regions -/

/-- In aligned mode a descriptor inside a frame of some socket lies inside the regions. -/
lemma Aligned.addr_add_len_le (ha : Aligned conf s) {d : PktInfo}
    (ho : frameOwner conf d.addr < conf.numInterfaces) (hd : WellFormed conf d) :
    d.addr + d.len ≤ umemBufsize conf.numInterfaces conf.xskFrameSize := by
  have h := ha.fillChunk_add_le ho
  rw [fillChunk, ha.unaligned, if_neg Bool.false_ne_true] at h
  have := Nat.div_add_mod' d.addr conf.xskFrameSize
  have := hd.2
  omega

/-- The copy of the forwarding loop returns when every packet lies inside the regions. -/
lemma copyPackets_ok {dst src : Nat} : ∀ {mem : Mem} {ds : List PktInfo},
    (∀ d ∈ ds, d.addr + d.len ≤ umemBufsize conf.numInterfaces conf.xskFrameSize) →
      ∃ mem', copyPackets conf dst src mem ds = .ok mem'
  | mem, [], _ => ⟨mem, rfl⟩
  | mem, d :: ds, h => by
    rw [copyPackets, if_pos (h d (List.mem_cons_self _ _))]
    exact copyPackets_ok fun d' hd' => h d' (List.mem_cons_of_mem _ hd')

lemma enqueueTx_ok_of_bounds {xsks : Xsks} {mem : Mem} {i j : Nat} {b : Bucket PktInfo}
    (h : ∀ d ∈ b.contents, d.addr + d.len ≤ umemBufsize conf.numInterfaces conf.xskFrameSize) :
    ∃ r, enqueueTx conf xsks mem i j b = .ok r := by
  by_cases hbuf : (xsks i).buffer = (xsks j).buffer
  · exact ⟨_, enqueueTx_of_buffer_eq hbuf⟩
  · have hc : ∃ m, copyPackets conf (xsks j).buffer (xsks i).buffer mem b.contents = .ok m :=
      copyPackets_ok h
    obtain ⟨m, hc⟩ := hc
    exact ⟨_, by simp only [enqueueTx, if_pos hbuf, hc, ok_bind]; rfl⟩

/-- The bucket the forwarding loop has reached holds packets of the ingress, so it lies
inside the regions. -/
lemma bucket_bounds (ha : Aligned conf s) {i j : Nat} {t : Nat → Bucket PktInfo}
    (hi : i < conf.numInterfaces) (hj : j < conf.numInterfaces)
    (hheld : ∀ d ∈ Pc.held conf.numInterfaces (.fwd i j t), frameOwner conf d.addr = i ∧ WellFormed conf d) :
    ∀ d ∈ (t j).contents, d.addr + d.len ≤ umemBufsize conf.numInterfaces conf.xskFrameSize :=
  fun d hd =>
    have h := hheld d (by rw [Pc.held_fwd_succ t hj]; exact List.mem_append_left _ hd)
    ha.addr_add_len_le (h.1 ▸ hi) h.2

/-! ### Every step returns -/

section Progress

variable {w : World} (hinv : Inv conf w) (ha : Aligned conf s) (cls : Classifier) (ready : Bool)
include hinv ha

/-- From a world of the invariant the worker's step returns, or the classifier has answered
out of range in the rx half of `process_batch`.  One case per place of the worker, each from
the spec lemma of the phase it runs. -/
theorem Inv.progress :
    (∃ w', workerStep conf cls ready w = .ok w') ∨
      ∃ i, w.pc = .recv i ∧ 0 < received conf (w.xsks i) ∧
        ¬ VerdictsIn conf.numInterfaces (batchPairs conf cls (w.xsks i)) := by
  have hp := hinv.pc
  cases hpc : w.pc with
  | top =>
    refine .inl ?_
    simp only [workerStep, hpc]
    split <;> exact ⟨_, rfl⟩
  | batch i =>
    refine .inl ?_
    by_cases hi : i < conf.numInterfaces
    · exact ⟨_, workerStep_batch hpc hi (completeTx_eq_of_inv hinv ha hi)⟩
    · exact ⟨_, workerStep_batch_end hpc (Nat.not_lt.1 hi)⟩
  | recv i =>
    rw [hpc] at hp
    obtain ⟨-, hi⟩ := hp
    rcases Nat.eq_zero_or_pos (received conf (w.xsks i)) with h0 | hr
    · exact .inl ⟨_, workerStep_recv_none hpc (receive_empty h0)⟩
    by_cases hv : VerdictsIn conf.numInterfaces (batchPairs conf cls (w.xsks i))
    · exact .inl ⟨_, workerStep_recv hpc (receive_eq hr hv (.inr (hinv.dropRoom hi cls)))⟩
    · exact .inr ⟨i, rfl, hr, hv⟩
  | fwd i j t =>
    rw [hpc] at hp
    obtain ⟨-, hi, -, hheld⟩ := hp
    refine .inl ?_
    by_cases hj : j < conf.numInterfaces
    · by_cases hc : (t j).count.toNat = 0
      · exact ⟨_, workerStep_fwd_skip hpc hj hc⟩
      cases hr : txReserved (w.xsks j) (t j)
      · exact ⟨_, workerStep_fwd_retry hpc hj hc hr⟩
      · obtain ⟨⟨xs, m⟩, he⟩ := enqueueTx_ok_of_bounds (bucket_bounds ha hi hj hheld)
        exact ⟨_, workerStep_fwd hpc hj hc hr he⟩
    · exact ⟨_, workerStep_fwd_end hpc (Nat.not_lt.1 hj)⟩
  | retry i j t =>
    rw [hpc] at hp
    obtain ⟨-, hi, hj, hheld⟩ := hp
    have hc := completeTx_eq_of_inv hinv ha hi
    refine .inl ?_
    cases hr : txReserved (wakeupKick conf (afterCompleteTx conf w.xsks i j)) (t j)
    · exact ⟨_, workerStep_retry_again hpc hc hr⟩
    · obtain ⟨⟨xs, m⟩, he⟩ := enqueueTx_ok_of_bounds (bucket_bounds ha hi hj hheld)
      exact ⟨_, workerStep_retry hpc hc hr he⟩
  | batch1 =>
    rw [hpc] at hp
    exact .inl ⟨_, workerStep_batch1 hpc (completeTx1if_eq (.inr (hinv.drainRoom1if hp)))⟩
  | recv1 =>
    rw [hpc] at hp
    have hn : conf.numInterfaces = 1 := hp
    refine .inl ?_
    rcases Nat.eq_zero_or_pos (received conf (w.xsks 0)) with h0 | hr
    · simp only [workerStep, hpc, receive1if_empty h0, ok_bind]
      exact ⟨_, rfl⟩
    · exact ⟨_, workerStep_recv1 hpc
        (receive1if_eq hr (.inr (hinv.dropRoom (show 0 < conf.numInterfaces by omega) cls)))⟩
  | fwd1 t =>
    refine .inl ?_
    simp only [workerStep, hpc]
    split_ifs <;> exact ⟨_, rfl⟩
  | retry1 t =>
    rw [hpc] at hp
    have hc := completeTx1if_eq (.inr (hinv.drainRoom1if hp.1))
    refine .inl ?_
    cases hr : txReserved (wakeupKick conf (afterCompleteTx1if conf (w.xsks 0))) t
    · exact ⟨_, workerStep_retry1_again hpc hc hr⟩
    · exact ⟨_, workerStep_retry1 hpc hc hr⟩

end Progress

/-- In aligned mode a worker of a run stops only on a verdict out of range.  The
`exit_with_error` branches of `complete_tx`, `complete_tx_1if`, `process_batch` and
`process_batch_1if`, the owner index of `complete_tx` and the copies of the forwarding loop
never fault; the step fails exactly when it is the rx half of `process_batch` on a batch
with a verdict outside `{-1} ∪ [0, num_interfaces)`. -/
theorem workerStep_error_iff (ha : Aligned conf s) {bindFlags : Nat → Nat} {w : World}
    (hw : Reachable conf bindFlags w) (cls : Classifier) (ready : Bool) (e : Fault) :
    workerStep conf cls ready w = .error e ↔
      e = .outOfBounds ∧ ∃ i, w.pc = .recv i ∧ 0 < received conf (w.xsks i) ∧
        ¬ VerdictsIn conf.numInterfaces (batchPairs conf cls (w.xsks i)) := by
  constructor
  · intro h
    rcases (inv_reachable ha hw).1.progress ha cls ready with ⟨w', h'⟩ | ⟨i, hpc, hr, hv⟩
    · rw [h] at h'; cases h'
    · rw [workerStep_recv_error hpc hr hv] at h
      exact ⟨(Except.error.inj h).symm, i, hpc, hr, hv⟩
  · rintro ⟨rfl, i, hpc, hr, hv⟩
    exact workerStep_recv_error hpc hr hv

lemma aligned_twoPortConf : Aligned twoPortConf 12 := ⟨rfl, rfl, by decide, by decide⟩

/-- A run of `twoPortConf` after the driver has written one byte at the start of socket
`0`'s frame `0` and the worker, with nothing to complete, has entered the rx half of
`process_batch(xsks, 0)`. -/
def twoPortRecv : World :=
  { xsks := Function.update (initXsks twoPortConf fun _ => 0) 0
      { initXsks twoPortConf (fun _ => 0) 0 with fq := fq0Rest, rx := [⟨0, 1⟩] }
    mem := writeBytes (fun _ _ => 0) 0 0 [0]
    pc := .recv 0 }

lemma reachable_twoPortRecv : Reachable twoPortConf (fun _ => 0) twoPortRecv := by
  have k₁ := @KernelStep.rx twoPortConf (initWorld twoPortConf fun _ => 0) 0 _ fq0Rest 0 1 [0]
    (by decide) (initXsks_fq_zero (by decide) rfl _) (by decide) (by decide) (by decide) rfl
    (by decide)
  exact ((Relation.ReflTransGen.single (.kernel k₁)).tail
    (.worker dropAll true (workerStep_top rfl rfl))).tail (.worker dropAll true (by rfl))

theorem workerStep_error_iff_verdict_five :
    workerStep twoPortConf (forwardTo 5) true twoPortRecv = .error .outOfBounds :=
  (workerStep_error_iff aligned_twoPortConf reachable_twoPortRecv (forwardTo 5) true
    .outOfBounds).2 ⟨rfl, 0, rfl, by decide, by decide⟩

/-! ### Unchecked indexes -/

/-- Neither index is checked.  With room for `maxIfaces` interfaces, `maxIfaces` options
`-i eth0` and one more `-i`, whatever follows, make the parser write past `bind_flags`
instead of refusing the command line.  And once a packet is on socket `0`'s rx ring, a
classifier verdict other than `-1`, `0` and `1` makes `process_batch(xsks, 0)` index
`to_tx` with it instead of stopping with a diagnostic. -/
theorem indexes_unchecked (maxIfaces : Nat) (a : List Char) (rest : List Opt) :
    parseArgs maxIfaces (List.replicate maxIfaces ⟨'i', "eth0".toList⟩ ++ ⟨'i', a⟩ :: rest) =
        .error .outOfBounds ∧
      Reachable twoPortConf (fun _ => 0) twoPortRecv ∧
      ∀ v : Int, v ≠ -1 → ¬ (0 ≤ v ∧ v < 2) →
        workerStep twoPortConf (forwardTo v) true twoPortRecv = .error .outOfBounds := by
  have hparse := parseArgs_overflows (List.replicate maxIfaces "eth0".toList)
    (List.length_replicate _ _) (fun nm h => (List.eq_of_mem_replicate h).symm ▸ by decide) a rest
  rw [List.map_replicate] at hparse
  refine ⟨hparse, reachable_twoPortRecv, fun v hv hr => ?_⟩
  refine workerStep_recv_error rfl (by decide) fun h => ?_
  rcases h (v, ⟨0, 1⟩) (List.mem_singleton_self _) with h | h
  · exact hv h
  · exact hr h

end Xsknf
