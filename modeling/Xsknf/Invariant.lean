import Xsknf.Frames

/-!
# The invariant of a run, step by step

Every step of the worker and of the kernel keeps `SockInv` and `PcOk`, and moves addresses
without duplicating any (`Keeps`); a step loses addresses only when a `uint8_t` counter of
`process_batch` or `complete_tx` wraps, which needs a batch of 256 or more.  The run
theorems at the end follow by induction over `Reachable`.
-/

namespace Xsknf

open Finset

variable {conf : Conf} {s : Nat}

/-! ### Sockets that keep their rings -/

/-- Two sockets with the same rings, the same `outstanding_tx` and the same region: what an
update of the statistics or of the wakeup flags leaves alone. -/
structure SameRings (x y : XskSocketInfo) : Prop where
  fq : x.fq = y.fq
  rx : x.rx = y.rx
  tx : x.tx = y.tx
  cq : x.cq = y.cq
  outstanding : x.outstandingTx = y.outstandingTx
  buffer : x.buffer = y.buffer

namespace SameRings

variable {x y : XskSocketInfo}

lemma refl (x : XskSocketInfo) : SameRings x x := ⟨rfl, rfl, rfl, rfl, rfl, rfl⟩

lemma addrs (h : SameRings x y) : x.addrs = y.addrs := by
  simp only [XskSocketInfo.addrs, h.fq, h.rx, h.tx, h.cq]

lemma update {xsks : Xsks} {j : Nat} (h : SameRings x (xsks j)) (o : Nat) :
    SameRings (Function.update xsks j x o) (xsks o) := by
  by_cases hoj : o = j
  · subst hoj; rwa [Function.update_same]
  · rw [Function.update_noteq hoj]; exact refl _

end SameRings

/-- A field that the update of one socket keeps is kept at every socket. -/
lemma update_field {β : Type} (f : XskSocketInfo → β) {xsks : Xsks} {j : Nat} {x : XskSocketInfo}
    (h : f x = f (xsks j)) (o : Nat) : f (Function.update xsks j x o) = f (xsks o) := by
  by_cases hoj : o = j
  · subst hoj; rw [Function.update_same, h]
  · rw [Function.update_noteq hoj]

lemma sameRings_emptyPoll (conf : Conf) (x : XskSocketInfo) : SameRings (emptyPoll conf x) x := by
  unfold emptyPoll; split <;> exact ⟨rfl, rfl, rfl, rfl, rfl, rfl⟩

lemma sameRings_wakeupKick (conf : Conf) (x : XskSocketInfo) :
    SameRings (wakeupKick conf x) x := by
  unfold wakeupKick; split <;> exact ⟨rfl, rfl, rfl, rfl, rfl, rfl⟩

lemma sameRings_countPolls (n : Nat) (xsks : Xsks) (o : Nat) :
    SameRings (countPolls n xsks o) (xsks o) := by
  unfold countPolls; split <;> exact ⟨rfl, rfl, rfl, rfl, rfl, rfl⟩

lemma SockInv.of_sameRings {xsks xsks' : Xsks} (hs : SockInv conf xsks)
    (h : ∀ o, SameRings (xsks' o) (xsks o)) : SockInv conf xsks' where
  fq o ho := by rw [(h o).fq]; exact hs.fq o ho
  rx o ho := by rw [(h o).rx]; exact hs.rx o ho
  tx o ho := by rw [(h o).tx]; exact hs.tx o ho
  cq o ho := by rw [(h o).cq]; exact hs.cq o ho
  outstanding o ho := by rw [(h o).outstanding, (h o).tx, (h o).cq]; exact hs.outstanding o ho

lemma sum_addrs_of_sameRings {n : Nat} {xsks xsks' : Xsks} (h : ∀ o, SameRings (xsks' o) (xsks o)) :
    ∑ o in range n, (xsks' o).addrs = ∑ o in range n, (xsks o).addrs :=
  Finset.sum_congr rfl fun o _ => (h o).addrs

/-! ### Updating one socket -/

/-- Replacing socket `j` by one that exchanges `X` for `Y` exchanges them in the sum. -/
lemma sum_addrs_update {n j : Nat} {xsks : Xsks} {x : XskSocketInfo} {X Y : Multiset Nat}
    (hj : j < n) (h : x.addrs + X = (xsks j).addrs + Y) :
    ∑ o in range n, (Function.update xsks j x o).addrs + X = ∑ o in range n, (xsks o).addrs + Y := by
  have := @sum_exchange n (fun o => (xsks o).addrs) (fun o => (Function.update xsks j x o).addrs)
    (fun o => if o = j then X else 0) (fun o => if o = j then Y else 0) fun o _ => by
      by_cases hoj : o = j
      · subst hoj; simpa using h
      · simp [hoj]
  rwa [sum_single hj, sum_single hj] at this

lemma sockInv_update {xsks : Xsks} {j : Nat} {x : XskSocketInfo} (hs : SockInv conf xsks)
    (hj : j < conf.numInterfaces)
    (hfq : ∀ a ∈ x.fq, frameOwner conf a = j)
    (hrx : ∀ d ∈ x.rx, frameOwner conf d.addr = j ∧ WellFormed conf d)
    (htx : ∀ d ∈ x.tx, frameOwner conf d.addr < conf.numInterfaces ∧ WellFormed conf d)
    (hcq : ∀ a ∈ x.cq, frameOwner conf a < conf.numInterfaces)
    (hout : x.outstandingTx = x.tx.length + x.cq.length) :
    SockInv conf (Function.update xsks j x) := by
  have key : ∀ o, Function.update xsks j x o = if o = j then x else xsks o := fun o => by
    by_cases hoj : o = j
    · subst hoj; simp
    · simp [hoj]
  refine ⟨fun o ho => ?_, fun o ho => ?_, fun o ho => ?_, fun o ho => ?_, fun o ho => ?_⟩ <;>
    rw [key] <;> split <;> subst_vars
  all_goals first
    | assumption
    | exact hs.fq o ho | exact hs.rx o ho | exact hs.tx o ho | exact hs.cq o ho
    | exact hs.outstanding o ho

@[simp] lemma addrs_submitTx (x : XskSocketInfo) (descs : List PktInfo) (ntx : Nat) :
    (x.submitTx descs ntx).addrs = x.addrs + ↑(descs.map PktInfo.addr) := by
  simp only [XskSocketInfo.addrs, XskSocketInfo.submitTx_fq, XskSocketInfo.submitTx_rx,
    XskSocketInfo.submitTx_tx, XskSocketInfo.submitTx_cq, List.map_append, ← Multiset.coe_add]
  ac_rfl

/-! ### `complete_tx` -/

section CompleteTx

variable (ha : Aligned conf s) {xsks : Xsks} {i : Nat}
include ha

lemma fillBuckets_eq_filter {D : List Nat} (hD : ∀ a ∈ D, frameOwner conf a < conf.numInterfaces)
    (o : Nat) : fillBuckets conf D o = Bucket.empty.pushAll (D.filter (frameOwner conf · = o)) := by
  simp only [fillBuckets, ha.ownedBy_eq hD]

/-- The buckets give back no more than was drained, and all of it below the wrap. -/
lemma fillBuckets_sum {D : List Nat} (hD : ∀ a ∈ D, frameOwner conf a < conf.numInterfaces) :
    ∑ o in range conf.numInterfaces, ((fillBuckets conf D o).contents : Multiset Nat) ≤ D ∧
      (D.length < 256 →
        ∑ o in range conf.numInterfaces, ((fillBuckets conf D o).contents : Multiset Nat) = D) := by
  simp only [fillBuckets_eq_filter ha hD]
  refine ⟨?_, fun hlen => ?_⟩
  · calc _ ≤ ∑ o in range conf.numInterfaces, ((D.filter (frameOwner conf · = o) : List Nat) :
            Multiset Nat) := Finset.sum_le_sum fun o _ => Bucket.contents_empty_pushAll_le _
      _ = D := sum_filter_eq _ D hD
  · rw [← sum_filter_eq (frameOwner conf) D hD]
    exact Finset.sum_congr rfl fun o _ => by
      rw [Bucket.contents_empty_pushAll _ (lt_of_le_of_lt (List.length_filter_le _ _) hlen)]

omit ha in
lemma drained_owner (hs : SockInv conf xsks) (hi : i < conf.numInterfaces) :
    ∀ a ∈ (xsks i).cq.take (drained conf (xsks i)), frameOwner conf a < conf.numInterfaces :=
  fun a h => hs.cq i hi a (List.mem_of_mem_take h)

omit ha in
lemma addrs_afterCompleteTx (hi : i < conf.numInterfaces) :
    ∑ o in range conf.numInterfaces, (afterCompleteTx conf xsks i o).addrs +
        ((xsks i).cq.take (drained conf (xsks i)) : Multiset Nat) =
      ∑ o in range conf.numInterfaces, (xsks o).addrs +
        ∑ o in range conf.numInterfaces,
          ((fillBuckets conf ((xsks i).cq.take (drained conf (xsks i))) o).contents : Multiset Nat) := by
  rw [← sum_single hi ((xsks i).cq.take (drained conf (xsks i)) : Multiset Nat)]
  refine sum_exchange fun o ho => ?_
  simp only [XskSocketInfo.addrs, afterCompleteTx_fq, afterCompleteTx_cq, afterCompleteTx_rx,
    afterCompleteTx_tx, if_pos ho]
  by_cases hoi : o = i
  · subst hoi
    have hcq : ((xsks o).cq : Multiset Nat) = (xsks o).cq.take (drained conf (xsks o)) +
        (xsks o).cq.drop (drained conf (xsks o)) := by
      rw [Multiset.coe_add, List.take_append_drop]
    simp only [if_true, hcq, ← Multiset.coe_add]
    ac_rfl
  · simp only [if_neg hoi, ← Multiset.coe_add, add_zero]
    ac_rfl

lemma sockInv_afterCompleteTx (hs : SockInv conf xsks) (hi : i < conf.numInterfaces) :
    SockInv conf (afterCompleteTx conf xsks i) where
  fq o ho a h := by
    rw [afterCompleteTx_fq, if_pos ho, List.mem_append] at h
    rcases h with h | h
    · exact hs.fq o ho a h
    · rw [fillBuckets_eq_filter ha (drained_owner hs hi)] at h
      have := (Bucket.contents_pushAll_suffix Bucket.empty _).subset h
      simp only [Bucket.contents_empty, List.nil_append, List.mem_filter, decide_eq_true_eq] at this
      exact this.2
  rx o ho d h := by rw [afterCompleteTx_rx] at h; exact hs.rx o ho d h
  tx o ho d h := by rw [afterCompleteTx_tx] at h; exact hs.tx o ho d h
  cq o ho a h := by
    rw [afterCompleteTx_cq] at h
    split at h
    · subst_vars; exact hs.cq _ ho a (List.mem_of_mem_drop h)
    · exact hs.cq o ho a h
  outstanding o ho := by
    have hout := hs.outstanding o ho
    rw [afterCompleteTx_outstandingTx, afterCompleteTx_tx, afterCompleteTx_cq]
    split
    · subst_vars
      have := drained_le_length conf (xsks o)
      simp only [List.length_drop]
      omega
    · exact hout

end CompleteTx

/-! ### The rx half -/

lemma Bucket.mem_of_mem_empty_pushAll {α : Type} [Inhabited α] {xs : List α} {d : α}
    (h : d ∈ (Bucket.empty.pushAll xs).contents) : d ∈ xs :=
  Multiset.mem_of_le (Bucket.contents_empty_pushAll_le xs) h

lemma verdictPairs_snd (cls : Classifier) (descs : List PktInfo) :
    (verdictPairs cls descs).map Prod.snd = descs := by
  simp only [verdictPairs, List.map_map]
  exact List.enum_map_snd descs

lemma batchPairs_snd (conf : Conf) (cls : Classifier) (x : XskSocketInfo) :
    (batchPairs conf cls x).map Prod.snd = x.rx.take (received conf x) :=
  verdictPairs_snd cls _

lemma length_batchPairs (conf : Conf) (cls : Classifier) (x : XskSocketInfo) :
    (batchPairs conf cls x).length = received conf x := by
  rw [← List.length_map _ Prod.snd, batchPairs_snd, List.length_take,
    Nat.min_eq_left (received_le_length conf x)]

/-- A descriptor of a batch came from the socket's rx ring. -/
lemma mem_rx_of_mem_batch {conf : Conf} {cls : Classifier} {x : XskSocketInfo} {d : PktInfo}
    (h : d ∈ (batchPairs conf cls x).map Prod.snd) : d ∈ x.rx := by
  rw [batchPairs_snd] at h
  exact List.mem_of_mem_take h

lemma mem_of_mem_selectVerdict {v : Int} {pairs : List (Int × PktInfo)} {d : PktInfo}
    (h : d ∈ selectVerdict v pairs) : d ∈ pairs.map Prod.snd := by
  obtain ⟨rd, hrd, he⟩ := List.mem_filterMap.1 h
  split at he
  · cases he; exact List.mem_map_of_mem _ hrd
  · cases he

lemma mem_of_mem_selectForward {pairs : List (Int × PktInfo)} {d : PktInfo}
    (h : d ∈ selectForward pairs) : d ∈ pairs.map Prod.snd := by
  obtain ⟨rd, hrd, he⟩ := List.mem_filterMap.1 h
  split at he
  · cases he
  · cases he; exact List.mem_map_of_mem _ hrd

/-- Every packet of a batch gets exactly one verdict. -/
lemma selectVerdict_sum {n : Nat} {pairs : List (Int × PktInfo)} (hv : VerdictsIn n pairs) :
    (selectVerdict (-1) pairs : Multiset PktInfo) +
        ∑ j in range n, (selectVerdict j pairs : Multiset PktInfo) = ↑(pairs.map Prod.snd) := by
  induction pairs with
  | nil => simp
  | cons rd pairs ih =>
    have hrest := ih fun x hx => hv x (List.mem_cons_of_mem rd hx)
    have hsplit : ∀ v : Int, (selectVerdict v (rd :: pairs) : Multiset PktInfo) =
        (if rd.1 = v then {rd.2} else 0) + ↑(selectVerdict v pairs) := fun v => by
      rw [selectVerdict_cons]; split <;> simp [Multiset.singleton_add]
    simp only [hsplit, Finset.sum_add_distrib, List.map_cons, ← Multiset.cons_coe, ← hrest]
    rcases hv rd (List.mem_cons_self _ _) with hd | ⟨h0, hn⟩
    · have hj : ∀ j : Nat, ¬ rd.1 = (j : Int) := fun j => by omega
      simp [hd, hj, ← Multiset.cons_coe, Multiset.cons_add]
    · obtain ⟨m, hm⟩ : ∃ m : Nat, rd.1 = m := ⟨rd.1.toNat, (Int.toNat_of_nonneg h0).symm⟩
      rw [hm] at hn
      simp only [hm, Nat.cast_inj, Finset.sum_ite_eq, Finset.mem_range, if_pos (Int.ofNat_lt.1 hn),
        show ¬ ((m : Int) = -1) by omega, if_false, zero_add]
      rw [← Multiset.singleton_add, add_left_comm]

lemma selectVerdict_add_selectForward (pairs : List (Int × PktInfo)) :
    (selectVerdict (-1) pairs : Multiset PktInfo) + ↑(selectForward pairs) = ↑(pairs.map Prod.snd) := by
  induction pairs with
  | nil => rfl
  | cons rd pairs ih =>
    by_cases hd : rd.1 = -1 <;>
      simp [selectVerdict_cons, selectForward, hd, ← ih, Multiset.singleton_add,
        ← Multiset.cons_coe, selectVerdict, Multiset.add_cons]

/-- The buckets of a batch hold no more than the batch, and all of it below the wrap. -/
lemma buckets_le {n : Nat} {pairs : List (Int × PktInfo)} (hv : VerdictsIn n pairs) :
    ((dropBucket pairs).contents : Multiset PktInfo) +
        ∑ j in range n, ((txBuckets pairs j).contents : Multiset PktInfo) ≤ ↑(pairs.map Prod.snd) ∧
      (pairs.length < 256 → ((dropBucket pairs).contents : Multiset PktInfo) +
        ∑ j in range n, ((txBuckets pairs j).contents : Multiset PktInfo) = ↑(pairs.map Prod.snd)) := by
  rw [← selectVerdict_sum hv]
  refine ⟨add_le_add (Bucket.contents_empty_pushAll_le _)
    (Finset.sum_le_sum fun j _ => Bucket.contents_empty_pushAll_le _), fun hl => ?_⟩
  have hlt : ∀ v, (selectVerdict v pairs).length < 256 :=
    fun v => lt_of_le_of_lt (List.length_filterMap_le _ _) hl
  simp only [dropBucket, txBuckets, Bucket.contents_empty_pushAll _ (hlt _)]

lemma buckets1if_le (pairs : List (Int × PktInfo)) :
    ((dropBucket pairs).contents : Multiset PktInfo) + ↑(forwardBucket pairs).contents ≤
        ↑(pairs.map Prod.snd) ∧
      (pairs.length < 256 → ((dropBucket pairs).contents : Multiset PktInfo) +
        ↑(forwardBucket pairs).contents = ↑(pairs.map Prod.snd)) := by
  rw [← selectVerdict_add_selectForward]
  refine ⟨add_le_add (Bucket.contents_empty_pushAll_le _) (Bucket.contents_empty_pushAll_le _),
    fun hl => ?_⟩
  rw [dropBucket, forwardBucket,
    Bucket.contents_empty_pushAll (selectVerdict (-1) pairs)
      (lt_of_le_of_lt (List.length_filterMap_le _ _) hl),
    Bucket.contents_empty_pushAll (selectForward pairs)
      (lt_of_le_of_lt (List.length_filterMap_le _ _) hl)]

lemma Pc.held_fwd_zero (n i : Nat) (toTx : Nat → Bucket PktInfo) :
    (Pc.held n (.fwd i 0 toTx) : Multiset PktInfo) =
      ∑ j in range n, ((toTx j).contents : Multiset PktInfo) := by
  simp only [Pc.held, Nat.sub_zero]
  induction n with
  | zero => rfl
  | succ m ih =>
    rw [List.range'_concat, List.flatMap_append, ← Multiset.coe_add, ih, Finset.sum_range_succ]
    simp

/-- The receiving socket gives up the batch and takes back the drops. -/
lemma addrs_afterReceive (conf : Conf) (cls : Classifier) (x : XskSocketInfo) :
    (afterReceive conf cls x).addrs + ↑((x.rx.take (received conf x)).map PktInfo.addr) =
      x.addrs + ↑((dropBucket (batchPairs conf cls x)).contents.map PktInfo.addr) := by
  have hrx : (x.rx.map PktInfo.addr : Multiset Nat) =
      ↑((x.rx.take (received conf x)).map PktInfo.addr) +
        ↑((x.rx.drop (received conf x)).map PktInfo.addr) := by
    rw [Multiset.coe_add, ← List.map_append, List.take_append_drop]
  simp only [XskSocketInfo.addrs, afterReceive_fq, afterReceive_rx, afterReceive_tx,
    afterReceive_cq, hrx, ← Multiset.coe_add]
  ac_rfl

lemma sockInv_afterReceive {xsks : Xsks} {i : Nat} {cls : Classifier} (hs : SockInv conf xsks)
    (hi : i < conf.numInterfaces) :
    SockInv conf (Function.update xsks i (afterReceive conf cls (xsks i))) := by
  refine sockInv_update hs hi (fun a ha' => ?_) (fun d hd => ?_) (fun d hd => ?_)
    (fun a ha' => ?_) ?_
  · rw [afterReceive_fq, List.mem_append] at ha'
    rcases ha' with ha' | ha'
    · exact hs.fq i hi a ha'
    · obtain ⟨d, hd, rfl⟩ := List.mem_map.1 ha'
      exact (hs.rx i hi d (mem_rx_of_mem_batch (mem_of_mem_selectVerdict
        (Bucket.mem_of_mem_empty_pushAll hd)))).1
  · rw [afterReceive_rx] at hd; exact hs.rx i hi d (List.mem_of_mem_drop hd)
  · rw [afterReceive_tx] at hd; exact hs.tx i hi d hd
  · rw [afterReceive_cq] at ha'; exact hs.cq i hi a ha'
  · rw [afterReceive_outstandingTx, afterReceive_tx, afterReceive_cq]; exact hs.outstanding i hi

/-! ### The operations as exchanges of addresses -/

section Ops

variable {xsks : Xsks} {i j : Nat}

@[simp] lemma worldAddrs_mk (n : Nat) (xsks : Xsks) (mem : Mem) (pc : Pc) :
    worldAddrs n ⟨xsks, mem, pc⟩ =
      ∑ o in range n, (xsks o).addrs + ↑((pc.held n).map PktInfo.addr) := rfl

lemma coe_map_addr_append (a b : List PktInfo) :
    (((a ++ b).map PktInfo.addr : List Nat) : Multiset Nat) =
      ↑(a.map PktInfo.addr) + ↑(b.map PktInfo.addr) := by
  rw [List.map_append, Multiset.coe_add]

/-- `complete_tx` loses only what a wrapped `nfill` counter drops. -/
lemma loses_afterCompleteTx (ha : Aligned conf s) (hs : SockInv conf xsks)
    (hi : i < conf.numInterfaces) :
    Loses conf (∑ o in range conf.numInterfaces, (xsks o).addrs)
      (∑ o in range conf.numInterfaces, (afterCompleteTx conf xsks i o).addrs) := by
  have hb := fillBuckets_sum ha (drained_owner hs hi)
  refine Loses.of_exchange (addrs_afterCompleteTx hi) hb.1 fun h256 => hb.2 ?_
  rw [List.length_take, drained_eq]
  omega

/-- The rx half of `process_batch` loses only what wrapped `ndrop` and `ntx` counters drop;
the rest of the batch is in the fill ring or in the worker's `to_tx`. -/
lemma loses_afterReceive {cls : Classifier} (hi : i < conf.numInterfaces)
    (hv : VerdictsIn conf.numInterfaces (batchPairs conf cls (xsks i))) :
    Loses conf (∑ o in range conf.numInterfaces, (xsks o).addrs)
      (∑ o in range conf.numInterfaces,
          (Function.update xsks i (afterReceive conf cls (xsks i)) o).addrs +
        ↑((Pc.held conf.numInterfaces (.fwd i 0 (txBuckets (batchPairs conf cls (xsks i))))).map
          PktInfo.addr)) := by
  have hx := sum_addrs_update hi (addrs_afterReceive conf cls (xsks i))
  have hb := buckets_le hv
  rw [batchPairs_snd] at hb
  refine Loses.of_exchange (X := ↑(((xsks i).rx.take (received conf (xsks i))).map PktInfo.addr))
    (Y := ↑((dropBucket (batchPairs conf cls (xsks i))).contents.map PktInfo.addr) +
      ↑((Pc.held conf.numInterfaces (.fwd i 0 (txBuckets (batchPairs conf cls (xsks i))))).map
        PktInfo.addr)) ?_ ?_ ?_
  · rw [add_right_comm, hx, add_assoc]
  · simp only [← Multiset.map_coe, ← Multiset.map_add, Pc.held_fwd_zero]
    exact Multiset.map_le_map hb.1
  · intro h256
    simp only [← Multiset.map_coe, ← Multiset.map_add, Pc.held_fwd_zero]
    rw [hb.2 (by rw [length_batchPairs]; exact lt_of_le_of_lt (received_le_batchSize _ _) h256)]

/-- Forwarding a bucket moves its descriptors onto the destination's tx ring. -/
lemma sum_addrs_enqueue (hj : j < conf.numInterfaces) (b : Bucket PktInfo) :
    ∑ o in range conf.numInterfaces,
        (Function.update xsks j ((xsks j).submitTx b.contents b.count.toNat) o).addrs =
      ∑ o in range conf.numInterfaces, (xsks o).addrs + ↑(b.contents.map PktInfo.addr) := by
  simpa using sum_addrs_update (X := 0) hj (by rw [add_zero]; exact addrs_submitTx (xsks j) _ _)

lemma sockInv_enqueue (hs : SockInv conf xsks) (hj : j < conf.numInterfaces) {b : Bucket PktInfo}
    (hb : ∀ d ∈ b.contents, frameOwner conf d.addr < conf.numInterfaces ∧ WellFormed conf d) :
    SockInv conf (Function.update xsks j ((xsks j).submitTx b.contents b.count.toNat)) := by
  refine sockInv_update hs hj (fun a h => ?_) (fun d h => ?_) (fun d h => ?_) (fun a h => ?_) ?_
  · exact hs.fq j hj a h
  · exact hs.rx j hj d h
  · rw [XskSocketInfo.submitTx_tx, List.mem_append] at h
    exact h.elim (hs.tx j hj d) (hb d)
  · exact hs.cq j hj a h
  · simp only [XskSocketInfo.submitTx_outstandingTx, XskSocketInfo.submitTx_tx,
      XskSocketInfo.submitTx_cq, List.length_append, Bucket.length_contents, hs.outstanding j hj]
    omega

/-- `complete_tx_1if` moves the drained addresses from the completion ring to the fill ring. -/
lemma addrs_afterCompleteTx1if (x : XskSocketInfo) : (afterCompleteTx1if conf x).addrs = x.addrs := by
  have hcq : (x.cq : Multiset Nat) = x.cq.take (drained conf x) + x.cq.drop (drained conf x) := by
    rw [Multiset.coe_add, List.take_append_drop]
  simp only [XskSocketInfo.addrs, afterCompleteTx1if, XskSocketInfo.submitFill_fq,
    XskSocketInfo.submitFill_rx, XskSocketInfo.submitFill_tx, XskSocketInfo.submitFill_cq,
    drainSocket_fq, drainSocket_rx, drainSocket_tx, drainSocket_cq, hcq, ← Multiset.coe_add]
  ac_rfl

lemma sockInv_afterCompleteTx1if (hs : SockInv conf xsks) (hn : conf.numInterfaces = 1) :
    SockInv conf (Function.update xsks 0 (afterCompleteTx1if conf (xsks 0))) := by
  have h0 : 0 < conf.numInterfaces := by omega
  refine sockInv_update hs h0 (fun a h => ?_) (fun d h => ?_) (fun d h => ?_) (fun a h => ?_) ?_
  · simp only [afterCompleteTx1if, XskSocketInfo.submitFill_fq, drainSocket_fq,
      List.mem_append] at h
    rcases h with h | h
    · exact hs.fq 0 h0 a h
    · have := hs.cq 0 h0 a (List.mem_of_mem_take h); omega
  · simp only [afterCompleteTx1if, XskSocketInfo.submitFill_rx, drainSocket_rx] at h
    exact hs.rx 0 h0 d h
  · simp only [afterCompleteTx1if, XskSocketInfo.submitFill_tx, drainSocket_tx] at h
    exact hs.tx 0 h0 d h
  · simp only [afterCompleteTx1if, XskSocketInfo.submitFill_cq, drainSocket_cq] at h
    exact hs.cq 0 h0 a (List.mem_of_mem_drop h)
  · have := drained_le_length conf (xsks 0)
    simp only [afterCompleteTx1if, XskSocketInfo.submitFill_outstandingTx,
      XskSocketInfo.submitFill_tx, XskSocketInfo.submitFill_cq, drainSocket_outstandingTx,
      drainSocket_tx, drainSocket_cq, List.length_drop, hs.outstanding 0 h0]
    omega

/-- The rx half of `process_batch_1if` loses only what wrapped `ndrop` and `ntx` counters
drop. -/
lemma loses_afterReceive1if {cls : Classifier} (h0 : 0 < conf.numInterfaces) :
    Loses conf (∑ o in range conf.numInterfaces, (xsks o).addrs)
      (∑ o in range conf.numInterfaces,
          (Function.update xsks 0 (afterReceive conf cls (xsks 0)) o).addrs +
        ↑((forwardBucket (batchPairs conf cls (xsks 0))).contents.map PktInfo.addr)) := by
  have hx := sum_addrs_update h0 (addrs_afterReceive conf cls (xsks 0))
  have hb := buckets1if_le (batchPairs conf cls (xsks 0))
  rw [batchPairs_snd] at hb
  refine Loses.of_exchange (X := ↑(((xsks 0).rx.take (received conf (xsks 0))).map PktInfo.addr))
    (Y := ↑((dropBucket (batchPairs conf cls (xsks 0))).contents.map PktInfo.addr) +
      ↑((forwardBucket (batchPairs conf cls (xsks 0))).contents.map PktInfo.addr)) ?_ ?_ ?_
  · rw [add_right_comm, hx, add_assoc]
  · simp only [← Multiset.map_coe, ← Multiset.map_add]
    exact Multiset.map_le_map hb.1
  · intro h256
    simp only [← Multiset.map_coe, ← Multiset.map_add]
    rw [hb.2 (by rw [length_batchPairs]; exact lt_of_le_of_lt (received_le_batchSize _ _) h256)]

lemma sum_addrs_update_of_addrs {x : XskSocketInfo} (hj : j < conf.numInterfaces)
    (h : x.addrs = (xsks j).addrs) :
    ∑ o in range conf.numInterfaces, (Function.update xsks j x o).addrs =
      ∑ o in range conf.numInterfaces, (xsks o).addrs := by
  simpa using sum_addrs_update (X := 0) (Y := 0) hj (by rw [add_zero, add_zero, h])

/-- A descriptor the forwarding loop holds came from the ingress socket's rx ring. -/
lemma mem_batch_of_mem_held {cls : Classifier} {x : XskSocketInfo} {n i j : Nat} {d : PktInfo}
    (h : d ∈ Pc.held n (.fwd i j (txBuckets (batchPairs conf cls x)))) :
    d ∈ x.rx.take (received conf x) := by
  obtain ⟨k, -, hk⟩ := List.mem_flatMap.1 h
  rw [← batchPairs_snd conf cls]
  exact mem_of_mem_selectVerdict (Bucket.mem_of_mem_empty_pushAll hk)

lemma mem_rx_of_mem_held {cls : Classifier} {x : XskSocketInfo} {n i j : Nat} {d : PktInfo}
    (h : d ∈ Pc.held n (.fwd i j (txBuckets (batchPairs conf cls x)))) : d ∈ x.rx :=
  List.mem_of_mem_take (mem_batch_of_mem_held h)

lemma mem_batch_of_mem_forwardBucket {cls : Classifier} {x : XskSocketInfo} {d : PktInfo}
    (h : d ∈ (forwardBucket (batchPairs conf cls x)).contents) :
    d ∈ x.rx.take (received conf x) := by
  rw [← batchPairs_snd conf cls]
  exact mem_of_mem_selectForward (Bucket.mem_of_mem_empty_pushAll h)

lemma mem_rx_of_mem_forwardBucket {cls : Classifier} {x : XskSocketInfo} {d : PktInfo}
    (h : d ∈ (forwardBucket (batchPairs conf cls x)).contents) : d ∈ x.rx :=
  List.mem_of_mem_take (mem_batch_of_mem_forwardBucket h)

end Ops

/-! ### One step of the worker -/

/-- What one step keeps: the sockets' invariant, the worker's place, and every frame the
counters do not lose. -/
structure Kept (conf : Conf) (w w' : World) : Prop where
  sock : SockInv conf w'.xsks
  pc : PcOk conf w'.pc
  keeps : Keeps conf w w'

/-- A step that changes no ring and hands over the same descriptors keeps every frame. -/
lemma keeps_of_sameRings {xsks xsks' : Xsks} {mem mem' : Mem} {pc pc' : Pc}
    (h : ∀ o, SameRings (xsks' o) (xsks o))
    (hheld : pc'.held conf.numInterfaces = pc.held conf.numInterfaces) :
    Keeps conf ⟨xsks, mem, pc⟩ ⟨xsks', mem', pc'⟩ :=
  Keeps.of_addrs (Loses.of_eq (by simp only [worldAddrs_mk, sum_addrs_of_sameRings h, hheld]))

section WorkerStep

variable {cls : Classifier} {ready : Bool} {xsks : Xsks} {mem : Mem} {w' : World}

lemma kept_top (hpos : 0 < conf.numInterfaces) (hs : SockInv conf xsks)
    (h : workerStep conf cls ready ⟨xsks, mem, .top⟩ = .ok w') :
    Kept conf ⟨xsks, mem, .top⟩ w' := by
  have hsame : ∀ o, SameRings
      ((if conf.poll then countPolls conf.numInterfaces xsks else xsks) o) (xsks o) := fun o => by
    split
    · exact sameRings_countPolls _ _ o
    · exact .refl _
  simp only [workerStep] at h
  split at h <;> cases h
  · exact ⟨hs.of_sameRings hsame, trivial, keeps_of_sameRings hsame rfl⟩
  · refine ⟨hs.of_sameRings hsame, ?_, keeps_of_sameRings hsame (by split <;> rfl)⟩
    dsimp only
    split
    · exact ⟨‹_›, Nat.zero_le _⟩
    · show conf.numInterfaces = 1; omega

lemma kept_batch (ha : Aligned conf s) {i : Nat} (hs : SockInv conf xsks)
    (hp : PcOk conf (.batch i)) (h : workerStep conf cls ready ⟨xsks, mem, .batch i⟩ = .ok w') :
    Kept conf ⟨xsks, mem, .batch i⟩ w' := by
  obtain ⟨h1, -⟩ := hp
  simp only [workerStep] at h
  split at h
  · rename_i hi
    obtain ⟨xsks₁, hc, h⟩ := bind_eq_ok h
    cases h
    rw [(completeTx_ok hc).2]
    refine ⟨sockInv_afterCompleteTx ha hs hi, ⟨h1, hi⟩, Keeps.of_addrs ?_⟩
    simpa only [worldAddrs_mk, Pc.held, List.map_nil, Multiset.coe_nil, add_zero]
      using loses_afterCompleteTx ha hs hi
  · cases h
    exact ⟨hs, trivial, keeps_of_sameRings (fun o => .refl _) rfl⟩

lemma kept_recv {i : Nat} (hs : SockInv conf xsks) (hp : PcOk conf (.recv i))
    (h : workerStep conf cls ready ⟨xsks, mem, .recv i⟩ = .ok w') :
    Kept conf ⟨xsks, mem, .recv i⟩ w' := by
  obtain ⟨h1, hi⟩ := hp
  simp only [workerStep] at h
  obtain ⟨⟨xsks₁, mem₁, r⟩, hr, h⟩ := bind_eq_ok h
  rcases receive_ok hr with ⟨-, rfl, rfl, rfl⟩ | ⟨-, hv, rfl, rfl, rfl⟩
  · cases h
    have hsame := SameRings.update (sameRings_emptyPoll conf (xsks i))
    exact ⟨hs.of_sameRings hsame, ⟨h1, hi⟩, keeps_of_sameRings hsame rfl⟩
  · cases h
    refine ⟨sockInv_afterReceive hs hi, ⟨h1, hi, Nat.zero_le _, fun d hd =>
      hs.rx i hi d (mem_rx_of_mem_held hd)⟩, Keeps.of_addrs ?_⟩
    simpa only [worldAddrs_mk, Pc.held, List.map_nil, Multiset.coe_nil, add_zero]
      using loses_afterReceive hi hv

lemma kept_fwd {i j : Nat} {toTx : Nat → Bucket PktInfo} (hs : SockInv conf xsks)
    (hp : PcOk conf (.fwd i j toTx))
    (h : workerStep conf cls ready ⟨xsks, mem, .fwd i j toTx⟩ = .ok w') :
    Kept conf ⟨xsks, mem, .fwd i j toTx⟩ w' := by
  obtain ⟨h1, hi, -, hheld⟩ := hp
  simp only [workerStep] at h
  split at h
  · rename_i hj
    have hsplit := Pc.held_fwd_succ toTx hj i
    have hnext : ∀ d ∈ Pc.held conf.numInterfaces (.fwd i (j + 1) toTx),
        frameOwner conf d.addr = i ∧ WellFormed conf d :=
      fun d hd => hheld d (by rw [hsplit]; exact List.mem_append_right _ hd)
    split at h
    · cases h
      refine ⟨hs, ⟨h1, hi, hj, hnext⟩, keeps_of_sameRings (fun o => .refl _) ?_⟩
      rw [hsplit, Bucket.contents_eq_nil ‹_›, List.nil_append]
    · split at h
      · obtain ⟨⟨xsks₁, mem₁⟩, he, h⟩ := bind_eq_ok h
        cases h
        rw [enqueueTx_ok he]
        refine ⟨sockInv_enqueue hs hj fun d hd => ?_, ⟨h1, hi, hj, hnext⟩,
          Keeps.of_addrs (Loses.of_eq ?_)⟩
        · have := hheld d (by rw [hsplit]; exact List.mem_append_left _ hd)
          exact ⟨this.1 ▸ hi, this.2⟩
        · rw [worldAddrs_mk, worldAddrs_mk, sum_addrs_enqueue hj, hsplit, coe_map_addr_append,
            add_assoc]
      · cases h
        exact ⟨hs, ⟨h1, hi, hj, hheld⟩, keeps_of_sameRings (fun o => .refl _) rfl⟩
  · cases h
    refine ⟨hs, ⟨h1, by omega⟩, keeps_of_sameRings (fun o => .refl _) ?_⟩
    rw [Pc.held_of_ge toTx (by omega)]
    rfl

lemma kept_retry (ha : Aligned conf s) {i j : Nat} {toTx : Nat → Bucket PktInfo}
    (hs : SockInv conf xsks) (hp : PcOk conf (.retry i j toTx))
    (h : workerStep conf cls ready ⟨xsks, mem, .retry i j toTx⟩ = .ok w') :
    Kept conf ⟨xsks, mem, .retry i j toTx⟩ w' := by
  obtain ⟨h1, hi, hj, hheld⟩ := hp
  simp only [workerStep] at h
  obtain ⟨xsks₁, hc, h⟩ := bind_eq_ok h
  rw [(completeTx_ok hc).2] at h
  have hsame := SameRings.update (sameRings_wakeupKick conf (afterCompleteTx conf xsks i j))
  have hs₂ := (sockInv_afterCompleteTx ha hs hi).of_sameRings hsame
  have hl : Loses conf (worldAddrs conf.numInterfaces ⟨xsks, mem, .retry i j toTx⟩)
      (worldAddrs conf.numInterfaces ⟨Function.update (afterCompleteTx conf xsks i) j
        (wakeupKick conf (afterCompleteTx conf xsks i j)), mem, .retry i j toTx⟩) := by
    rw [worldAddrs_mk, worldAddrs_mk, sum_addrs_of_sameRings hsame]
    exact (loses_afterCompleteTx ha hs hi).add (Loses.of_eq rfl)
  split at h
  · obtain ⟨⟨xsks₃, mem₃⟩, he, h⟩ := bind_eq_ok h
    cases h
    rw [enqueueTx_ok he]
    have hsplit := Pc.held_fwd_succ toTx hj i
    refine ⟨sockInv_enqueue hs₂ hj fun d hd => ?_,
      ⟨h1, hi, hj, fun d hd => hheld d (by rw [Pc.held_retry, hsplit]; exact List.mem_append_right _ hd)⟩,
      Keeps.of_addrs (hl.trans (Loses.of_eq ?_))⟩
    · have := hheld d (by rw [Pc.held_retry, hsplit]; exact List.mem_append_left _ hd)
      exact ⟨this.1 ▸ hi, this.2⟩
    · rw [worldAddrs_mk, worldAddrs_mk, sum_addrs_enqueue hj, Pc.held_retry, hsplit,
        coe_map_addr_append, add_assoc]
  · cases h
    exact ⟨hs₂, ⟨h1, hi, hj, hheld⟩, Keeps.of_addrs hl⟩

lemma kept_batch1 (hs : SockInv conf xsks) (hp : PcOk conf .batch1)
    (h : workerStep conf cls ready ⟨xsks, mem, .batch1⟩ = .ok w') :
    Kept conf ⟨xsks, mem, .batch1⟩ w' := by
  have h0 : 0 < conf.numInterfaces := by rw [show conf.numInterfaces = 1 from hp]; exact Nat.one_pos
  simp only [workerStep] at h
  obtain ⟨xsk, hc, h⟩ := bind_eq_ok h
  cases h
  rw [completeTx1if_ok hc]
  refine ⟨sockInv_afterCompleteTx1if hs hp, hp, Keeps.of_addrs (Loses.of_eq ?_)⟩
  rw [worldAddrs_mk, worldAddrs_mk, sum_addrs_update_of_addrs h0 (addrs_afterCompleteTx1if _)]
  rfl

lemma kept_recv1 (hs : SockInv conf xsks) (hp : PcOk conf .recv1)
    (h : workerStep conf cls ready ⟨xsks, mem, .recv1⟩ = .ok w') :
    Kept conf ⟨xsks, mem, .recv1⟩ w' := by
  have h0 : 0 < conf.numInterfaces := by rw [show conf.numInterfaces = 1 from hp]; exact Nat.one_pos
  simp only [workerStep] at h
  obtain ⟨⟨xsk, mem₁, r⟩, hr, h⟩ := bind_eq_ok h
  rcases receive1if_ok hr with ⟨-, rfl, rfl, rfl⟩ | ⟨-, rfl, rfl, rfl⟩
  · cases h
    have hsame := SameRings.update (sameRings_emptyPoll conf (xsks 0))
    exact ⟨hs.of_sameRings hsame, trivial, keeps_of_sameRings hsame rfl⟩
  · cases h
    dsimp only
    refine ⟨sockInv_afterReceive hs h0, ⟨hp, fun d hd =>
      hs.rx 0 h0 d (mem_rx_of_mem_forwardBucket hd)⟩, Keeps.of_addrs ?_⟩
    simpa only [worldAddrs_mk, Pc.held, List.map_nil, Multiset.coe_nil, add_zero]
      using loses_afterReceive1if h0

lemma kept_fwd1 {toTx : Bucket PktInfo} (hs : SockInv conf xsks) (hp : PcOk conf (.fwd1 toTx))
    (h : workerStep conf cls ready ⟨xsks, mem, .fwd1 toTx⟩ = .ok w') :
    Kept conf ⟨xsks, mem, .fwd1 toTx⟩ w' := by
  obtain ⟨hn, hheld⟩ := hp
  have h0 : 0 < conf.numInterfaces := by rw [hn]; exact Nat.one_pos
  simp only [workerStep] at h
  split at h
  · cases h
    refine ⟨hs, trivial, keeps_of_sameRings (fun o => .refl _) ?_⟩
    simp only [Pc.held, Bucket.contents_eq_nil ‹_›]
  · split at h
    · cases h
      refine ⟨sockInv_enqueue hs h0 fun d hd => ⟨(hheld d hd).1 ▸ h0, (hheld d hd).2⟩, trivial,
        Keeps.of_addrs (Loses.of_eq ?_)⟩
      rw [worldAddrs_mk, worldAddrs_mk, sum_addrs_enqueue h0]
      simp [Pc.held]
    · cases h
      exact ⟨hs, ⟨hn, hheld⟩, keeps_of_sameRings (fun o => .refl _) rfl⟩

lemma kept_retry1 {toTx : Bucket PktInfo} (hs : SockInv conf xsks) (hp : PcOk conf (.retry1 toTx))
    (h : workerStep conf cls ready ⟨xsks, mem, .retry1 toTx⟩ = .ok w') :
    Kept conf ⟨xsks, mem, .retry1 toTx⟩ w' := by
  obtain ⟨hn, hheld⟩ := hp
  have h0 : 0 < conf.numInterfaces := by rw [hn]; exact Nat.one_pos
  simp only [workerStep] at h
  obtain ⟨xsk, hc, h⟩ := bind_eq_ok h
  rw [completeTx1if_ok hc] at h
  set ys := Function.update xsks 0 (afterCompleteTx1if conf (xsks 0)) with hys
  set zs := Function.update xsks 0 (wakeupKick conf (afterCompleteTx1if conf (xsks 0))) with hzs
  have hsame : ∀ o, SameRings (zs o) (ys o) := by
    have := @SameRings.update (wakeupKick conf (afterCompleteTx1if conf (xsks 0))) ys 0
      (by rw [hys, Function.update_same]; exact sameRings_wakeupKick _ _)
    simpa only [hys, hzs, Function.update_idem] using this
  have hzs_sum : ∑ o in range conf.numInterfaces, (zs o).addrs =
      ∑ o in range conf.numInterfaces, (xsks o).addrs := by
    rw [sum_addrs_of_sameRings hsame, hys,
      sum_addrs_update_of_addrs h0 (addrs_afterCompleteTx1if _)]
  have hs₂ := (sockInv_afterCompleteTx1if hs hn).of_sameRings hsame
  split at h
  · cases h
    have hz : Function.update xsks 0 ((wakeupKick conf (afterCompleteTx1if conf (xsks 0))).submitTx
        toTx.contents toTx.count.toNat) =
        Function.update zs 0 ((zs 0).submitTx toTx.contents toTx.count.toNat) := by
      simp only [hzs, Function.update_idem, Function.update_same]
    rw [hz]
    refine ⟨sockInv_enqueue hs₂ h0 fun d hd => ⟨(hheld d hd).1 ▸ h0, (hheld d hd).2⟩, trivial,
      Keeps.of_addrs (Loses.of_eq ?_)⟩
    rw [worldAddrs_mk, worldAddrs_mk, sum_addrs_enqueue h0, hzs_sum]
    simp [Pc.held]
  · cases h
    exact ⟨hs₂, ⟨hn, hheld⟩, Keeps.of_addrs (Loses.of_eq (by
      rw [worldAddrs_mk, worldAddrs_mk, hzs_sum]))⟩

end WorkerStep

/-! ### One step of the kernel -/

/-- A step that changes one socket's addresses but none of their frames keeps every frame. -/
lemma keeps_of_frames {xsks : Xsks} {x : XskSocketInfo} {j : Nat} {mem mem' : Mem} {pc : Pc}
    (h : x.addrs.map (· / conf.xskFrameSize) = (xsks j).addrs.map (· / conf.xskFrameSize)) :
    Keeps conf ⟨xsks, mem, pc⟩ ⟨Function.update xsks j x, mem', pc⟩ := by
  refine Loses.of_eq ?_
  simp only [frames, worldAddrs_mk, Multiset.map_add, map_finset_sum]
  congr 1
  refine Finset.sum_congr rfl fun o _ => ?_
  by_cases hoj : o = j
  · subst hoj; rw [Function.update_same, h]
  · rw [Function.update_noteq hoj]

section KernelStep

variable (ha : Aligned conf s) {w : World} {s' a : Nat} {rest : List Nat} {off len : Nat}
include ha

/-- The driver's rx: the frame at the head of the fill ring moves to the rx ring, as a
packet inside it. -/
lemma kept_kernel_rx (hs : SockInv conf w.xsks) (hp : PcOk conf w.pc) (hs' : s' < conf.numInterfaces)
    (hfq : (w.xsks s').fq = a :: rest) (hlen : 0 < len) (hoff : off + len ≤ conf.xskFrameSize)
    (bytes : List UInt8) :
    Kept conf w { w with
      xsks := Function.update w.xsks s' { w.xsks s' with
        fq := rest
        rx := (w.xsks s').rx ++
          [⟨rxHandle conf.unalignedChunks (fillChunk conf.unalignedChunks conf.xskFrameSize a) off,
            len⟩] }
      mem := writeBytes w.mem (w.xsks s').buffer
        (fillChunk conf.unalignedChunks conf.xskFrameSize a + off) bytes } := by
  have hoff' : off < conf.xskFrameSize := by omega
  have hdiv := ha.rxHandle_div (a := a) hoff'
  have howner : frameOwner conf a = s' := hs.fq s' hs' a (by rw [hfq]; exact List.mem_cons_self _ _)
  refine ⟨sockInv_update hs hs' (fun b hb => hs.fq s' hs' b (by rw [hfq]; exact List.mem_cons_of_mem _ hb))
    (fun d hd => ?_) (hs.tx s' hs') (hs.cq s' hs') (hs.outstanding s' hs'), hp, ?_⟩
  · rcases List.mem_append.1 hd with hd | hd
    · exact hs.rx s' hs' d hd
    · rw [List.mem_singleton] at hd
      subst hd
      exact ⟨by rw [frameOwner, hdiv]; exact howner,
        hlen, by rw [ha.rxHandle_mod hoff']; exact hoff⟩
  · obtain ⟨xsks, mem, pc⟩ := w
    refine keeps_of_frames ?_
    dsimp only at hfq
    simp only [XskSocketInfo.addrs, hfq, Multiset.map_add, Multiset.map_coe, List.map_append,
      List.map_cons, List.map_nil, hdiv, ← Multiset.coe_add, Multiset.coe_singleton,
      ← Multiset.cons_coe, ← Multiset.cons_zero, Multiset.add_cons, Multiset.cons_add, add_zero,
      Multiset.coe_nil, Multiset.map_cons]


omit ha in
/-- The kernel's tx: the head of the tx ring is sent and its address completes. -/
lemma kept_kernel_tx {d : PktInfo} {rest : List PktInfo} (hs : SockInv conf w.xsks)
    (hp : PcOk conf w.pc) (hs' : s' < conf.numInterfaces) (htx : (w.xsks s').tx = d :: rest) :
    Kept conf w { w with
      xsks := Function.update w.xsks s' { w.xsks s' with
        tx := rest
        cq := (w.xsks s').cq ++ [d.addr] } } := by
  have hd := hs.tx s' hs' d (by rw [htx]; exact List.mem_cons_self _ _)
  refine ⟨sockInv_update hs hs' (hs.fq s' hs') (hs.rx s' hs')
    (fun e he => hs.tx s' hs' e (by rw [htx]; exact List.mem_cons_of_mem _ he))
    (fun b hb => ?_) ?_, hp, ?_⟩
  · rcases List.mem_append.1 hb with hb | hb
    · exact hs.cq s' hs' b hb
    · rw [List.mem_singleton] at hb; subst hb; exact hd.1
  · have := hs.outstanding s' hs'
    show (w.xsks s').outstandingTx = rest.length + ((w.xsks s').cq ++ [d.addr]).length
    rw [List.length_append, List.length_singleton, this, htx, List.length_cons]
    omega
  · obtain ⟨xsks, mem, pc⟩ := w
    refine Keeps.of_addrs (Loses.of_eq ?_)
    dsimp only at htx
    rw [worldAddrs_mk, worldAddrs_mk, sum_addrs_update_of_addrs hs' ?_]
    simp only [XskSocketInfo.addrs, htx, List.map_cons, List.map_append, List.map_nil,
      ← Multiset.coe_add, Multiset.coe_singleton, ← Multiset.cons_coe, ← Multiset.cons_zero,
      Multiset.add_cons, Multiset.cons_add, add_zero, Multiset.coe_nil]

end KernelStep

/-- Every step of the kernel keeps the invariant and every frame. -/
theorem kept_kernelStep {s : Nat} (ha : Aligned conf s) {w w' : World} (hinv : Inv conf w)
    (h : KernelStep conf w w') : Kept conf w w' := by
  cases h with
  | rx s' a rest off len bytes hs' hfq _ hlen hoff _ _ =>
    exact kept_kernel_rx ha hinv.sock hinv.pc hs' hfq hlen hoff bytes
  | tx s' d rest hs' htx _ => exact kept_kernel_tx hinv.sock hinv.pc hs' htx
  | wakeup s' t f =>
    obtain ⟨xsks, mem, pc⟩ := w
    have hsame := @SameRings.update { xsks s' with txNeedsWakeup := t, fqNeedsWakeup := f } xsks s'
      ⟨rfl, rfl, rfl, rfl, rfl, rfl⟩
    exact ⟨hinv.sock.of_sameRings hsame, hinv.pc, keeps_of_sameRings hsame rfl⟩

/-- Every step of the worker keeps the invariant and every frame the counters do not lose. -/
theorem kept_workerStep {s : Nat} (ha : Aligned conf s) {cls : Classifier} {ready : Bool}
    {w w' : World} (hinv : Inv conf w) (h : workerStep conf cls ready w = .ok w') :
    Kept conf w w' := by
  obtain ⟨xsks, mem, pc⟩ := w
  have hs := hinv.sock
  have hp := hinv.pc
  cases pc with
  | top => exact kept_top ha.pos hs h
  | batch i => exact kept_batch ha hs hp h
  | recv i => exact kept_recv hs hp h
  | fwd i j toTx => exact kept_fwd hs hp h
  | retry i j toTx => exact kept_retry ha hs hp h
  | batch1 => exact kept_batch1 hs hp h
  | recv1 => exact kept_recv1 hs hp h
  | fwd1 toTx => exact kept_fwd1 hs hp h
  | retry1 toTx => exact kept_retry1 hs hp h

theorem inv_step {s : Nat} (ha : Aligned conf s) {w w' : World} (hinv : Inv conf w)
    (h : Step conf w w') : Inv conf w' ∧ Keeps conf w w' := by
  have k : Kept conf w w' := by
    cases h with
    | worker cls ready h => exact kept_workerStep ha hinv h
    | kernel h => exact kept_kernelStep ha hinv h
  exact ⟨⟨k.keeps.le.trans hinv.frames_le, k.sock, k.pc⟩, k.keeps⟩

/-! ### Whole runs -/

lemma sockInv_init {s : Nat} (ha : Aligned conf s) (bindFlags : Nat → Nat) :
    SockInv conf (initXsks conf bindFlags) where
  fq i hi a h := by
    simp only [initXsks, if_pos hi, List.mem_map, List.mem_range] at h
    obtain ⟨k, hk, rfl⟩ := h
    rw [frameOwner, ha.primedAddr_div hi hk, Nat.mul_comm,
      Nat.mul_add_div (show 0 < framesPerSocket by decide), Nat.div_eq_of_lt hk, Nat.add_zero]
  rx _ _ _ h := by simp [initXsks] at h
  tx _ _ _ h := by simp [initXsks] at h
  cq _ _ _ h := by simp [initXsks] at h
  outstanding _ _ := rfl

theorem inv_init {s : Nat} (ha : Aligned conf s) (bindFlags : Nat → Nat) :
    Inv conf (initWorld conf bindFlags) :=
  ⟨(init_frames ha bindFlags).le, sockInv_init ha bindFlags, trivial⟩

/-- In aligned mode every reachable world keeps the invariant, and holds every primed frame
exactly once while the batch size stays below the wrap of the `uint8_t` counters. -/
theorem inv_reachable {s : Nat} (ha : Aligned conf s) {bindFlags : Nat → Nat} {w : World}
    (h : Reachable conf bindFlags w) :
    Inv conf w ∧ (conf.batchSize < 256 → frames conf w = primedFrames conf) := by
  induction h with
  | refl => exact ⟨inv_init ha bindFlags, fun _ => init_frames ha bindFlags⟩
  | tail _ hstep ih =>
    obtain ⟨hinv, hkeeps⟩ := inv_step ha ih.1 hstep
    exact ⟨hinv, fun hb => (hkeeps.eq hb).trans (ih.2 hb)⟩

/-- Frame conservation over whole runs, in aligned mode and below the wrap of the
`uint8_t` counters: every reachable world holds each primed frame exactly once, on a ring
or in the worker's hands; fill and rx rings hold only their own socket's frames, every
descriptor lies inside its frame, and `outstanding_tx` counts the tx and completion rings. -/
theorem frames_conserved {conf : Conf} {s : Nat} {bindFlags : Nat → Nat} {w : World}
    (ha : Aligned conf s) (hb : conf.batchSize < 256) (hw : Reachable conf bindFlags w) :
    frames conf w = primedFrames conf ∧ SockInv conf w.xsks ∧ PcOk conf w.pc :=
  ⟨(inv_reachable ha hw).2 hb, (inv_reachable ha hw).1.sock, (inv_reachable ha hw).1.pc⟩

/-- Two interfaces with 4096-byte frames in aligned mode, batches of 64. -/
def twoPortConf : Conf :=
  { numInterfaces := 2, batchSize := 64, poll := false, busyPoll := false,
    xskFrameSize := 4096, unalignedChunks := false }

/-- One interface with 4096-byte chunks and `--unaligned`, which `xsknf_init` accepts. -/
def unalignedConf : Conf :=
  { numInterfaces := 1, batchSize := 64, poll := false, busyPoll := false,
    xskFrameSize := 4096, unalignedChunks := true }

/-- A classifier that drops every packet. -/
def dropAll : Classifier := fun _ => (-1, [])

/-- A classifier that forwards every packet to interface `j`. -/
def forwardTo (j : Int) : Classifier := fun _ => (j, [])

/-- Socket `0`'s primed fill ring of 4096-byte frames without its head, frame `0`. -/
def fq0Rest : List Nat :=
  (List.range 4095).map fun k => primedAddr (0 * framesPerSocket) (k + 1) 4096

lemma initXsks_fq_zero {conf : Conf} (hn : 0 < conf.numInterfaces) (hfs : conf.xskFrameSize = 4096)
    (bindFlags : Nat → Nat) :
    (initXsks conf bindFlags 0).fq = primedAddr (0 * framesPerSocket) 0 4096 :: fq0Rest := by
  rw [initXsks, if_pos hn, hfs, show framesPerSocket = 4095 + 1 from rfl, List.range_succ_eq_map]
  simp [fq0Rest]

/-- A run of `unalignedConf` after the driver has written one byte at data offset `off` of
frame `0` and the worker, with nothing to complete, has entered `process_batch_1if`'s rx
half. -/
def unalignedRecv (off : Nat) : World :=
  { xsks := Function.update (initXsks unalignedConf fun _ => 0) 0
      { initXsks unalignedConf (fun _ => 0) 0 with
        fq := fq0Rest
        rx := [⟨rxHandle true 0 off, 1⟩] }
    mem := writeBytes (fun _ _ => 0) 0 (fillChunk true 4096 0 + off) [0]
    pc := .recv1 }

lemma reachable_unalignedRecv (off : Nat) (hoff : off < 4096) :
    Reachable unalignedConf (fun _ => 0) (unalignedRecv off) := by
  set w₀ := initWorld unalignedConf fun _ => 0
  have k₁ := @KernelStep.rx unalignedConf w₀ 0 _ fq0Rest off 1 [0] (by decide)
    (initXsks_fq_zero (by decide) rfl _)
    (by decide) (by decide) hoff rfl (by decide)
  set w₁ := { w₀ with
      xsks := Function.update w₀.xsks 0 { w₀.xsks 0 with
        fq := fq0Rest
        rx := (w₀.xsks 0).rx ++
          [PktInfo.mk (rxHandle unalignedConf.unalignedChunks (fillChunk
            unalignedConf.unalignedChunks unalignedConf.xskFrameSize
            (primedAddr (0 * framesPerSocket) 0 4096)) off) 1] }
      mem := writeBytes w₀.mem (w₀.xsks 0).buffer
        (fillChunk unalignedConf.unalignedChunks unalignedConf.xskFrameSize
          (primedAddr (0 * framesPerSocket) 0 4096) + off) [0] }
  have k₂ : workerStep unalignedConf dropAll true w₁ = .ok { w₁ with pc := .batch1 } := rfl
  have k₃ : workerStep unalignedConf dropAll true { w₁ with pc := .batch1 } =
      .ok { w₁ with xsks := Function.update w₁.xsks 0 (w₁.xsks 0), pc := .recv1 } := rfl
  have h : Reachable unalignedConf (fun _ => 0)
      { w₁ with xsks := Function.update w₁.xsks 0 (w₁.xsks 0), pc := .recv1 } :=
    ((Relation.ReflTransGen.refl.tail (.kernel k₁)).tail (.worker _ _ k₂)).tail (.worker _ _ k₃)
  rwa [Function.update_eq_self] at h

/-- With `--unaligned` the kernel reports a packet at data offset 256 of frame 0 as
`0 + (256 << 48)`; dropping it puts that handle on the fill ring, where the kernel reads
chunk 256: frame 0 is gone and a chunk straddling frames 0 and 1 takes its place. -/
theorem frames_lost_unaligned :
    ∃ w, Reachable unalignedConf (fun _ => 0) w ∧ 2 ^ 56 ∈ (w.xsks 0).fq ∧
      fillChunk true 4096 (2 ^ 56) = 256 ∧ frames unalignedConf w ≠ primedFrames unalignedConf := by
  set w₃ := unalignedRecv 256
  have hx : w₃.xsks 0 = { initXsks unalignedConf (fun _ => 0) 0 with
      fq := fq0Rest, rx := [PktInfo.mk (2 ^ 56) 1] } := rfl
  have hdrop : (dropBucket (batchPairs unalignedConf dropAll (w₃.xsks 0))).contents =
      [PktInfo.mk (2 ^ 56) 1] := by rw [hx]; rfl
  set w₄ : World :=
    { xsks := Function.update w₃.xsks 0 (afterReceive unalignedConf dropAll (w₃.xsks 0))
      mem := classifyWrites dropAll (w₃.xsks 0).buffer w₃.mem
        ((w₃.xsks 0).rx.take (received unalignedConf (w₃.xsks 0)))
      pc := .fwd1 (forwardBucket (batchPairs unalignedConf dropAll (w₃.xsks 0))) }
  have k₄ : workerStep unalignedConf dropAll true w₃ = .ok w₄ := by
    have hr : 0 < received unalignedConf (w₃.xsks 0) := by rw [hx]; decide
    have hroom : (w₃.xsks 0).fq.length +
        (dropBucket (batchPairs unalignedConf dropAll (w₃.xsks 0))).count.toNat ≤ fillSize := by
      rw [← Bucket.length_contents, hdrop, hx]
      simp [fq0Rest, fillSize, xskRingProdDefaultNumDescs]
    exact workerStep_recv1 rfl (receive1if_eq hr (.inr hroom))
  have hmem : 2 ^ 56 ∈ (w₄.xsks 0).fq := by
    show 2 ^ 56 ∈ (Function.update w₃.xsks 0 (afterReceive unalignedConf dropAll (w₃.xsks 0))
      0).fq
    rw [Function.update_same, afterReceive_fq, hdrop]
    exact List.mem_append_right _ (List.mem_singleton_self _)
  refine ⟨w₄, (reachable_unalignedRecv 256 (by decide)).tail (.worker _ _ k₄), hmem, by decide,
    fun h => ?_⟩
  have hin := @mem_frames_of_mem_fq unalignedConf w₄ 0 _ (by decide) hmem
  rw [h, primedFrames, Multiset.mem_range] at hin
  exact absurd hin (by decide)

end Xsknf
