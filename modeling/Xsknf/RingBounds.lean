import Xsknf.RetryLoop

/-!
# The rings stay within their sizes

The model keeps each ring as the list of its entries, with no bound of its own.  The code never
puts more entries on a ring than the ring holds.  The worker adds to the fill and tx rings only
the slots that `xsk_ring_prod__reserve` granted: `complete_tx`, `complete_tx_1if` and the rx
half of `process_batch` end in `exit_with_error` on a short fill reservation, and the
forwarding loops retry a short tx reservation.  The kernel publishes on the rx and completion
rings only into a free slot.  So every ring of every socket stays within its size along every
run, in every mode (`rings_within_sizes`), and the jam of the retry loop fills socket `1`'s tx
and completion rings to the brim.
-/

namespace Xsknf

/-- A socket whose four rings hold no more entries than their sizes. -/
structure Bounded (x : XskSocketInfo) : Prop where
  fq : x.fq.length ≤ fillSize
  rx : x.rx.length ≤ rxSize
  tx : x.tx.length ≤ txSize
  cq : x.cq.length ≤ compSize

/-- A reservation that grants the `nb` slots it asks for leaves the ring within its size. -/
lemma reserve_le {α : Type} {size nb : Nat} {ring : List α} (h : reserve size ring nb = nb)
    (hl : ring.length ≤ size) : ring.length + nb ≤ size := by
  unfold reserve at h
  split at h <;> omega

section Socket

variable {x y : XskSocketInfo}

lemma Bounded.of_rings (h : Bounded x) (hfq : y.fq = x.fq) (hrx : y.rx = x.rx) (htx : y.tx = x.tx)
    (hcq : y.cq = x.cq) : Bounded y :=
  ⟨hfq ▸ h.fq, hrx ▸ h.rx, htx ▸ h.tx, hcq ▸ h.cq⟩

lemma Bounded.of_sameRings (h : Bounded x) (hs : SameRings y x) : Bounded y :=
  h.of_rings hs.fq hs.rx hs.tx hs.cq

lemma Bounded.update {xsks : Xsks} (h : ∀ o, Bounded (xsks o)) {j : Nat} (hx : Bounded x) :
    ∀ o, Bounded (Function.update xsks j x o) := fun o => by
  by_cases ho : o = j
  · subst ho; rwa [Function.update_same]
  · rw [Function.update_noteq ho]; exact h o

lemma Bounded.kickTrigger (h : Bounded x) (conf : Conf) : Bounded (kickTrigger conf x) :=
  h.of_rings rfl rfl rfl rfl

lemma Bounded.releaseRx (h : Bounded x) (n : Nat) : Bounded (x.releaseRx n) :=
  ⟨h.fq, by rw [XskSocketInfo.releaseRx_rx, List.length_drop]; exact (Nat.sub_le _ _).trans h.rx,
    h.tx, h.cq⟩

lemma Bounded.releaseCq (h : Bounded x) (n : Nat) : Bounded (x.releaseCq n) :=
  ⟨h.fq, h.rx, h.tx,
    by rw [XskSocketInfo.releaseCq_cq, List.length_drop]; exact (Nat.sub_le _ _).trans h.cq⟩

/-- Entries added to the fill ring after a reservation that granted room for them. -/
lemma Bounded.submitFill (h : Bounded x) {addrs : List Nat} {n : Nat}
    (hr : reserve fillSize x.fq n = n) (hn : addrs.length ≤ n) : Bounded (x.submitFill addrs) := by
  have := reserve_le hr h.fq
  exact ⟨by rw [XskSocketInfo.submitFill_fq, List.length_append]; omega, h.rx, h.tx, h.cq⟩

/-- A bucket submitted on the tx ring after a reservation that granted room for it. -/
lemma Bounded.submitTx (h : Bounded x) {b : Bucket PktInfo} (hr : txReserved x b = true) :
    Bounded (x.submitTx b.contents b.count.toNat) := by
  have htx : (x.submitTx b.contents b.count.toNat).tx.length ≤ txSize := by
    rw [XskSocketInfo.submitTx_tx, List.length_append, Bucket.length_contents]
    exact reserve_le (of_decide_eq_true hr) h.tx
  exact ⟨h.fq, h.rx, htx, h.cq⟩

end Socket

/-! ### The phases of the worker -/

section Phases

variable {conf : Conf} {x x' : XskSocketInfo} {xsks xsks' : Xsks}

lemma fillOwners_bounded {toFill : Nat → Bucket Nat} : ∀ {is : List Nat} {xsks xsks' : Xsks},
    fillOwners toFill is xsks = .ok xsks' → (∀ o, Bounded (xsks o)) → ∀ o, Bounded (xsks' o)
  | [], _, _, he, h => by cases he; exact h
  | i :: is, xsks, xsks', he, h => by
    unfold fillOwners at he
    split at he
    · exact fillOwners_bounded he h
    · dsimp only at he
      split at he
      · cases he
      · exact fillOwners_bounded he
          (Bounded.update h ((h i).submitFill (not_not.1 ‹_›) (Bucket.length_contents _).le))

lemma completeTx_bounded {i : Nat} (h : ∀ o, Bounded (xsks o))
    (he : completeTx conf xsks i = .ok xsks') : ∀ o, Bounded (xsks' o) := by
  unfold completeTx at he
  split at he
  · cases he; exact h
  dsimp only at he
  split at he
  · cases he
    exact Bounded.update h ((h i).kickTrigger conf)
  · obtain ⟨toFill, -, he⟩ := bind_eq_ok he
    obtain ⟨xs, hf, he⟩ := bind_eq_ok he
    cases he
    have hxs := fillOwners_bounded hf (Bounded.update h (((h i).kickTrigger conf).releaseCq _))
    exact Bounded.update hxs ((hxs i).of_rings rfl rfl rfl rfl)

lemma recycleDrops_bounded {b : Bucket PktInfo} (h : Bounded x) (he : recycleDrops x b = .ok x') :
    Bounded x' := by
  unfold recycleDrops at he
  split at he
  · cases he; exact h
  dsimp only at he
  split at he
  · cases he
  · cases he
    exact h.submitFill (not_not.1 ‹_›) ((List.length_map _ _).trans (Bucket.length_contents _)).le

lemma receive_bounded {cls : Classifier} {mem mem' : Mem} {i : Nat}
    {r : Option (Nat → Bucket PktInfo)} (h : ∀ o, Bounded (xsks o))
    (he : receive conf cls xsks mem i = .ok (xsks', mem', r)) : ∀ o, Bounded (xsks' o) := by
  unfold receive at he
  dsimp only at he
  split at he
  · cases he
    exact Bounded.update h ((h i).of_sameRings (sameRings_emptyPoll conf _))
  · obtain ⟨⟨toDrop, toTx⟩, -, he⟩ := bind_eq_ok he
    obtain ⟨rxXsk, hr, he⟩ := bind_eq_ok he
    cases he
    exact Bounded.update h (recycleDrops_bounded ((h i).releaseRx _) hr)

lemma completeTx1if_bounded (h : Bounded x) (he : completeTx1if conf x = .ok x') : Bounded x' := by
  unfold completeTx1if at he
  split at he
  · cases he; exact h
  dsimp only at he
  split at he
  · cases he; exact h.kickTrigger conf
  split at he
  · cases he
  · cases he
    exact (((h.kickTrigger conf).submitFill (not_not.1 ‹_›)
      (List.length_take_le _ _)).releaseCq _).of_rings rfl rfl rfl rfl

lemma receive1if_bounded {cls : Classifier} {mem mem' : Mem} {r : Option (Bucket PktInfo)}
    (h : Bounded x) (he : receive1if conf cls x mem = .ok (x', mem', r)) : Bounded x' := by
  unfold receive1if at he
  dsimp only at he
  split at he
  · cases he
    exact h.of_sameRings (sameRings_emptyPoll conf x)
  · rw [foldl_classifyStep1if_batch] at he
    obtain ⟨x₁, hr, he⟩ := bind_eq_ok he
    cases he
    exact recycleDrops_bounded (h.releaseRx _) hr

end Phases

/-! ### Steps and runs -/

section Steps

variable {conf : Conf} {w w' : World}

/-- A step of the worker keeps every ring within its size: it takes from the rx and completion
rings, and adds to the fill and tx rings what it reserved room for. -/
lemma workerStep_bounded {cls : Classifier} {ready : Bool} (h : ∀ o, Bounded (w.xsks o))
    (he : workerStep conf cls ready w = .ok w') : ∀ o, Bounded (w'.xsks o) := by
  obtain ⟨xsks, mem, pc⟩ := w
  cases pc with
  | top =>
    simp only [workerStep] at he
    have hp : ∀ o, Bounded ((if conf.poll then countPolls conf.numInterfaces xsks else xsks) o) := by
      split
      · exact fun o => (h o).of_sameRings (sameRings_countPolls _ _ o)
      · exact h
    split at he <;> cases he <;> exact hp
  | batch i =>
    simp only [workerStep] at he
    split at he
    · obtain ⟨xs, hc, he⟩ := bind_eq_ok he
      cases he; exact completeTx_bounded h hc
    · cases he; exact h
  | recv i =>
    simp only [workerStep] at he
    obtain ⟨⟨xs, m, b⟩, hr, he⟩ := bind_eq_ok he
    have hxs := receive_bounded h hr
    cases b <;> cases he <;> exact hxs
  | fwd i j t =>
    simp only [workerStep] at he
    split at he
    · split at he
      · cases he; exact h
      split at he
      · obtain ⟨⟨xs, m⟩, hq, he⟩ := bind_eq_ok he
        cases he
        rw [enqueueTx_ok hq]
        exact Bounded.update h ((h j).submitTx ‹_›)
      · cases he; exact h
    · cases he; exact h
  | retry i j t =>
    simp only [workerStep] at he
    obtain ⟨xs, hc, he⟩ := bind_eq_ok he
    have hxs := completeTx_bounded h hc
    have hk := (hxs j).of_sameRings (sameRings_wakeupKick conf (xs j))
    simp only [Function.update_same] at he
    split at he
    · obtain ⟨⟨xs', m⟩, hq, he⟩ := bind_eq_ok he
      cases he
      rw [enqueueTx_ok hq, Function.update_same, Function.update_idem]
      exact Bounded.update hxs (hk.submitTx ‹_›)
    · cases he; exact Bounded.update hxs hk
  | batch1 =>
    simp only [workerStep] at he
    obtain ⟨x, hc, he⟩ := bind_eq_ok he
    cases he
    exact Bounded.update h (completeTx1if_bounded (h 0) hc)
  | recv1 =>
    simp only [workerStep] at he
    obtain ⟨⟨x, m, b⟩, hr, he⟩ := bind_eq_ok he
    have hx : ∀ o, Bounded (Function.update xsks 0 x o) :=
      Bounded.update h (receive1if_bounded (h 0) hr)
    cases b <;> cases he <;> exact hx
  | fwd1 b =>
    simp only [workerStep] at he
    split_ifs at he
    · cases he; exact h
    · cases he; exact Bounded.update h ((h 0).submitTx ‹_›)
    · cases he; exact h
  | retry1 b =>
    simp only [workerStep] at he
    obtain ⟨x, hc, he⟩ := bind_eq_ok he
    have hk := (completeTx1if_bounded (h 0) hc).of_sameRings (sameRings_wakeupKick conf x)
    split at he
    · cases he; exact Bounded.update h (hk.submitTx ‹_›)
    · cases he; exact Bounded.update h hk

/-- A step of the kernel keeps every ring within its size: it takes from the fill and tx
rings, and publishes on the rx and completion rings into a free slot. -/
lemma KernelStep.bounded (hk : KernelStep conf w w') (h : ∀ o, Bounded (w.xsks o)) :
    ∀ o, Bounded (w'.xsks o) := by
  cases hk with
  | rx s a rest _ _ _ _ hfq hrx =>
    have := (h s).fq
    rw [hfq, List.length_cons] at this
    refine Bounded.update h ⟨by dsimp only; omega, ?_, (h s).tx, (h s).cq⟩
    show ((w.xsks s).rx ++ _).length ≤ rxSize
    rw [List.length_append, List.length_singleton]
    omega
  | tx s d rest _ htx hcq =>
    have := (h s).tx
    rw [htx, List.length_cons] at this
    refine Bounded.update h ⟨(h s).fq, (h s).rx, by dsimp only; omega, ?_⟩
    show ((w.xsks s).cq ++ _).length ≤ compSize
    rw [List.length_append, List.length_singleton]
    omega
  | wakeup s => exact Bounded.update h ((h s).of_rings rfl rfl rfl rfl)

lemma bounded_init (conf : Conf) (bindFlags : Nat → Nat) (o : Nat) :
    Bounded (initXsks conf bindFlags o) := by
  refine ⟨?_, Nat.zero_le _, Nat.zero_le _, Nat.zero_le _⟩
  show (if o < conf.numInterfaces then _ else []).length ≤ fillSize
  split
  · rw [List.length_map, List.length_range]; rfl
  · exact Nat.zero_le _

lemma bounded_reachable {bindFlags : Nat → Nat} (hw : Reachable conf bindFlags w) :
    ∀ o, Bounded (w.xsks o) := by
  induction hw with
  | refl => exact bounded_init conf bindFlags
  | tail _ hs ih =>
    cases hs with
    | worker cls ready he => exact workerStep_bounded ih he
    | kernel hk => exact hk.bounded ih

end Steps

/-- In every mode, along every run of the worker and the kernel, every ring of every socket
holds no more entries than its size: the fill ring `fill_size`, the rx and tx rings their
`XSK_RING_CONS__DEFAULT_NUM_DESCS` and `XSK_RING_PROD__DEFAULT_NUM_DESCS`, the completion ring
`comp_size`. -/
theorem rings_within_sizes {conf : Conf} {bindFlags : Nat → Nat} {w : World}
    (hw : Reachable conf bindFlags w) (o : Nat) :
    (w.xsks o).fq.length ≤ fillSize ∧ (w.xsks o).rx.length ≤ rxSize ∧
      (w.xsks o).tx.length ≤ txSize ∧ (w.xsks o).cq.length ≤ compSize :=
  have h := bounded_reachable hw o
  ⟨h.fq, h.rx, h.tx, h.cq⟩

/-- The jam of the retry loop fills socket `1`'s tx and completion rings to their sizes. -/
theorem rings_within_sizes_jammed : ∃ w, Reachable twoPortConf (fun _ => 0) w ∧
    (w.xsks 1).tx.length = txSize ∧ (w.xsks 1).cq.length = compSize ∧
    ((w.xsks 1).fq.length ≤ fillSize ∧ (w.xsks 1).rx.length ≤ rxSize ∧
      (w.xsks 1).tx.length ≤ txSize ∧ (w.xsks 1).cq.length ≤ compSize) := by
  obtain ⟨w, -, hw, -, htx, hcq⟩ := sched_jam
  exact ⟨w, hw, htx, hcq, rings_within_sizes hw 1⟩

end Xsknf
