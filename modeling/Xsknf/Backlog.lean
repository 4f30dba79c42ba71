import Xsknf.RetryLoop

/-!
# Waiting on another socket's tx ring

`process_batch(xsks, i)` retries the reservation of `ntx[j]` slots on socket `j`'s tx ring until
it succeeds, calling `complete_tx(xsks, i)` and kicking `j` on each turn.  For `j ≠ i` nothing
in the loop drains `j`'s completion ring, so the kernel sends from `j` only into the free slots
of that ring: the descriptors of `j`'s tx ring beyond them stay where they are (`stranded`), and
a send of the kernel keeps their number (`KernelStep.stranded_eq`).

A turn of the forwarding loop at `j`, or of its retry loop, touches the tx and completion rings
of `i` and `j` only (`Turn`).  The loop can be left exactly when the bucket fits on the tx ring
beside the stranded descriptors (`retry_leaves_iff`).  When it fits, the kernel sends from `j`
until the reservation succeeds (`leaves_of_fits`); when it does not, the worker is `Blocked`:
no step changes the worker's place or the number, and no run ever leaves the loop
(`Blocked.run`).  A full completion ring (`Jammed`) is the case with no free slot at all.
-/

namespace Xsknf

/-- The descriptors of a tx ring that the kernel cannot send before the socket's completion ring
is drained: those beyond the free slots of the completion ring. -/
def stranded (x : XskSocketInfo) : Nat := x.tx.length - (compSize - x.cq.length)

/-- A reservation succeeds when the bucket fits, whatever its size. -/
lemma txReserved_of_le {x : XskSocketInfo} {b : Bucket PktInfo}
    (h : x.tx.length + b.count.toNat ≤ txSize) : txReserved x b = true := by
  simp [txReserved, reserve, show b.count.toNat ≤ txSize - x.tx.length by omega]

section Steps

variable {conf : Conf} {cls : Classifier} {ready : Bool} {w w' : World} {i j : Nat}
  {t : Nat → Bucket PktInfo}

/-- The kernel keeps the worker's place and the stranded descriptors of every socket: a send
moves one descriptor from the tx ring into a free slot of the completion ring. -/
lemma KernelStep.stranded_eq (hk : KernelStep conf w w') (j : Nat) :
    w'.pc = w.pc ∧ stranded (w'.xsks j) = stranded (w.xsks j) := by
  cases hk with
  | rx s => exact ⟨rfl, update_field stranded (by rfl) j⟩
  | tx s d rest _ htx hcq =>
    refine ⟨rfl, ?_⟩
    by_cases hj : j = s
    · subst hj
      simp only [Function.update_same, stranded, htx, List.length_cons, List.length_append,
        List.length_singleton, List.length_nil]
      omega
    · simp only [Function.update_noteq hj]
  | wakeup s => exact ⟨rfl, update_field stranded (by rfl) j⟩

/-- Two sockets with the same tx and completion rings strand as many descriptors. -/
lemma stranded_congr {x y : XskSocketInfo} (htx : x.tx = y.tx) (hcq : x.cq = y.cq) :
    stranded x = stranded y := by
  rw [stranded, stranded, htx, hcq]

/-- What a turn at `j` of the forwarding loop of `process_batch(xsks, i)`, or of its retry loop,
does to the rings: it moves on to `j + 1`, after a reservation on `j` that succeeded unless the
bucket was empty, or it waits in the retry loop with `j`'s rings as they were, unless `j = i`.
The sockets other than `i` and `j` keep their tx and completion rings. -/
structure Turn (w w' : World) (i j : Nat) (t : Nat → Bucket PktInfo) : Prop where
  frame : ∀ k, k ≠ i → k ≠ j → stranded (w'.xsks k) = stranded (w.xsks k)
  next : w'.pc = .fwd i (j + 1) t ∧ ((t j).count.toNat = 0 ∨ txReserved (w.xsks j) (t j) = true) ∨
    w'.pc = .retry i j t ∧ (i ≠ j → stranded (w'.xsks j) = stranded (w.xsks j))

lemma turn_fwd (hpc : w.pc = .fwd i j t) (hj : j < conf.numInterfaces)
    (h : workerStep conf cls ready w = .ok w') : Turn w w' i j t := by
  obtain ⟨xsks, mem, pc⟩ := w
  cases hpc
  simp only [workerStep, if_pos hj] at h
  split at h
  · cases h
    exact ⟨fun _ _ _ => rfl, .inl ⟨rfl, .inl ‹_›⟩⟩
  split at h
  · obtain ⟨⟨xs, m⟩, he, h⟩ := bind_eq_ok h
    cases h
    rw [enqueueTx_ok he]
    exact ⟨fun k _ hkj => by simp only [Function.update_noteq hkj], .inl ⟨rfl, .inr ‹_›⟩⟩
  · cases h
    exact ⟨fun _ _ _ => rfl, .inr ⟨rfl, fun _ => rfl⟩⟩

lemma turn_retry (hpc : w.pc = .retry i j t) (h : workerStep conf cls ready w = .ok w') :
    Turn w w' i j t := by
  obtain ⟨xsks, mem, pc⟩ := w
  cases hpc
  simp only [workerStep] at h
  obtain ⟨xs, hc, h⟩ := bind_eq_ok h
  rw [(completeTx_ok hc).2] at h
  have hsame := sameRings_wakeupKick conf (afterCompleteTx conf xsks i j)
  have hk : ∀ k, k ≠ i → stranded (afterCompleteTx conf xsks i k) = stranded (xsks k) :=
    fun k hk => stranded_congr (afterCompleteTx_tx _ _ _ _) (by rw [afterCompleteTx_cq, if_neg hk])
  simp only [Function.update_same, txReserved_congr (hsame.tx.trans (afterCompleteTx_tx _ _ _ _))]
    at h
  split at h
  · obtain ⟨⟨xs', m⟩, he, h⟩ := bind_eq_ok h
    cases h
    rw [enqueueTx_ok he]
    exact ⟨fun k hki hkj => by simp only [Function.update_noteq hkj, hk k hki],
      .inl ⟨rfl, .inr ‹_›⟩⟩
  · cases h
    refine ⟨fun k hki hkj => by simp only [Function.update_noteq hkj, hk k hki],
      .inr ⟨rfl, fun hij => ?_⟩⟩
    simp only [Function.update_same]
    exact (stranded_congr hsame.tx hsame.cq).trans (hk j (Ne.symm hij))

/-- No step from the retry loop at `j` touches the tx and completion rings of a socket other
than `i` and `j`. -/
lemma Step.frame_retry (hs : Step conf w w') (hpc : w.pc = .retry i j t) :
    ∀ k, k ≠ i → k ≠ j → stranded (w'.xsks k) = stranded (w.xsks k) := by
  cases hs with
  | worker cls ready hw => exact (turn_retry hpc hw).frame
  | kernel hk => exact fun k _ _ => (hk.stranded_eq k).2

/-- The worker enters the retry loop only with a bucket to submit: the forwarding loop skips an
empty `ntx[j]`, and the loop keeps its buckets. -/
lemma count_pos_of_workerStep (h : workerStep conf cls ready w = .ok w')
    (hw : ∀ {i j t}, w.pc = .retry i j t → 0 < (t j).count.toNat) (hpc : w'.pc = .retry i j t) :
    0 < (t j).count.toNat := by
  obtain ⟨xsks, mem, pc⟩ := w
  cases pc with
  | top =>
    simp only [workerStep] at h
    split at h <;> cases h
    · cases hpc
    · dsimp only at hpc
      split at hpc <;> cases hpc
  | batch i' =>
    simp only [workerStep] at h
    split at h
    · obtain ⟨_, -, h⟩ := bind_eq_ok h
      cases h; cases hpc
    · cases h; cases hpc
  | recv i' =>
    simp only [workerStep] at h
    obtain ⟨⟨_, _, b⟩, -, h⟩ := bind_eq_ok h
    cases b <;> cases h <;> cases hpc
  | fwd i' j' t' =>
    simp only [workerStep] at h
    split at h
    · split at h
      · cases h; cases hpc
      · split at h
        · obtain ⟨_, -, h⟩ := bind_eq_ok h
          cases h; cases hpc
        · cases h; cases hpc
          omega
    · cases h; cases hpc
  | retry i' j' t' =>
    simp only [workerStep] at h
    obtain ⟨_, -, h⟩ := bind_eq_ok h
    split at h
    · obtain ⟨_, -, h⟩ := bind_eq_ok h
      cases h; cases hpc
    · cases h; cases hpc
      exact hw rfl
  | batch1 =>
    simp only [workerStep] at h
    obtain ⟨_, -, h⟩ := bind_eq_ok h
    cases h; cases hpc
  | recv1 =>
    simp only [workerStep] at h
    obtain ⟨⟨_, _, b⟩, -, h⟩ := bind_eq_ok h
    cases b <;> cases h <;> cases hpc
  | fwd1 b =>
    simp only [workerStep] at h
    split_ifs at h <;> cases h <;> cases hpc
  | retry1 b =>
    simp only [workerStep] at h
    obtain ⟨_, -, h⟩ := bind_eq_ok h
    split at h <;> cases h <;> cases hpc

/-- In every world of a run, the worker waits in the retry loop only with a bucket to submit. -/
lemma count_pos_of_reachable {bindFlags : Nat → Nat} (hw : Reachable conf bindFlags w) :
    ∀ {i j t}, w.pc = .retry i j t → 0 < (t j).count.toNat := by
  induction hw with
  | refl => intro i j t h; cases h
  | tail _ hs ih =>
    cases hs with
    | worker cls ready h => exact count_pos_of_workerStep h ih
    | kernel hk => exact fun hpc => ih (((hk.stranded_eq 0).1).symm.trans hpc)

end Steps

/-! ### A bucket that does not fit -/

/-- `process_batch(xsks, i)` has still to forward the bucket `t k` to `k ≠ i`, which does not fit
on `k`'s tx ring beside the stranded descriptors. -/
structure Blocked (conf : Conf) (w : World) (i k : Nat) (t : Nat → Bucket PktInfo) : Prop where
  pc : ∃ j ≤ k, w.pc = .fwd i j t ∨ w.pc = .retry i j t
  lt : k < conf.numInterfaces
  ne : i ≠ k
  pos : 0 < (t k).count.toNat
  over : txSize < stranded (w.xsks k) + (t k).count.toNat

section Blocked

variable {conf : Conf} {w w' : World} {i k : Nat} {t : Nat → Bucket PktInfo}

lemma Blocked.no_room (h : Blocked conf w i k t) : txReserved (w.xsks k) (t k) = false := by
  have hs : stranded (w.xsks k) ≤ (w.xsks k).tx.length := Nat.sub_le _ _
  have := h.over
  rw [← Bool.not_eq_true, txReserved_iff h.pos]
  omega

/-- Every step keeps the worker blocked: the loop moves on only past destinations other than
`k`, the reservation on `k` fails, and no step changes `k`'s stranded descriptors.  In the retry
loop at `k` the worker stays there. -/
lemma Blocked.step (h : Blocked conf w i k t) (hs : Step conf w w') :
    Blocked conf w' i k t ∧ (w.pc = .retry i k t → w'.pc = .retry i k t) := by
  obtain ⟨j, hjk, hpc⟩ := h.pc
  cases hs with
  | kernel hk =>
    obtain ⟨hpc', hst⟩ := hk.stranded_eq k
    exact ⟨⟨⟨j, hjk, hpc'.symm ▸ hpc⟩, h.lt, h.ne, h.pos, hst ▸ h.over⟩, fun hr => hpc'.trans hr⟩
  | worker cls ready hw =>
    have ht : Turn w w' i j t :=
      hpc.elim (fun hpc => turn_fwd hpc (by have := h.lt; omega) hw) (fun hpc => turn_retry hpc hw)
    have hj : j = k → w'.pc = .retry i j t ∧ stranded (w'.xsks k) = stranded (w.xsks k) := by
      rintro rfl
      rcases ht.next with ⟨-, h0 | hr⟩ | ⟨hpc', hst⟩
      · exact absurd h.pos (by omega)
      · rw [h.no_room] at hr; cases hr
      · exact ⟨hpc', hst h.ne⟩
    have hret : w.pc = .retry i k t → w'.pc = .retry i k t := fun hr => by
      rcases hpc with hf | hr'
      · rw [hr] at hf; cases hf
      · rw [hr] at hr'; cases hr'; exact (hj rfl).1
    by_cases hjk' : j = k
    · exact ⟨⟨⟨j, hjk, .inr (hj hjk').1⟩, h.lt, h.ne, h.pos, (hj hjk').2 ▸ h.over⟩, hret⟩
    have hst := ht.frame k (Ne.symm h.ne) (Ne.symm hjk')
    rcases ht.next with ⟨hpc', -⟩ | ⟨hpc', -⟩
    · exact ⟨⟨⟨j + 1, by omega, .inl hpc'⟩, h.lt, h.ne, h.pos, hst ▸ h.over⟩, hret⟩
    · exact ⟨⟨⟨j, hjk, .inr hpc'⟩, h.lt, h.ne, h.pos, hst ▸ h.over⟩, hret⟩

lemma Blocked.run (h : Blocked conf w i k t) (hr : Relation.ReflTransGen (Step conf) w w') :
    Blocked conf w' i k t ∧ (w.pc = .retry i k t → w'.pc = .retry i k t) := by
  induction hr with
  | refl => exact ⟨h, id⟩
  | tail _ hs ih =>
    have h' := ih.1.step hs
    exact ⟨h'.1, fun hr => h'.2 (ih.2 hr)⟩

end Blocked

/-! ### A bucket that fits -/

section Fits

variable {conf : Conf} {s : Nat} {bindFlags : Nat → Nat} {w : World} {i j : Nat}
  {t : Nat → Bucket PktInfo}

/-- When the bucket fits on `j`'s tx ring, the next turn of the loop submits it. -/
lemma submit_of_room (ha : Aligned conf s) (hw : Reachable conf bindFlags w)
    (hpc : w.pc = .retry i j t) (h : (w.xsks j).tx.length + (t j).count.toNat ≤ txSize) :
    ∃ w', Step conf w w' ∧ w'.pc = .fwd i (j + 1) t := by
  have hinv := (inv_reachable ha hw).1
  obtain ⟨-, hi, hj, hheld⟩ : PcOk conf (.retry i j t) := hpc ▸ hinv.pc
  have hr : txReserved (wakeupKick conf (afterCompleteTx conf w.xsks i j)) (t j) = true := by
    rw [txReserved_congr ((sameRings_wakeupKick conf _).tx.trans (afterCompleteTx_tx _ _ _ _))]
    exact txReserved_of_le h
  obtain ⟨⟨xs, m⟩, he⟩ := enqueueTx_ok_of_bounds (bucket_bounds ha hi hj hheld)
  exact ⟨_, .worker dropAll false (workerStep_retry hpc (completeTx_eq_of_inv hinv ha hi) hr he),
    rfl⟩

/-- When the bucket fits beside the stranded descriptors but not yet on the tx ring, the kernel
can send the head of `j`'s tx ring into a free slot of its completion ring. -/
lemma fits_step (ha : Aligned conf s) (hw : Reachable conf bindFlags w) (hpc : w.pc = .retry i j t)
    (hfit : stranded (w.xsks j) + (t j).count.toNat ≤ txSize) :
    ∃ w', Step conf w w' ∧ (w'.pc = .fwd i (j + 1) t ∨
      w'.pc = w.pc ∧ stranded (w'.xsks j) = stranded (w.xsks j) ∧
        (w'.xsks j).tx.length < (w.xsks j).tx.length) := by
  by_cases h0 : (w.xsks j).tx.length + (t j).count.toNat ≤ txSize
  · obtain ⟨w', hs, hpc'⟩ := submit_of_room ha hw hpc h0
    exact ⟨w', hs, .inl hpc'⟩
  obtain ⟨-, -, hj, -⟩ : PcOk conf (.retry i j t) := hpc ▸ (inv_reachable ha hw).1.pc
  have hlen : 0 < (w.xsks j).tx.length := by
    have := (t j).count_lt
    have : txSize = 2048 := rfl
    omega
  obtain ⟨d, rest, htx⟩ := List.exists_cons_of_length_pos hlen
  have hcq : (w.xsks j).cq.length < compSize := by
    unfold stranded at hfit
    omega
  have hk := KernelStep.tx w j d rest hj htx hcq
  refine ⟨_, .kernel hk, .inr ⟨rfl, (hk.stranded_eq j).2, ?_⟩⟩
  simp [htx]

/-- When the bucket fits beside the stranded descriptors, some run leaves the loop, having
submitted the bucket; the sockets other than `i` and `j` keep their stranded descriptors. -/
lemma leaves_of_fits (ha : Aligned conf s) (hw : Reachable conf bindFlags w)
    (hpc : w.pc = .retry i j t) (hfit : stranded (w.xsks j) + (t j).count.toNat ≤ txSize) :
    ∃ w', Relation.ReflTransGen (Step conf) w w' ∧ Reachable conf bindFlags w' ∧
      w'.pc = .fwd i (j + 1) t ∧ ∀ k, k ≠ i → k ≠ j → stranded (w'.xsks k) = stranded (w.xsks k) :=
  exists_run_of_variant (fun v => Reachable conf bindFlags v ∧ v.pc = .retry i j t ∧
      stranded (v.xsks j) + (t j).count.toNat ≤ txSize ∧
      ∀ k, k ≠ i → k ≠ j → stranded (v.xsks k) = stranded (w.xsks k))
    (fun v => Reachable conf bindFlags v ∧ v.pc = .fwd i (j + 1) t ∧
      ∀ k, k ≠ i → k ≠ j → stranded (v.xsks k) = stranded (w.xsks k))
    (fun v => (v.xsks j).tx.length)
    (fun v ⟨hv, hpc, hfit, hfr⟩ => by
      obtain ⟨v', hs, h⟩ := fits_step ha hv hpc hfit
      have hfr' := fun k hki hkj => (hs.frame_retry hpc k hki hkj).trans (hfr k hki hkj)
      rcases h with hq | ⟨hpc', hst, hlt⟩
      · exact ⟨v', hs, .inl ⟨hv.tail hs, hq, hfr'⟩⟩
      · exact ⟨v', hs, .inr ⟨⟨hv.tail hs, hpc'.trans hpc, hst ▸ hfit, hfr'⟩, hlt⟩⟩)
    w ⟨hw, hpc, hfit, fun _ _ _ => rfl⟩

end Fits

/-- `process_batch(xsks, i)` waiting for room on another socket's tx ring can leave its retry
loop exactly when the bucket fits beside the descriptors that the kernel cannot send without a
drain of `j`'s completion ring.  Only the kernel frees slots of `j`'s tx ring, one per free
slot of `j`'s completion ring, and nothing in the loop drains that ring: when the bucket fits,
some run of the worker and the kernel submits it, and otherwise no run leaves the loop. -/
theorem retry_leaves_iff {conf : Conf} {s : Nat} {bindFlags : Nat → Nat} {w : World} {i j : Nat}
    {t : Nat → Bucket PktInfo} (ha : Aligned conf s) (hw : Reachable conf bindFlags w)
    (hpc : w.pc = .retry i j t) (hij : i ≠ j) :
    (∃ w', Relation.ReflTransGen (Step conf) w w' ∧ w'.pc ≠ w.pc) ↔
      stranded (w.xsks j) + (t j).count.toNat ≤ txSize := by
  constructor
  · rintro ⟨w', hr, hne⟩
    by_contra hfit
    obtain ⟨-, -, hj, -⟩ : PcOk conf (.retry i j t) := hpc ▸ (inv_reachable ha hw).1.pc
    have hb : Blocked conf w i j t :=
      ⟨⟨j, le_rfl, .inr hpc⟩, hj, hij, count_pos_of_reachable hw hpc, by omega⟩
    exact hne (((hb.run hr).2 hpc).trans hpc.symm)
  · intro hfit
    obtain ⟨w', hr, -, hpc', -⟩ := leaves_of_fits ha hw hpc hfit
    exact ⟨w', hr, by simp [hpc', hpc]⟩

theorem retry_leaves_iff_jammed : ∃ w t, Reachable twoPortConf (fun _ => 0) w ∧
    w.pc = .retry 0 1 t ∧ ((∃ w', Relation.ReflTransGen (Step twoPortConf) w w' ∧ w'.pc ≠ w.pc) ↔
      stranded (w.xsks 1) + (t 1).count.toNat ≤ txSize) := by
  obtain ⟨w, t, hw, hj, -, -⟩ := sched_jam
  exact ⟨w, t, hw, hj.pc, retry_leaves_iff aligned_twoPortConf hw hj.pc hj.ne⟩

end Xsknf
