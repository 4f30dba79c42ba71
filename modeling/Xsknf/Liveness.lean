import Xsknf.Backlog
import Xsknf.Stop

/-!
# Getting back to the top of the worker's loop

Each turn of `worker_loop` with more than one interface runs `process_batch(xsks, i)` for every
interface `i`: `complete_tx`, the rx half, and the forwarding loop, which reserves room for
`ntx[j]` descriptors on each socket `j` in turn and retries until the reservation succeeds.
Only that retry loop can keep the worker from the top of `worker_loop`.  At the ingress itself
every turn drains a completion, and elsewhere the kernel frees one slot of `j`'s tx ring for
each free slot of `j`'s completion ring (`Xsknf.Backlog`).

So some run brings the worker back to the top exactly when every bucket the current batch has
still to forward to a socket other than the ingress fits beside that socket's stranded
descriptors (`RoomAhead`, `top_reachable_iff`).  The run that gets there finishes the forwarding
loop (`fwd_reaches_batch`), and then lets the classifier drop the packets of the remaining
interfaces (`batch_reaches_top`).  When a bucket ahead does not fit, the worker is `Blocked`
along every run.  Since `worker_loop` tests `stop_workers` only at the top,
`xsknf_stop_workers` can join the worker exactly in the same worlds (`stop_returns_iff`).
In these runs, as in every run of the model, the packet processor's verdicts are the run's
choice: the statements say what some processor lets happen.
-/

namespace Xsknf

/-- The buckets that `process_batch(xsks, i)` has still to forward from `j` on fit beside the
stranded descriptors of their destinations, the ingress apart. -/
def Fits (conf : Conf) (xsks : Xsks) (i j : Nat) (t : Nat → Bucket PktInfo) : Prop :=
  ∀ k < conf.numInterfaces, j ≤ k → k ≠ i → 0 < (t k).count.toNat →
    stranded (xsks k) + (t k).count.toNat ≤ txSize

instance (conf : Conf) (xsks : Xsks) (i j : Nat) (t : Nat → Bucket PktInfo) :
    Decidable (Fits conf xsks i j t) :=
  inferInstanceAs (Decidable (∀ k < conf.numInterfaces, _))

/-- Every bucket the worker has still to forward in the current batch fits: true away from the
forwarding loop of `process_batch`. -/
def RoomAhead (conf : Conf) (w : World) : Prop :=
  match w.pc with
  | .fwd i j t => Fits conf w.xsks i j t
  | .retry i j t => Fits conf w.xsks i j t
  | _ => True

section Fits

variable {conf : Conf} {xsks xsks' : Xsks} {w w' : World} {i j : Nat} {t : Nat → Bucket PktInfo}

lemma Fits.succ (h : Fits conf xsks i j t) : Fits conf xsks i (j + 1) t :=
  fun k hk hjk => h k hk (by omega)

lemma Fits.congr (h : Fits conf xsks i j t)
    (hs : ∀ k, j ≤ k → k ≠ i → stranded (xsks' k) = stranded (xsks k)) : Fits conf xsks' i j t :=
  fun k hk hjk hki hpos => hs k hjk hki ▸ h k hk hjk hki hpos

/-- A turn keeps the room ahead: past `j` when it moves on, from `j` when it waits. -/
lemma Turn.fits (ht : Turn w w' i j t) (h : Fits conf w.xsks i j t) :
    w'.pc = .fwd i (j + 1) t ∧ Fits conf w'.xsks i (j + 1) t ∨
      w'.pc = .retry i j t ∧ Fits conf w'.xsks i j t := by
  rcases ht.next with ⟨hpc, -⟩ | ⟨hpc, hj⟩
  · exact .inl ⟨hpc, h.succ.congr fun k hk hki => ht.frame k hki (by omega)⟩
  · refine .inr ⟨hpc, h.congr fun k hk hki => ?_⟩
    rcases Nat.eq_or_lt_of_le hk with rfl | hlt
    · exact hj (Ne.symm hki)
    · exact ht.frame k hki (by omega)

/-- Where a bucket ahead does not fit, the worker is blocked on it. -/
lemma blocked_of_not_fits (hpc : w.pc = .fwd i j t ∨ w.pc = .retry i j t)
    (h : ¬ Fits conf w.xsks i j t) : ∃ k, Blocked conf w i k t := by
  unfold Fits at h
  push_neg at h
  obtain ⟨k, hk, hjk, hki, hpos, hover⟩ := h
  exact ⟨k, ⟨j, hjk, hpc⟩, hk, Ne.symm hki, hpos, hover⟩

end Fits

/-! ### The runs back to the top -/

section Runs

variable {conf : Conf} {s : Nat} {bindFlags : Nat → Nat} {w : World} {i j : Nat}
  {t : Nat → Bucket PktInfo}

/-- The retry loop at the ingress itself is left by some run, which keeps the stranded
descriptors of the other sockets. -/
lemma self_leaves (ha : Aligned conf s) (hb : 0 < conf.batchSize)
    (hw : Reachable conf bindFlags w) (hpc : w.pc = .retry i i t) :
    ∃ w', Relation.ReflTransGen (Step conf) w w' ∧ Reachable conf bindFlags w' ∧
      w'.pc = .fwd i (i + 1) t ∧ ∀ k, k ≠ i → k ≠ i → stranded (w'.xsks k) = stranded (w.xsks k) :=
  exists_run_of_variant (fun v => Reachable conf bindFlags v ∧ v.pc = .retry i i t ∧
      ∀ k, k ≠ i → k ≠ i → stranded (v.xsks k) = stranded (w.xsks k))
    (fun v => Reachable conf bindFlags v ∧ v.pc = .fwd i (i + 1) t ∧
      ∀ k, k ≠ i → k ≠ i → stranded (v.xsks k) = stranded (w.xsks k))
    (loopMeasure i)
    (fun v ⟨hv, hpc, hfr⟩ => by
      obtain ⟨v', hs, h⟩ := retry_self_step ha hb hv hpc
      have hfr' := fun k hki hkj => (hs.frame_retry hpc k hki hkj).trans (hfr k hki hkj)
      rcases h with hq | ⟨hpc', hlt⟩
      · exact ⟨v', hs, .inl ⟨hv.tail hs, hq, hfr'⟩⟩
      · exact ⟨v', hs, .inr ⟨⟨hv.tail hs, hpc', hfr'⟩, hlt⟩⟩)
    w ⟨hw, hpc, fun _ _ _ => rfl⟩

/-- With room for the buckets ahead, some run leaves the retry loop at `j`, with room for the
buckets past `j`. -/
lemma retry_reaches_next (ha : Aligned conf s) (hb : 0 < conf.batchSize)
    (hw : Reachable conf bindFlags w) (hpc : w.pc = .retry i j t) (hfit : Fits conf w.xsks i j t) :
    ∃ w', Relation.ReflTransGen (Step conf) w w' ∧ Reachable conf bindFlags w' ∧
      w'.pc = .fwd i (j + 1) t ∧ Fits conf w'.xsks i (j + 1) t := by
  suffices h : ∃ w', Relation.ReflTransGen (Step conf) w w' ∧ Reachable conf bindFlags w' ∧
      w'.pc = .fwd i (j + 1) t ∧ ∀ k, k ≠ i → k ≠ j → stranded (w'.xsks k) = stranded (w.xsks k) by
    obtain ⟨w', hr, hw', hpc', hfr⟩ := h
    exact ⟨w', hr, hw', hpc', hfit.succ.congr fun k hk hki => hfr k hki (by omega)⟩
  by_cases hij : i = j
  · subst hij
    exact self_leaves ha hb hw hpc
  · obtain ⟨-, -, hj, -⟩ : PcOk conf (.retry i j t) := hpc ▸ (inv_reachable ha hw).1.pc
    exact leaves_of_fits ha hw hpc (hfit j hj le_rfl (Ne.symm hij) (count_pos_of_reachable hw hpc))

/-- With room for the buckets ahead, some run finishes the forwarding loop of
`process_batch(xsks, i)` and moves on to the next interface. -/
lemma fwd_reaches_batch (ha : Aligned conf s) (hb : 0 < conf.batchSize) :
    ∀ m {w : World} {j : Nat}, conf.numInterfaces - j = m → Reachable conf bindFlags w →
      w.pc = .fwd i j t → Fits conf w.xsks i j t →
      ∃ w', Relation.ReflTransGen (Step conf) w w' ∧ Reachable conf bindFlags w' ∧
        w'.pc = .batch (i + 1)
  | 0, w, j, hm, hw, hpc, _ =>
    have hs := Step.worker dropAll false (workerStep_fwd_end hpc (by omega))
    ⟨_, .single hs, hw.tail hs, rfl⟩
  | m + 1, w, j, hm, hw, hpc, hfit => by
    have hj : j < conf.numInterfaces := by omega
    obtain ⟨w₁, h₁⟩ := ((inv_reachable ha hw).1.progress ha dropAll false).resolve_right
      fun ⟨_, h, _⟩ => by rw [hpc] at h; cases h
    have hw₁ := hw.tail (.worker _ _ h₁)
    rcases (turn_fwd hpc hj h₁).fits hfit with ⟨hpc₁, hfit₁⟩ | ⟨hpc₁, hfit₁⟩
    · obtain ⟨w', hr, hw', hpc'⟩ := fwd_reaches_batch ha hb m (by omega) hw₁ hpc₁ hfit₁
      exact ⟨w', .head (.worker _ _ h₁) hr, hw', hpc'⟩
    · obtain ⟨w₂, hr₂, hw₂, hpc₂, hfit₂⟩ := retry_reaches_next ha hb hw₁ hpc₁ hfit₁
      obtain ⟨w', hr, hw', hpc'⟩ := fwd_reaches_batch ha hb m (by omega) hw₂ hpc₂ hfit₂
      exact ⟨w', .head (.worker _ _ h₁) (hr₂.trans hr), hw', hpc'⟩

/-- The rx half of `process_batch(xsks, k)` with a classifier that drops every packet leaves
empty buckets, and the forwarding loop skips them: some run reaches the next interface. -/
lemma recv_reaches_batch (ha : Aligned conf s) (hb : 0 < conf.batchSize)
    (hw : Reachable conf bindFlags w) {k : Nat} (hpc : w.pc = .recv k) :
    ∃ w', Relation.ReflTransGen (Step conf) w w' ∧ Reachable conf bindFlags w' ∧
      w'.pc = .batch (k + 1) := by
  have hinv := (inv_reachable ha hw).1
  obtain ⟨-, hk⟩ : PcOk conf (.recv k) := hpc ▸ hinv.pc
  rcases Nat.eq_zero_or_pos (received conf (w.xsks k)) with h0 | hr
  · have hs := Step.worker dropAll false (workerStep_recv_none hpc (receive_empty h0))
    exact ⟨_, .single hs, hw.tail hs, rfl⟩
  have hv : VerdictsIn conf.numInterfaces (batchPairs conf dropAll (w.xsks k)) :=
    fun _ h => .inl (fst_of_mem_batchPairs_forwardTo (v := -1) conf (w.xsks k) h)
  have hs := Step.worker dropAll false
    (workerStep_recv hpc (receive_eq hr hv (.inr (hinv.dropRoom hk dropAll))))
  have hempty : Fits conf (Function.update w.xsks k (afterReceive conf dropAll (w.xsks k))) k 0
      (txBuckets (batchPairs conf dropAll (w.xsks k))) := fun o _ _ _ hpos => by
    have he : txBuckets (batchPairs conf dropAll (w.xsks k)) o = Bucket.empty :=
      txBuckets_forwardTo_ne (v := -1) conf (w.xsks k) (by omega)
    rw [he] at hpos
    exact absurd hpos (by decide)
  obtain ⟨w', hr', hw', hpc'⟩ := fwd_reaches_batch ha hb _ rfl (hw.tail hs) rfl hempty
  exact ⟨w', .head hs hr', hw', hpc'⟩

/-- From `process_batch(xsks, k)` on, with a classifier that drops every packet, some run
reaches the top of `worker_loop`. -/
lemma batch_reaches_top (ha : Aligned conf s) (hb : 0 < conf.batchSize) :
    ∀ m {w : World} {k : Nat}, conf.numInterfaces - k = m → Reachable conf bindFlags w →
      w.pc = .batch k → ∃ w', Relation.ReflTransGen (Step conf) w w' ∧ w'.pc = .top
  | 0, w, k, hm, _, hpc =>
    ⟨_, .single (.worker dropAll false (workerStep_batch_end hpc (by omega))), rfl⟩
  | m + 1, w, k, hm, hw, hpc => by
    have hk : k < conf.numInterfaces := by omega
    have hs := Step.worker dropAll false
      (workerStep_batch hpc hk (completeTx_eq_of_inv (inv_reachable ha hw).1 ha hk))
    obtain ⟨w₂, hr₂, hw₂, hpc₂⟩ := recv_reaches_batch ha hb (hw.tail hs) rfl
    obtain ⟨w', hr, hpc'⟩ := batch_reaches_top ha hb m (by omega) hw₂ hpc₂
    exact ⟨w', .head hs (hr₂.trans hr), hpc'⟩

/-- With room for every bucket ahead, some run reaches the top of `worker_loop`: the forwarding
loop under way is finished, and the remaining interfaces drop their packets. -/
lemma top_of_roomAhead (ha : Aligned conf s) (hb : 0 < conf.batchSize)
    (hw : Reachable conf bindFlags w) (h : RoomAhead conf w) :
    ∃ w', Relation.ReflTransGen (Step conf) w w' ∧ w'.pc = .top := by
  have hp := (inv_reachable ha hw).1.pc
  have next : ∀ {w₁ : World} {k : Nat}, Relation.ReflTransGen (Step conf) w w₁ →
      Reachable conf bindFlags w₁ → w₁.pc = .batch k →
      ∃ w', Relation.ReflTransGen (Step conf) w w' ∧ w'.pc = .top := fun hr₁ hw₁ hpc₁ =>
    (batch_reaches_top ha hb _ rfl hw₁ hpc₁).imp fun _ h => ⟨hr₁.trans h.1, h.2⟩
  unfold RoomAhead at h
  split at h
  · rename_i hpc
    obtain ⟨w₁, hr₁, hw₁, hpc₁⟩ := fwd_reaches_batch ha hb _ rfl hw hpc h
    exact next hr₁ hw₁ hpc₁
  · rename_i hpc
    obtain ⟨w₁, hr₁, hw₁, hpc₁, hfit₁⟩ := retry_reaches_next ha hb hw hpc h
    obtain ⟨w₂, hr₂, hw₂, hpc₂⟩ := fwd_reaches_batch ha hb _ rfl hw₁ hpc₁ hfit₁
    exact next (hr₁.trans hr₂) hw₂ hpc₂
  · rename_i hpc₁ hpc₂
    cases hpc : w.pc with
    | top => exact ⟨w, .refl, hpc⟩
    | batch k => exact next .refl hw hpc
    | recv k =>
      obtain ⟨w₁, hr₁, hw₁, hpc₁⟩ := recv_reaches_batch ha hb hw hpc
      exact next hr₁ hw₁ hpc₁
    | fwd i j t => exact absurd hpc (hpc₁ i j t)
    | retry i j t => exact absurd hpc (hpc₂ i j t)
    | batch1 => rw [hpc] at hp; exact top_of_one_port ha hb hw hp
    | recv1 => rw [hpc] at hp; exact top_of_one_port ha hb hw hp
    | fwd1 t => rw [hpc] at hp; exact top_of_one_port ha hb hw hp.1
    | retry1 t => rw [hpc] at hp; exact top_of_one_port ha hb hw hp.1

end Runs

/-- A run that reaches the top of `worker_loop` has room for every bucket ahead: otherwise the
worker is blocked on one of them along every run. -/
lemma roomAhead_of_top {conf : Conf} {w w' : World} (hr : Relation.ReflTransGen (Step conf) w w')
    (htop : w'.pc = .top) : RoomAhead conf w := by
  have fits : ∀ {i j t}, (w.pc = .fwd i j t ∨ w.pc = .retry i j t) → Fits conf w.xsks i j t :=
    fun hpc => by
      by_contra hfit
      obtain ⟨k, hb⟩ := blocked_of_not_fits hpc hfit
      obtain ⟨_, -, hpc' | hpc'⟩ := (hb.run hr).1.pc <;> rw [htop] at hpc' <;> cases hpc'
  unfold RoomAhead
  split
  · exact fits (.inl ‹_›)
  · exact fits (.inr ‹_›)
  · trivial

/-- With more than one interface as with one, in aligned mode with `batch_size ≥ 1`, some run of
the worker and the kernel brings the worker from a world of a run back to the top of
`worker_loop` exactly when every bucket the current batch has still to forward to a socket other
than the ingress fits on that socket's tx ring beside the descriptors the kernel cannot send
before that socket's completion ring is drained. -/
theorem top_reachable_iff {conf : Conf} {s : Nat} {bindFlags : Nat → Nat} {w : World}
    (ha : Aligned conf s) (hb : 0 < conf.batchSize) (hw : Reachable conf bindFlags w) :
    (∃ w', Relation.ReflTransGen (Step conf) w w' ∧ w'.pc = .top) ↔ RoomAhead conf w :=
  ⟨fun ⟨_, hr, htop⟩ => roomAhead_of_top hr htop, top_of_roomAhead ha hb hw⟩

theorem top_reachable_iff_jammed : ∃ w, Reachable twoPortConf (fun _ => 0) w ∧
    ((∃ w', Relation.ReflTransGen (Step twoPortConf) w w' ∧ w'.pc = .top) ↔
      RoomAhead twoPortConf w) := by
  obtain ⟨w, -, hw, -, -, -⟩ := sched_jam
  exact ⟨w, hw, top_reachable_iff aligned_twoPortConf (by decide) hw⟩

/-! ### Stopping the workers -/

section Stop

variable {conf : Conf} {t t' : Thread}

/-- A run of the thread in which `worker_loop` returns passes the top of the loop: only the test
of the `while` returns. -/
lemma ThreadStep.top_of_returns (h : Relation.ReflTransGen (ThreadStep conf) t t')
    (hr : t.returned = false) (hr' : t'.returned = true) :
    ∃ w, Relation.ReflTransGen (Step conf) t.world w ∧ w.pc = .top := by
  induction h with
  | refl => rw [hr] at hr'; cases hr'
  | @tail t₁ t₂ hrun hs ih =>
    cases h₁ : t₁.returned
    · cases hs with
      | exit _ htop _ => exact ⟨t₁.world, ThreadStep.run_world hrun, htop⟩
      | stop => simp [h₁] at hr'
      | worker => simp [h₁] at hr'
      | kernel => simp [h₁] at hr'
    · exact ih h₁

/-- In aligned mode with `batch_size ≥ 1`, once `xsknf_stop_workers` has set the flag, a worker
thread of a run can still return exactly when every bucket its current batch has still to
forward fits beside the stranded descriptors of its destination: otherwise the `pthread_join`
of `xsknf_stop_workers` waits forever.  As in every `ThreadStep`, the run chooses the packet
processor's verdicts; the one that returns drops the packets it receives on its way. -/
theorem stop_returns_iff {s : Nat} {bindFlags : Nat → Nat} (ha : Aligned conf s)
    (hb : 0 < conf.batchSize)
    (ht : Relation.ReflTransGen (ThreadStep conf) (initThread conf bindFlags) t)
    (hs : t.stop = true) (hr : t.returned = false) :
    (∃ t', Relation.ReflTransGen (ThreadStep conf) t t' ∧ t'.returned = true) ↔
      RoomAhead conf t.world := by
  constructor
  · rintro ⟨t', hrun, hr'⟩
    obtain ⟨w, hrw, htop⟩ := ThreadStep.top_of_returns hrun hr hr'
    exact roomAhead_of_top hrw htop
  · intro h
    obtain ⟨w', hrun, htop⟩ := top_of_roomAhead ha hb (ThreadStep.run_world ht) h
    exact returns_of_run_to_top hrun htop hs hr

theorem stop_returns_iff_jammed : ∃ t, Relation.ReflTransGen (ThreadStep twoPortConf)
    (initThread twoPortConf fun _ => 0) t ∧ t.stop = true ∧ t.returned = false ∧
    ((∃ t', Relation.ReflTransGen (ThreadStep twoPortConf) t t' ∧ t'.returned = true) ↔
      RoomAhead twoPortConf t.world) := by
  obtain ⟨w, -, hw, -, -, -⟩ := sched_jam
  have ht := (ThreadStep.run_of_run hw).tail (.stop _)
  exact ⟨_, ht, rfl, rfl, stop_returns_iff aligned_twoPortConf (by decide) ht rfl rfl⟩

end Stop

end Xsknf
