import Xsknf.RetryLoop

/-!
# Stopping the workers

`worker_loop` tests `stop_workers` once per turn of its `while`, before the optional `poll`;
`xsknf_stop_workers` sets the flag and then joins every worker thread.  A worker thread is its
world, the flag, and whether `worker_loop` has returned (`Thread`).  A step of the thread is
the control thread setting the flag, the test of the `while` reading it set, a step of the
loop's body (`workerStep`, after a test that read it clear) or a step of the kernel
(`ThreadStep`).  The thread's world moves by the steps of `Step` only (`ThreadStep.run_world`),
and a run of the worlds that reaches the top of the loop is, with the flag set, a run of the
thread that returns (`returns_of_run_to_top`).

The flag is not read inside `process_batch`.  A worker in a jammed retry loop never reaches the
top again, so along every run, whenever the flag is set, `worker_loop` does not return and the
`pthread_join` of `xsknf_stop_workers` waits forever (`jammed_never_returns`).  With one
interface no world of a run is such a trap: from each of them, once the flag is set, some run
makes `worker_loop` return (`stop_returns_one_port`).
-/

namespace Xsknf

/-- One worker thread, with the flag it reads. -/
structure Thread where
  /-- The worker's sockets, regions and place. -/
  world : World
  /-- `stop_workers`. -/
  stop : Bool
  /-- `worker_loop` has returned. -/
  returned : Bool

/-- The thread `xsknf_start_workers` creates, on the sockets `xsknf_init` set up. -/
def initThread (conf : Conf) (bindFlags : Nat → Nat) : Thread :=
  ⟨initWorld conf bindFlags, false, false⟩

/-- The steps of a worker thread and of what acts on it. -/
inductive ThreadStep (conf : Conf) : Thread → Thread → Prop
  /-- `xsknf_stop_workers` sets `stop_workers`. -/
  | stop (t : Thread) : ThreadStep conf t { t with stop := true }
  /-- The test of the `while` reads the flag set: `worker_loop` returns. -/
  | exit (t : Thread) : t.returned = false → t.world.pc = .top → t.stop = true →
      ThreadStep conf t { t with returned := true }
  /-- A step of the loop's body; at the top, after a test that read the flag clear. -/
  | worker (t : Thread) (cls : Classifier) (ready : Bool) (w' : World) : t.returned = false →
      (t.world.pc = .top → t.stop = false) → workerStep conf cls ready t.world = .ok w' →
      ThreadStep conf t { t with world := w' }
  /-- The kernel works on the rings, whatever the thread does. -/
  | kernel (t : Thread) (w' : World) : KernelStep conf t.world w' →
      ThreadStep conf t { t with world := w' }

section Runs

variable {conf : Conf} {t t' : Thread} {w w' : World}

/-- A step of the thread leaves its world alone or is a step of the world. -/
lemma ThreadStep.world_step (h : ThreadStep conf t t') :
    t'.world = t.world ∨ Step conf t.world t'.world := by
  cases h with
  | stop => exact .inl rfl
  | exit => exact .inl rfl
  | worker cls ready _ _ _ hw => exact .inr (.worker cls ready hw)
  | kernel _ hk => exact .inr (.kernel hk)

lemma ThreadStep.run_world (h : Relation.ReflTransGen (ThreadStep conf) t t') :
    Relation.ReflTransGen (Step conf) t.world t'.world := by
  induction h with
  | refl => exact .refl
  | tail _ hs ih => exact hs.world_step.elim (fun h => h ▸ ih) ih.tail

/-- Before the flag is set, every run of the worlds is one of the thread. -/
lemma ThreadStep.run_of_run (h : Relation.ReflTransGen (Step conf) w w') :
    Relation.ReflTransGen (ThreadStep conf) ⟨w, false, false⟩ ⟨w', false, false⟩ := by
  induction h with
  | refl => exact .refl
  | tail _ hs ih =>
    refine ih.tail ?_
    cases hs with
    | worker cls ready hw => exact .worker _ cls ready _ rfl (fun _ => rfl) hw
    | kernel hk => exact .kernel _ _ hk

/-- Once the flag is set, a run of the worlds to the top of the loop is one of the thread, which
then returns: every step before the first visit of the top is a step of the loop's body. -/
lemma returns_of_run_to_top (h : Relation.ReflTransGen (Step conf) t.world w')
    (htop : w'.pc = .top) (hs : t.stop = true) (hr : t.returned = false) :
    ∃ t', Relation.ReflTransGen (ThreadStep conf) t t' ∧ t'.returned = true := by
  obtain ⟨world, stop, returned⟩ := t
  dsimp only at h hs hr
  subst hs hr
  induction h using Relation.ReflTransGen.head_induction_on with
  | refl => exact ⟨_, .single (.exit _ rfl htop rfl), rfl⟩
  | @head w _ hs _ ih =>
    by_cases hpc : w.pc = .top
    · exact ⟨_, .single (.exit _ rfl hpc rfl), rfl⟩
    obtain ⟨t', hr', ht'⟩ := ih
    refine ⟨t', .head ?_ hr', ht'⟩
    cases hs with
    | worker cls ready hw => exact .worker _ cls ready _ rfl (fun h => absurd h hpc) hw
    | kernel hk => exact .kernel _ _ hk

end Runs

/-! ### A jammed worker does not stop -/

section Jammed

variable {conf : Conf} {t t' : Thread} {i j : Nat} {toTx : Nat → Bucket PktInfo}

/-- A jammed worker is not at the top, so no step makes `worker_loop` return, and every step
keeps it jammed. -/
lemma Jammed.threadStep (h : Jammed conf t.world i j toTx) (hr : t.returned = false)
    (hs : ThreadStep conf t t') : Jammed conf t'.world i j toTx ∧ t'.returned = false := by
  cases hs with
  | stop => exact ⟨h, hr⟩
  | exit _ htop _ => exact absurd (h.pc.symm.trans htop) (by simp)
  | worker cls ready _ _ _ hw => exact ⟨(h.step (.worker cls ready hw)).1, hr⟩
  | kernel _ hk => exact ⟨(h.step (.kernel hk)).1, hr⟩

/-- Once the retry loop of `process_batch` is jammed, `worker_loop` never returns: along every
run of the thread and the kernel, whenever `xsknf_stop_workers` sets the flag, the worker stays
in the loop, which does not read it. -/
theorem jammed_never_returns (h : Jammed conf t.world i j toTx) (hr : t.returned = false)
    (hrun : Relation.ReflTransGen (ThreadStep conf) t t') :
    t'.returned = false ∧ Jammed conf t'.world i j toTx := by
  induction hrun with
  | refl => exact ⟨hr, h⟩
  | tail _ hs ih => exact ((ih.2.threadStep ih.1) hs).symm

theorem jammed_never_returns_two_ports :
    ∃ t toTx, Relation.ReflTransGen (ThreadStep twoPortConf) (initThread twoPortConf fun _ => 0) t ∧
      t.stop = true ∧ Jammed twoPortConf t.world 0 1 toTx ∧ t.returned = false ∧
      ∀ t', Relation.ReflTransGen (ThreadStep twoPortConf) t t' →
        t'.returned = false ∧ Jammed twoPortConf t'.world 0 1 toTx := by
  obtain ⟨w, T, hw, hj, -, -⟩ := sched_jam
  exact ⟨⟨w, true, false⟩, T, (ThreadStep.run_of_run hw).tail (.stop _), rfl, hj, rfl,
    fun t' hrun => jammed_never_returns hj rfl hrun⟩

end Jammed

/-! ### One interface: the worker can always be stopped -/

/-- With one interface in aligned mode, `xsknf_stop_workers` can always succeed: from every
state of a run of the thread, once the flag is set, some run of the worker and the kernel
makes `worker_loop` return. -/
theorem stop_returns_one_port {conf : Conf} {s : Nat} {bindFlags : Nat → Nat} {t : Thread}
    (ha : Aligned conf s) (hb : 0 < conf.batchSize) (hn : conf.numInterfaces = 1)
    (ht : Relation.ReflTransGen (ThreadStep conf) (initThread conf bindFlags) t)
    (hs : t.stop = true) :
    ∃ t', Relation.ReflTransGen (ThreadStep conf) t t' ∧ t'.returned = true := by
  cases hr : t.returned
  · obtain ⟨w', hrun, htop⟩ := top_of_one_port ha hb (ThreadStep.run_world ht) hn
    exact returns_of_run_to_top hrun htop hs hr
  · exact ⟨t, .refl, hr⟩

theorem stop_returns_one_port_in_retry :
    ∃ t T, Relation.ReflTransGen (ThreadStep onePortConf) (initThread onePortConf fun _ => 0) t ∧
      t.stop = true ∧ t.world.pc = .retry1 T ∧
      ∃ t', Relation.ReflTransGen (ThreadStep onePortConf) t t' ∧ t'.returned = true := by
  obtain ⟨w, T, hw, hpc⟩ := oneSched_retry
  have ht := (ThreadStep.run_of_run hw).tail (.stop _)
  exact ⟨_, T, ht, rfl, hpc, stop_returns_one_port aligned_onePortConf (by decide) rfl ht rfl⟩

end Xsknf
