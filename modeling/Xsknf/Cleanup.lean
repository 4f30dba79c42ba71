import Xsknf.Lifecycle

/-!
# The cleanup after a complete setup

When no fallible call of `xsknf_init` and `xsknf_start_workers` fails, the globals name,
live, exactly the objects the calls acquired (`held_get`).  `xsknf_cleanup`, called once,
then finds every one of them where it looks: it joins every worker thread, deletes every
socket and UMEM, unmaps every region, frees every array, detaches XDP from every interface
and deletes the qdiscs of the egress program.  It returns and leaves every acquired object
released and nothing else touched (`cleanup_after_setup`).

Each phase of the cleanup releases a set of objects (`Drops`), and the phases compose by
`Drops.trans`.
-/

namespace Xsknf

/-- The objects of the control plane, by the global that names them. -/
inductive Res
  | ifindexes
  | workers
  | xsks (w : Nat)
  | buffer (w : Nat)
  | umem (w : Nat)
  | copyBuffer (w : Nat)
  | copyUmem (w : Nat)
  | socket (w i : Nat)
  | thread (w : Nat)
  | xdp (i : Nat)
  | clsact (i : Nat)
deriving DecidableEq

/-- What the global of an object names. -/
def Ctl.get (ctl : Ctl) : Res → Obj
  | .ifindexes => ctl.ifindexes
  | .workers => ctl.workers
  | .xsks w => ctl.xsks w
  | .buffer w => ctl.buffer w
  | .umem w => ctl.umem w
  | .copyBuffer w => ctl.copyBuffer w
  | .copyUmem w => ctl.copyUmem w
  | .socket w i => ctl.socket w i
  | .thread w => ctl.thread w
  | .xdp i => ctl.xdp i
  | .clsact i => ctl.clsact i

/-- The call that acquires an object. -/
def Res.call : Res → Call
  | .ifindexes => .mallocIfindexes
  | .workers => .callocWorkers
  | .xsks w => .callocXsks w
  | .buffer w => .mmap w false
  | .umem w => .umemCreate w false
  | .copyBuffer w => .mmap w true
  | .copyUmem w => .umemCreate w true
  | .socket w i => .socketCreate w i
  | .thread w => .pthreadCreate w
  | .xdp i => .xdpAttach i
  | .clsact i => .qdisc i

@[simp] lemma Obj.live_drop : Obj.live.drop = .gone := rfl

@[simp] lemma Obj.drop_ne_live (o : Obj) : o.drop ≠ .live := by cases o <;> decide

@[simp] lemma Obj.drop_drop (o : Obj) : o.drop.drop = o.drop := by cases o <;> rfl

lemma release_eq {o : Obj} (h : o ≠ .gone) : release o = .ok o.drop := by
  cases o
  · rfl
  · rfl
  · exact absurd rfl h

/-! ### What the setup holds -/

section Held

variable (conf : ArgsConfig)

/-- A successful call makes live the object it acquires and leaves the others alone. -/
lemma acquire_get (ctl : Ctl) (c : Call) (r : Res) :
    (acquire conf ctl c).get r = if c = r.call then .live else ctl.get r := by
  cases r <;> cases c <;> (try cases ‹Bool›) <;>
    simp [acquire, Ctl.get, Res.call, Function.update_apply, apply_ite Ctl.get] <;>
    split_ifs <;> simp_all [Ctl.get, Function.update_apply, eq_comm]

lemma foldl_acquire_get (r : Res) : ∀ (l : List Call) (ctl : Ctl),
    (l.foldl (acquire conf) ctl).get r = if r.call ∈ l then .live else ctl.get r
  | [], ctl => rfl
  | c :: l, ctl => by
    rw [List.foldl_cons, foldl_acquire_get r l, acquire_get]
    by_cases h₁ : r.call ∈ l <;> by_cases h₂ : c = r.call <;> simp [h₁, h₂, eq_comm]

lemma acquire_egress {ctl : Ctl} (h : ctl.egress = true) (c : Call) :
    (acquire conf ctl c).egress = true := by
  cases c <;> (try cases ‹Bool›) <;> simp only [acquire] <;> (try split) <;> simp [h]

/-- Once the last egress filter is in, `egress_ebpf_program` stays set. -/
lemma foldl_acquire_egress : ∀ (l : List Call) (ctl : Ctl),
    (ctl.egress = true ∨ Call.filter (conf.numInterfaces - 1) ∈ l) → 0 < conf.numInterfaces →
      (l.foldl (acquire conf) ctl).egress = true
  | [], _, h, _ => h.resolve_right (List.not_mem_nil _)
  | c :: l, ctl, h, hn => by
    refine foldl_acquire_egress l _ ?_ hn
    rcases h with h | h
    · exact .inl (acquire_egress conf h c)
    · rcases List.mem_cons.1 h with rfl | h
      · exact .inl (by simp only [acquire, if_pos (Nat.sub_add_cancel hn)])
      · exact .inr h

/-- After a complete setup the globals name, live, exactly the objects its calls acquired. -/
lemma held_get (r : Res) :
    (held conf (setupCalls conf).length).get r =
      if r.call ∈ setupCalls conf then .live else .none := by
  rw [held, List.take_length, foldl_acquire_get]
  cases r <;> rfl

/-- The ifindex table comes first. -/
lemma ifindexes_mem_setupCalls : Res.ifindexes.call ∈ setupCalls conf := by
  simp [Res.call, setupCalls, initCalls]

/-- In AF_XDP mode the setup allocates the workers array and, for each worker, its socket array
and its thread. -/
lemma mem_setupCalls_of_afXdp (hm : conf.workingMode.afXdpBit = true) :
    Res.workers.call ∈ setupCalls conf ∧ ∀ w < conf.workers.toNat,
      (Res.xsks w).call ∈ setupCalls conf ∧ (Res.thread w).call ∈ setupCalls conf := by
  refine ⟨by simp [Res.call, setupCalls, initCalls, hm], fun w hw => ?_⟩
  have hw' := Int.lt_toNat.1 hw
  refine ⟨?_, by simp [Res.call, setupCalls, startCalls, hm, hw']⟩
  simp [Res.call, setupCalls, initCalls, hm]
  exact .inl ⟨w, hw', .inl rfl⟩

end Held

/-! ### Releasing sets of objects -/

/-- `c'` is `c` with the objects of `S` released: each one gone if it was live, none if it
was never created; nothing else changes. -/
structure Drops (c c' : Ctl) (S : Res → Bool) : Prop where
  get : ∀ r, c'.get r = if S r then (c.get r).drop else c.get r
  egress : c'.egress = c.egress

namespace Drops

variable {c c' c'' : Ctl} {S T : Res → Bool}

lemma refl (c : Ctl) : Drops c c fun _ => false := ⟨fun _ => rfl, rfl⟩

lemma trans (h₁ : Drops c c' S) (h₂ : Drops c' c'' T) : Drops c c'' fun r => S r || T r :=
  ⟨fun r => by rw [h₂.get, h₁.get]; cases S r <;> cases T r <;> simp, h₂.egress.trans h₁.egress⟩

lemma congr (h : Drops c c' S) (hS : ∀ r, S r = true ↔ T r = true) : Drops c c' T :=
  ⟨fun r => by rw [h.get, Bool.eq_iff_iff.2 (hS r)], h.egress⟩

lemma get_eq (h : Drops c c' S) {r : Res} (hr : S r = false) : c'.get r = c.get r := by
  rw [h.get, hr]; rfl

/-- A step that releases one object. -/
lemma single {r₀ : Res} (h₀ : c'.get r₀ = (c.get r₀).drop) (h : ∀ r, r ≠ r₀ → c'.get r = c.get r)
    (he : c'.egress = c.egress) : Drops c c' fun r => decide (r = r₀) :=
  ⟨fun r => by by_cases hr : r = r₀ <;> simp [hr, h₀, h r], he⟩

end Drops

/-- The objects that steps `0, …, k-1` of a fold release, when step `j` releases `step j`. -/
def below (step : Nat → Res → Bool) (k : Nat) (r : Res) : Bool :=
  (List.range k).any fun j => step j r

@[simp] lemma below_eq_true {step : Nat → Res → Bool} {k : Nat} {r : Res} :
    below step k r = true ↔ ∃ j < k, step j r = true := by
  simp [below]

@[simp] lemma below_eq_false {step : Nat → Res → Bool} {k : Nat} {r : Res} :
    below step k r = false ↔ ∀ j < k, step j r = false := by
  simp [below]

lemma below_succ (step : Nat → Res → Bool) (k : Nat) (r : Res) :
    below step (k + 1) r = (below step k r || step k r) := by
  simp [below, List.range_succ]

/-- The worker threads below `k`. -/
def threadsBelow : Nat → Res → Bool := below fun w r => decide (r = .thread w)

/-- The sockets of worker `w` on the interfaces below `k`. -/
def socketsBelow (w : Nat) : Nat → Res → Bool := below fun i r => decide (r = .socket w i)

/-- The socket array, the UMEMs and the regions of worker `w`. -/
def workerRegions (w : Nat) : Res → Bool
  | .xsks v | .buffer v | .umem v | .copyBuffer v | .copyUmem v => decide (v = w)
  | _ => false

/-- What releasing worker `w` releases, with `n` interfaces. -/
def workerObjs (n w : Nat) (r : Res) : Bool := socketsBelow w n r || workerRegions w r

/-- The objects of the workers below `k`, with `n` interfaces. -/
def workersBelow (n : Nat) : Nat → Res → Bool := below (workerObjs n)

/-- The XDP attachments of the interfaces below `k`. -/
def xdpBelow : Nat → Res → Bool := below fun i r => decide (r = .xdp i)

/-- The `clsact` qdiscs of the interfaces below `k`. -/
def clsactBelow (k : Nat) : Res → Bool
  | .clsact i => decide (i < k)
  | _ => false

/-- No worker object is a thread. -/
lemma threadsBelow_of_workersBelow {n k k' : Nat} {r : Res} (h : workersBelow n k r = true) :
    threadsBelow k' r = false := by
  cases r <;> simp_all [workersBelow, workerObjs, socketsBelow, workerRegions, threadsBelow]

/-- A fold over `0, …, k-1` whose step `j` releases `step j`, when every step, run after the
ones before it, returns. -/
lemma foldlM_drops {c : Ctl} {f : Ctl → Nat → Except Fault Ctl} {s : Nat → Res → Bool} :
    ∀ {k : Nat}, (∀ j < k, ∀ c', Drops c c' (below s j) →
      ∃ c'', f c' j = .ok c'' ∧ Drops c' c'' (s j)) →
    ∃ c', (List.range k).foldlM f c = .ok c' ∧ Drops c c' (below s k)
  | 0, _ => ⟨c, rfl, (Drops.refl c).congr fun r => by simp⟩
  | k + 1, hf => by
    obtain ⟨c₁, h₁, d₁⟩ := foldlM_drops (k := k) fun j hj => hf j (by omega)
    obtain ⟨c₂, h₂, d₂⟩ := hf k (by omega) c₁ d₁
    refine ⟨c₂, by rw [List.range_succ, List.foldlM_append, h₁, ok_bind, List.foldlM_cons, h₂]; rfl,
      (d₁.trans d₂).congr fun r => by rw [below_succ]⟩

/-! ### The phases of the cleanup -/

section Phases

variable {conf : ArgsConfig} {c : Ctl}

lemma joinWorker_drops {w : Nat} (hw : c.workers = .live) (ht : c.thread w = .live) :
    ∃ c', joinWorker c w = .ok c' ∧ Drops c c' fun r => decide (r = .thread w) := by
  refine ⟨_, by rw [joinWorker_eq, if_pos ⟨hw, ht⟩], .single ?_ (fun r hr => ?_) ?_⟩
  · simp [Ctl.get, ht]
  · cases r <;> simp_all [Ctl.get, Function.update_apply]
  · rfl

lemma releaseSocket_drops {w i : Nat} (hw : c.workers = .live) (hx : c.xsks w = .live)
    (hs : c.socket w i ≠ .gone) :
    ∃ c', releaseSocket w c i = .ok c' ∧ Drops c c' fun r => decide (r = .socket w i) := by
  refine ⟨_, by simp only [releaseSocket, deref, hw, hx, if_true, release_eq hs]; rfl,
    .single ?_ (fun r hr => ?_) ?_⟩
  · simp [Ctl.get]
  · cases r
    case socket v j =>
      by_cases hv : v = w
      · subst hv; simp_all [Ctl.get]
      · simp [Ctl.get, hv]
    all_goals simp_all [Ctl.get]
  · rfl

/-- Freeing the UMEMs, the regions and the socket array of worker `w`. -/
lemma dropRegions (c : Ctl) (w : Nat) : Drops c { c with
    umem := Function.update c.umem w (c.umem w).drop
    buffer := Function.update c.buffer w (c.buffer w).drop
    copyUmem := Function.update c.copyUmem w (c.copyUmem w).drop
    copyBuffer := Function.update c.copyBuffer w (c.copyBuffer w).drop
    xsks := Function.update c.xsks w (c.xsks w).drop } (workerRegions w) :=
  ⟨fun r => by
    cases r <;> simp only [Ctl.get, workerRegions, Function.update_apply] <;> split_ifs <;> simp_all, rfl⟩

lemma detachXdp_drops {i : Nat} (hi : c.ifindexes = .live) :
    ∃ c', detachXdp c i = .ok c' ∧ Drops c c' fun r => decide (r = .xdp i) := by
  refine ⟨_, by simp only [detachXdp, deref, hi, if_true]; rfl, .single ?_ (fun r hr => ?_) ?_⟩
  · simp [Ctl.get]
  · cases r <;> simp_all [Ctl.get, Function.update_apply]
  · rfl

lemma delClsact_drops (c : Ctl) : Drops c (delClsact conf c) (clsactBelow conf.numInterfaces) :=
  ⟨fun r => by cases r <;> simp [Ctl.get, delClsact, clsactBelow], rfl⟩

/-- `xsknf_stop_workers` joins every worker thread. -/
lemma stopWorkers_drops
    (h : conf.workingMode.afXdpBit → c.workers = .live ∧ ∀ w < conf.workers.toNat, c.thread w = .live) :
    ∃ c', stopWorkers conf c = .ok c' ∧
      Drops c c' fun r => conf.workingMode.afXdpBit && threadsBelow conf.workers.toNat r := by
  unfold stopWorkers
  split
  · rename_i hm
    obtain ⟨c', h', d⟩ := foldlM_drops (f := joinWorker) (s := fun w r => decide (r = .thread w))
      fun j hj c' d => joinWorker_drops
      ((d.get_eq (r := .workers) (by simp)).trans (h hm).1)
      ((d.get_eq (r := .thread j) (by simp; exact fun _ h => by omega)).trans ((h hm).2 j hj))
    exact ⟨c', h', d.congr fun r => by simp [hm, threadsBelow]⟩
  · rename_i hm
    exact ⟨c, rfl, (Drops.refl c).congr fun r => by simp [hm]⟩

/-- Releasing worker `w` releases its sockets, UMEMs, regions and socket array. -/
lemma releaseWorker_drops {w : Nat} (hw : c.workers = .live) (hx : c.xsks w = .live)
    (hng : ∀ r, workerObjs conf.numInterfaces w r = true → c.get r ≠ .gone) :
    ∃ c', releaseWorker conf c w = .ok c' ∧ Drops c c' (workerObjs conf.numInterfaces w) := by
  obtain ⟨c₁, h₁, d₁⟩ := foldlM_drops (k := conf.numInterfaces) (f := releaseSocket w)
    (s := fun i r => decide (r = .socket w i))
    fun i hi c' d => releaseSocket_drops ((d.get_eq (r := .workers) (by simp)).trans hw)
      ((d.get_eq (r := .xsks w) (by simp)).trans hx)
      ((d.get_eq (r := .socket w i) (by simp; exact fun _ h => by omega)).trans_ne
        (hng (.socket w i) (by simp [workerObjs, socketsBelow, hi])))
  have e : ∀ r, workerRegions w r = true → c₁.get r ≠ .gone := fun r hr => by
    rw [d₁.get_eq (by cases r <;> simp_all [workerRegions])]
    exact hng r (by simp [workerObjs, hr])
  have hw₁ : c₁.workers = .live := (d₁.get_eq (r := .workers) (by simp)).trans hw
  have hu : c₁.umem w ≠ .gone := e (.umem w) (by simp [workerRegions])
  have hcu : c₁.copyUmem w ≠ .gone := e (.copyUmem w) (by simp [workerRegions])
  have hx₁ : c₁.xsks w ≠ .gone := e (.xsks w) (by simp [workerRegions])
  refine ⟨_, ?_, d₁.trans (dropRegions c₁ w)⟩
  simp only [releaseWorker, h₁, ok_bind, deref, if_pos hw₁, release_eq hu, release_eq hcu,
    release_eq hx₁]
  rfl

/-- The objects of worker `j` are none of the earlier workers'. -/
lemma workersBelow_of_workerObjs {n j : Nat} {r : Res} (h : workerObjs n j r = true) :
    workersBelow n j r = false := by
  cases r <;> simp_all [workerObjs, workersBelow, socketsBelow, workerRegions] <;> omega

/-- Freeing the workers array. -/
lemma dropWorkers (c : Ctl) : Drops c { c with workers := c.workers.drop } fun r => decide (r = .workers) :=
  ⟨fun r => by cases r <;> simp [Ctl.get], rfl⟩

/-- Freeing the ifindex table. -/
lemma dropIfindexes (c : Ctl) :
    Drops c { c with ifindexes := c.ifindexes.drop } fun r => decide (r = .ifindexes) :=
  ⟨fun r => by cases r <;> simp [Ctl.get], rfl⟩

/-- The worker half of `xsknf_cleanup` releases every worker's objects and the workers array. -/
lemma releaseWorkers_drops
    (h : conf.workingMode.afXdpBit → c.workers = .live ∧
      (∀ w < conf.workers.toNat, c.xsks w = .live) ∧
      ∀ r, workersBelow conf.numInterfaces conf.workers.toNat r = true → c.get r ≠ .gone) :
    ∃ c', releaseWorkers conf c = .ok c' ∧ Drops c c' fun r => conf.workingMode.afXdpBit &&
      (workersBelow conf.numInterfaces conf.workers.toNat r || decide (r = .workers)) := by
  unfold releaseWorkers
  split
  · rename_i hm
    obtain ⟨hw, hx, hng⟩ := h hm
    obtain ⟨c₁, h₁, d₁⟩ := foldlM_drops (k := conf.workers.toNat) (f := releaseWorker conf)
      (s := workerObjs conf.numInterfaces) fun j hj c' d => releaseWorker_drops
        ((d.get_eq (r := .workers) (by simp [workerObjs, socketsBelow, workerRegions])).trans hw)
        ((d.get_eq (r := .xsks j) (workersBelow_of_workerObjs (by simp [workerObjs, workerRegions]))).trans
          (hx j hj))
        fun r hr => (d.get_eq (workersBelow_of_workerObjs hr)).trans_ne
          (hng r (below_eq_true.2 ⟨j, hj, hr⟩))
    have hw₁ : c₁.workers ≠ .gone :=
      ((d₁.get_eq (r := .workers) (by simp [workerObjs, socketsBelow, workerRegions])).trans
        hw).trans_ne (by decide)
    refine ⟨_, by rw [h₁, ok_bind, release_eq hw₁]; rfl, (d₁.trans (dropWorkers c₁)).congr
      fun r => by simp [hm, workersBelow]⟩
  · rename_i hm
    exact ⟨c, rfl, (Drops.refl c).congr fun r => by simp [hm]⟩

/-- The interface half of `xsknf_cleanup` detaches XDP from every interface, deletes the
qdiscs when the egress program was installed, and frees the ifindex table. -/
lemma releaseIfaces_drops (hi : c.ifindexes = .live) :
    ∃ c', releaseIfaces conf c = .ok c' ∧ Drops c c' fun r =>
      xdpBelow conf.numInterfaces r || (c.egress && clsactBelow conf.numInterfaces r) ||
        decide (r = .ifindexes) := by
  obtain ⟨c₁, h₁, d₁⟩ := foldlM_drops (k := conf.numInterfaces) (f := detachXdp)
    (s := fun i r => decide (r = .xdp i)) fun i _ c' d =>
      detachXdp_drops ((d.get_eq (r := .ifindexes) (by simp)).trans hi)
  have d₂ : Drops c₁ (if c₁.egress then delClsact conf c₁ else c₁) fun r =>
      c₁.egress && clsactBelow conf.numInterfaces r := by
    split
    · exact (delClsact_drops c₁).congr fun r => by simp [*]
    · exact (Drops.refl c₁).congr fun r => by simp [*]
  have hi₂ : (if c₁.egress then delClsact conf c₁ else c₁).ifindexes ≠ .gone :=
    ((d₂.get_eq (r := .ifindexes) (by simp [clsactBelow])).trans
      ((d₁.get_eq (r := .ifindexes) (by simp)).trans hi)).trans_ne (by decide)
  refine ⟨_, by rw [releaseIfaces, h₁, ok_bind, release_eq hi₂]; rfl,
    ((d₁.trans d₂).trans (dropIfindexes _)).congr fun r => by rw [d₁.egress, xdpBelow]⟩

end Phases

/-! ### The whole cleanup -/

/-- What `xsknf_cleanup` releases: the threads, the workers' objects and the workers array
in AF_XDP mode, then XDP on every interface, the qdiscs if the egress program was
installed, and the ifindex table. -/
def cleanupSet (conf : ArgsConfig) (egress : Bool) (r : Res) : Bool :=
  (conf.workingMode.afXdpBit && threadsBelow conf.workers.toNat r) ||
    (conf.workingMode.afXdpBit &&
      (workersBelow conf.numInterfaces conf.workers.toNat r || decide (r = .workers))) ||
    (xdpBelow conf.numInterfaces r || (egress && clsactBelow conf.numInterfaces r) ||
      decide (r = .ifindexes))

section Whole

variable (conf : ArgsConfig)

/-- With an egress program on at least one interface, the setup installs the last filter. -/
lemma held_egress (hx : conf.workingMode.xdpBit = true) (ht : conf.tcProgname ≠ [])
    (hn : 0 < conf.numInterfaces) : (held conf (setupCalls conf).length).egress = true := by
  rw [held, List.take_length]
  refine foldl_acquire_egress conf _ _ (.inr ?_) hn
  simp [setupCalls, initCalls, hx, ht, hn]

lemma cleanupSet_of_regions {egress : Bool} {w : Nat} {r : Res}
    (hm : conf.workingMode.afXdpBit = true) (hw : w < conf.workers.toNat)
    (hr : workerRegions w r = true) : cleanupSet conf egress r = true := by
  have : workersBelow conf.numInterfaces conf.workers.toNat r = true :=
    below_eq_true.2 ⟨w, hw, by simp [workerObjs, hr]⟩
  simp [cleanupSet, hm, this]

/-- Every object the setup acquires is one the cleanup releases. -/
lemma cleanupSet_of_mem {r : Res} (hr : r.call ∈ setupCalls conf) :
    cleanupSet conf (held conf (setupCalls conf).length).egress r = true := by
  cases r <;> simp [Res.call, setupCalls, initCalls, startCalls, socketCalls] at hr
  case clsact i => simp [cleanupSet, clsactBelow, held_egress conf hr.1 hr.2.1 (by omega), hr.2.2]
  case buffer w | umem w | copyBuffer w | copyUmem w =>
    obtain ⟨hm, v, hv, -, -, -, rfl, -⟩ := hr
    exact cleanupSet_of_regions conf hm (Int.lt_toNat.2 hv) (by simp [workerRegions])
  all_goals simp_all [cleanupSet, threadsBelow, workersBelow, workerObjs, socketsBelow,
    workerRegions, xdpBelow]

/-- After a complete setup, one `xsknf_cleanup` returns, and releases every object the setup
acquired and nothing else. -/
theorem cleanup_after_setup :
    ∃ ctl, cleanup conf (held conf (setupCalls conf).length) = .ok ctl ∧
      ∀ r, ctl.get r = ((held conf (setupCalls conf).length).get r).drop := by
  set c := held conf (setupCalls conf).length
  have hlive : ∀ r, r.call ∈ setupCalls conf → c.get r = .live := fun r h => by
    rw [held_get, if_pos h]
  have hng : ∀ r, c.get r ≠ .gone := fun r => by rw [held_get]; split <;> decide
  obtain ⟨c₁, h₁, d₁⟩ := stopWorkers_drops (c := c) fun hm =>
    ⟨hlive _ (mem_setupCalls_of_afXdp conf hm).1,
      fun w hw => hlive _ ((mem_setupCalls_of_afXdp conf hm).2 w hw).2⟩
  obtain ⟨c₂, h₂, d₂⟩ := releaseWorkers_drops (c := c₁) fun hm =>
    ⟨(d₁.get_eq (r := .workers) (by simp [threadsBelow])).trans
        (hlive _ (mem_setupCalls_of_afXdp conf hm).1),
      fun w hw => (d₁.get_eq (r := .xsks w) (by simp [threadsBelow])).trans
        (hlive _ ((mem_setupCalls_of_afXdp conf hm).2 w hw).1),
      fun r hr => (d₁.get_eq (by rw [threadsBelow_of_workersBelow hr, Bool.and_false])).trans_ne
        (hng r)⟩
  obtain ⟨c₃, h₃, d₃⟩ := @releaseIfaces_drops conf c₂
    ((d₂.get_eq (r := .ifindexes) (by simp [workersBelow, workerObjs, socketsBelow,
      workerRegions])).trans ((d₁.get_eq (r := .ifindexes) (by simp [threadsBelow])).trans
        (hlive _ (ifindexes_mem_setupCalls conf))))
  refine ⟨c₃, by rw [cleanup, h₁, ok_bind, h₂, ok_bind, h₃], fun r => ?_⟩
  -- what the three phases release is what the setup acquired
  rw [((d₁.trans d₂).trans d₃).get]
  split
  · rfl
  · rename_i hS
    have hr : r.call ∉ setupCalls conf := fun h => hS (by
      rw [d₂.egress, d₁.egress]; exact cleanupSet_of_mem conf h)
    rw [held_get, if_neg hr]; rfl

end Whole

end Xsknf
