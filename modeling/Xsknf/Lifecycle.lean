import Xsknf.ParseArgs

/-!
# Setting up and tearing down

`xsknf_init` acquires, in order, the ifindex table, the workers array and, per worker, its
socket array, its UMEM regions (mapped when the first socket of their mode needs them: one
for zero-copy sockets, one for copy-mode sockets) and its AF_XDP sockets; then the XDP
program's attachments and the `clsact` qdiscs of the egress program.
`xsknf_start_workers` creates the worker threads.  Each fallible call ends, when it fails,
either in `exit_with_error`, which runs `xsknf_cleanup` before exiting, or in a plain
`exit(EXIT_FAILURE)`.  The model lists the fallible calls in program order (`setupCalls`),
with what each acquires (`acquire`) and how it fails (`Call.cleansUp`); a run is the
choice of the call that fails (`lifecycle`).

`xsknf_cleanup` keeps no record of what it acquired.  It walks every worker and interface of
the configuration and uses every pointer it finds there: `xsknf_stop_workers` joins
`conf.workers` threads and the socket loop reads `workers[w].xsks[i]`.  So in AF_XDP mode
every failure of `xsknf_init` that runs it joins a thread that was never created
(`cleanup_faults_in_init`), and a second cleanup joins the threads again
(`cleanup_twice_faults`); a plain exit leaves the XDP program attached
(`plain_exit_keeps_xdp`).
-/

namespace Xsknf

/-- An object the control plane may hold: a heap block, a mapping, a kernel object or a
thread, named by a global pointer or handle.  It is `none` before it is created (the pointer
`NULL`, or the handle zero as `calloc` leaves it), `live` until it is released, and `gone`
after, while the global still holds its old value. -/
inductive Obj
  | none
  | live
  | gone
deriving DecidableEq, Repr

/-- The globals of the control plane and what they name: `ifindexes`, `workers`, and for each
worker `w` the fields `xsks`, `buffer`, `umem`, `copy_buffer`, `copy_umem` and `thread` of
`workers[w]` and its sockets `workers[w].xsks[i].xsk`; for each interface `i`, the XDP program
attached to it and its `clsact` qdisc with the egress filter in it; and
`egress_ebpf_program`. -/
structure Ctl where
  ifindexes : Obj
  workers : Obj
  xsks : Nat → Obj
  buffer : Nat → Obj
  umem : Nat → Obj
  copyBuffer : Nat → Obj
  copyUmem : Nat → Obj
  socket : Nat → Nat → Obj
  thread : Nat → Obj
  xdp : Nat → Obj
  clsact : Nat → Obj
  egress : Bool

def Ctl.init : Ctl :=
  { ifindexes := .none, workers := .none, xsks := fun _ => .none, buffer := fun _ => .none,
    umem := fun _ => .none, copyBuffer := fun _ => .none, copyUmem := fun _ => .none,
    socket := fun _ _ => .none, thread := fun _ => .none, xdp := fun _ => .none,
    clsact := fun _ => .none, egress := false }

/-- `working_mode & MODE_AF_XDP`; `xdpBit` is `working_mode & MODE_XDP`. -/
def WorkingMode.afXdpBit : WorkingMode → Bool
  | .afXdp => true
  | .xdp => false
  | .combined => true

def WorkingMode.xdpBit : WorkingMode → Bool
  | .afXdp => false
  | .xdp => true
  | .combined => true

/-- `conf.bind_flags[i]` after `xsknf_init` adjusts it: copy mode for every socket under
`XDP_FLAGS_SKB_MODE`, zero-copy when no mode was asked for. -/
def initBindFlags (conf : ArgsConfig) (i : Nat) : Nat :=
  let f := conf.bindFlags i
  let f := if conf.xdpFlags &&& xdpFlagsSkbMode ≠ 0 then Nat.ldiff f xdpZerocopy ||| xdpCopy else f
  if f &&& (xdpCopy ||| xdpZerocopy) = 0 then f ||| xdpZerocopy else f

def initCopy (conf : ArgsConfig) (i : Nat) : Bool := initBindFlags conf i &&& xdpCopy ≠ 0

/-! ### The fallible calls -/

/-- The fallible calls of `xsknf_init` and `xsknf_start_workers`, by call site, each named
after the function it calls.  `mmap w copy` and `umemCreate w copy` map and register
`workers[w].buffer`, or `copy_buffer` when `copy`; `socketCreate w i` creates the socket of
interface `i` on queue `w`, `setsockopt w i opt` sets its busy-poll option `opt`, and
`fillReserve w i` is the reservation priming its fill ring.  `qdisc i` and `filter i` are the
netlink requests adding the `clsact` qdisc and the egress filter of interface `i`,
`mapUpdate i w` writes the `xsks` map, and `enoughCpus` is the check that there are as many
CPUs as workers. -/
inductive Call
  | mallocIfindexes
  | nametoindex (i : Nat)
  | callocWorkers
  | callocXsks (w : Nat)
  | mmap (w : Nat) (copy : Bool)
  | umemCreate (w : Nat) (copy : Bool)
  | socketCreate (w i : Nat)
  | setsockopt (w i opt : Nat)
  | fillReserve (w i : Nat)
  | bpfOpen
  | bpfNextProgram
  | bpfLoad
  | xdpAttach (i : Nat)
  | mnlOpen
  | mnlBind
  | qdisc (i : Nat)
  | filter (i : Nat)
  | mapUpdate (i w : Nat)
  | getaffinity
  | enoughCpus
  | pthreadCreate (w : Nat)
  | setaffinity (w : Nat)
deriving DecidableEq, Repr

/-- Whether a failure of the call runs `xsknf_cleanup` (through `exit_with_error`, or by
hand for too few CPUs) before exiting; the others call `exit(EXIT_FAILURE)` directly. -/
def Call.cleansUp : Call → Bool
  | .mallocIfindexes | .callocWorkers | .callocXsks _ | .mmap _ _ | .umemCreate _ _
  | .socketCreate _ _ | .setsockopt _ _ _ | .fillReserve _ _
  | .getaffinity | .enoughCpus | .pthreadCreate _ | .setaffinity _ => true
  | _ => false

/-- The sockets of worker `w`, for each interface in turn: the UMEM region of its mode if it
is the first socket of that mode, then `xsk_configure_socket`. -/
def socketCalls (conf : ArgsConfig) (w : Nat) : List Call :=
  (List.range conf.numInterfaces).flatMap fun i =>
    (if (List.range i).any (initCopy conf · = initCopy conf i) then []
      else [.mmap w (initCopy conf i), .umemCreate w (initCopy conf i)]) ++
    .socketCreate w i ::
    (if conf.busyPoll && !initCopy conf i then
      [.setsockopt w i 0, .setsockopt w i 1, .setsockopt w i 2] else []) ++
    [.fillReserve w i]

/-- The fallible calls of `xsknf_init`, in program order. -/
def initCalls (conf : ArgsConfig) : List Call :=
  let n := conf.numInterfaces
  let workers := conf.workers.toNat
  .mallocIfindexes :: (List.range n).map .nametoindex ++
  (if conf.workingMode.afXdpBit then
    .callocWorkers :: (List.range workers).flatMap fun w => .callocXsks w :: socketCalls conf w
  else []) ++
  (if conf.workingMode.xdpBit then
    [.bpfOpen, .bpfNextProgram, .bpfLoad] ++ (List.range n).map .xdpAttach ++
    (if conf.tcProgname ≠ [] then
      [.mnlOpen, .mnlBind] ++ (List.range n).flatMap fun i => [.qdisc i, .filter i]
    else []) ++
    (if conf.workingMode.afXdpBit then
      (List.range n).flatMap fun i => (List.range workers).map (.mapUpdate i)
    else [])
  else [])

/-- The fallible calls of `xsknf_start_workers`, in program order. -/
def startCalls (conf : ArgsConfig) : List Call :=
  if conf.workingMode.afXdpBit then
    [.getaffinity, .enoughCpus] ++
      (List.range conf.workers.toNat).flatMap fun w => [.pthreadCreate w, .setaffinity w]
  else []

def setupCalls (conf : ArgsConfig) : List Call := initCalls conf ++ startCalls conf

/-- What a call that succeeds acquires.  A qdisc is released with the filter in it, and
`egress_ebpf_program` is set once the last filter is in. -/
def acquire (conf : ArgsConfig) (ctl : Ctl) : Call → Ctl
  | .mallocIfindexes => { ctl with ifindexes := .live }
  | .callocWorkers => { ctl with workers := .live }
  | .callocXsks w => { ctl with xsks := Function.update ctl.xsks w .live }
  | .mmap w false => { ctl with buffer := Function.update ctl.buffer w .live }
  | .mmap w true => { ctl with copyBuffer := Function.update ctl.copyBuffer w .live }
  | .umemCreate w false => { ctl with umem := Function.update ctl.umem w .live }
  | .umemCreate w true => { ctl with copyUmem := Function.update ctl.copyUmem w .live }
  | .socketCreate w i =>
    { ctl with socket := Function.update ctl.socket w (Function.update (ctl.socket w) i .live) }
  | .xdpAttach i => { ctl with xdp := Function.update ctl.xdp i .live }
  | .qdisc i => { ctl with clsact := Function.update ctl.clsact i .live }
  | .filter i => if i + 1 = conf.numInterfaces then { ctl with egress := true } else ctl
  | .pthreadCreate w => { ctl with thread := Function.update ctl.thread w .live }
  | _ => ctl

/-- What the globals name once the first `k` fallible calls have succeeded. -/
def held (conf : ArgsConfig) (k : Nat) : Ctl :=
  ((setupCalls conf).take k).foldl (acquire conf) Ctl.init

/-! ### `xsknf_cleanup` -/

/-- `pthread_join`: only a thread created and not joined yet can be joined.  The call returns
once the thread has returned, and the model gives what it returns then: whether a
`worker_loop` returns once `stop_workers` is set is the subject of `Stop.lean` and
`Liveness.lean`, and when it does not, the join waits forever. -/
def join : Obj → Except Fault Obj
  | .live => pure .gone
  | _ => throw .invalidObject

/-- `free`, `xsk_socket__delete` and `xsk_umem__delete`: nothing on `NULL`, undefined on
what was released before. -/
def release : Obj → Except Fault Obj
  | .none => pure .none
  | .live => pure .gone
  | .gone => throw .invalidObject

/-- `munmap`, detaching XDP, deleting a qdisc: what is not there is not released. -/
def Obj.drop : Obj → Obj
  | .live => .gone
  | o => o

def deref (o : Obj) : Except Fault Unit :=
  if o = .live then pure () else throw .invalidObject

/-- `pthread_join(workers[w].thread, NULL)`. -/
def joinWorker (ctl : Ctl) (w : Nat) : Except Fault Ctl := do
  deref ctl.workers
  let t ← join (ctl.thread w)
  pure { ctl with thread := Function.update ctl.thread w t }

/-- `xsknf_stop_workers`: after setting the stop flag, join every worker thread. -/
def stopWorkers (conf : ArgsConfig) (ctl : Ctl) : Except Fault Ctl :=
  if conf.workingMode.afXdpBit then (List.range conf.workers.toNat).foldlM joinWorker ctl
  else pure ctl

/-- `xsk_socket__delete(workers[w].xsks[i].xsk)`. -/
def releaseSocket (w : Nat) (ctl : Ctl) (i : Nat) : Except Fault Ctl := do
  deref ctl.workers
  deref (ctl.xsks w)
  let s ← release (ctl.socket w i)
  pure { ctl with socket := Function.update ctl.socket w (Function.update (ctl.socket w) i s) }

/-- The sockets of worker `w`, its UMEMs, its regions and its socket array. -/
def releaseWorker (conf : ArgsConfig) (ctl : Ctl) (w : Nat) : Except Fault Ctl := do
  let ctl ← (List.range conf.numInterfaces).foldlM (releaseSocket w) ctl
  deref ctl.workers
  let umem ← release (ctl.umem w)
  let copyUmem ← release (ctl.copyUmem w)
  let xsks ← release (ctl.xsks w)
  pure { ctl with
    umem := Function.update ctl.umem w umem
    buffer := Function.update ctl.buffer w (ctl.buffer w).drop
    copyUmem := Function.update ctl.copyUmem w copyUmem
    copyBuffer := Function.update ctl.copyBuffer w (ctl.copyBuffer w).drop
    xsks := Function.update ctl.xsks w xsks }

/-- `bpf_xdp_attach(ifindexes[i], -1, conf.xdp_flags, NULL)`. -/
def detachXdp (ctl : Ctl) (i : Nat) : Except Fault Ctl := do
  deref ctl.ifindexes
  pure { ctl with xdp := Function.update ctl.xdp i (ctl.xdp i).drop }

/-- `del_clsact_qdiscs`. -/
def delClsact (conf : ArgsConfig) (ctl : Ctl) : Ctl :=
  { ctl with clsact := fun i => if i < conf.numInterfaces then (ctl.clsact i).drop else ctl.clsact i }

/-- The worker half of `xsknf_cleanup`: every worker's objects, then the workers array. -/
def releaseWorkers (conf : ArgsConfig) (ctl : Ctl) : Except Fault Ctl :=
  if conf.workingMode.afXdpBit then do
    let ctl ← (List.range conf.workers.toNat).foldlM (releaseWorker conf) ctl
    let workers ← release ctl.workers
    pure { ctl with workers }
  else pure ctl

/-- The interface half of `xsknf_cleanup`: XDP detached from every interface, the qdiscs
deleted if the egress program was installed, the ifindex table freed. -/
def releaseIfaces (conf : ArgsConfig) (ctl : Ctl) : Except Fault Ctl := do
  let ctl ← (List.range conf.numInterfaces).foldlM detachXdp ctl
  let ifindexes ← release (if ctl.egress then delClsact conf ctl else ctl).ifindexes
  pure { (if ctl.egress then delClsact conf ctl else ctl) with ifindexes }

/-- `xsknf_cleanup`. -/
def cleanup (conf : ArgsConfig) (ctl : Ctl) : Except Fault Ctl :=
  stopWorkers conf ctl >>= releaseWorkers conf >>= releaseIfaces conf

/-- How a run of `xsknf_init` and `xsknf_start_workers` ends: no call failed and the workers
run with what the globals name, or the process exited holding what they still name, or the
cleanup of the failure path went wrong. -/
inductive Outcome
  | running (ctl : Ctl)
  | exited (ctl : Ctl)
  | faulted (f : Fault)

/-- The run in which fallible call `k` fails and the calls before it succeed. -/
def lifecycle (conf : ArgsConfig) (k : Nat) : Outcome :=
  match (setupCalls conf)[k]? with
  | none => .running (held conf k)
  | some c =>
    if c.cleansUp then
      match cleanup conf (held conf k) with
      | .ok ctl => .exited ctl
      | .error f => .faulted f
    else .exited (held conf k)

/-! ### The `xsks` map -/

/-- One update of `enter_xsks_into_map`: `key = wrk_idx`, and the value is the socket
`workers[wrk_idx].xsks[if_idx].xsk`, named by its worker and interface. -/
def mapEntry (ifIdx : Nat) (m : Nat → Option (Nat × Nat)) (wrkIdx : Nat) : Nat → Option (Nat × Nat) :=
  Function.update m wrkIdx (some (wrkIdx, ifIdx))

/-- The entries of the `xsks` map after `enter_xsks_into_map`, when every
`bpf_map_update_elem` succeeds. -/
def enterXsksIntoMap (conf : ArgsConfig) : Nat → Option (Nat × Nat) :=
  (List.range conf.numInterfaces).foldl
    (fun m ifIdx => (List.range conf.workers.toNat).foldl (mapEntry ifIdx) m) fun _ => none

/-! ### Folds -/

section Folds

variable {α σ ε : Type} {f : σ → α → Except ε σ}

/-- A fold fails with `e` if its step at `a` does from every state where `P` holds, and its
steps at the other elements keep `P` or fail with `e`. -/
lemma foldlM_eq_error {P : σ → Prop} {a : α} {e : ε}
    (hstep : ∀ s b, P s → b ≠ a → f s b = .error e ∨ ∃ s', f s b = .ok s' ∧ P s')
    (hfail : ∀ s, P s → f s a = .error e) :
    ∀ {l : List α} {s : σ}, a ∈ l → P s → l.foldlM f s = .error e
  | [], _, ha, _ => absurd ha (List.not_mem_nil _)
  | b :: _, s, ha, hs => by
    rw [List.foldlM_cons]
    by_cases hb : b = a
    · subst hb
      rw [hfail s hs]
      rfl
    · rcases hstep s b hs hb with h | ⟨s', h, hs'⟩
      · rw [h]
        rfl
      · rw [h, ok_bind]
        exact foldlM_eq_error hstep hfail ((List.mem_cons.1 ha).resolve_left (Ne.symm hb)) hs'

end Folds

/-! ### Joining the workers -/

variable {conf : ArgsConfig} {ctl ctl' : Ctl}

lemma joinWorker_eq (ctl : Ctl) (w : Nat) :
    joinWorker ctl w = if ctl.workers = .live ∧ ctl.thread w = .live then
      .ok { ctl with thread := Function.update ctl.thread w .gone } else .error .invalidObject := by
  unfold joinWorker
  cases ctl.workers <;> cases ctl.thread w <;> rfl

lemma joinWorker_thread {w : Nat} (h : joinWorker ctl w = .ok ctl') :
    ctl'.thread = Function.update ctl.thread w .gone := by
  rw [joinWorker_eq] at h
  split at h
  · cases h; rfl
  · cases h

/-- In AF_XDP mode, stopping the workers fails when one of their threads is not running. -/
lemma stopWorkers_error (hmode : conf.workingMode.afXdpBit) {w : Nat} (hw : w < conf.workers.toNat)
    (ht : ctl.thread w ≠ .live) : stopWorkers conf ctl = .error .invalidObject := by
  rw [stopWorkers, if_pos hmode]
  refine foldlM_eq_error (P := fun c : Ctl => c.thread w ≠ .live) (fun c b hc hb => ?_)
    (fun c hc => ?_) (List.mem_range.2 hw) ht
  · rw [joinWorker_eq]
    split
    · exact .inr ⟨_, rfl, by simpa [Function.update_noteq (Ne.symm hb)] using hc⟩
    · exact .inl rfl
  · rw [joinWorker_eq, if_neg fun h => hc h.2]

lemma foldlM_joinWorker_gone : ∀ {l : List Nat} {ctl ctl' : Ctl},
    l.foldlM joinWorker ctl = .ok ctl' → ∀ w ∈ l, ctl'.thread w = .gone
  | [], _, _, _, _, hw => absurd hw (List.not_mem_nil _)
  | _ :: _, _, _, h, w, hw => by
    obtain ⟨c₁, h₁, h₂⟩ := bind_eq_ok h
    rcases List.mem_cons.1 hw with rfl | hw
    · refine foldlM_inv (P := fun c : Ctl => c.thread w = .gone) (fun c b c' hc hb => ?_)
        (by beta_reduce; rw [joinWorker_thread h₁, Function.update_same]) h₂
      beta_reduce at hc ⊢
      by_cases hbw : b = w
      · subst hbw
        rw [joinWorker_eq, if_neg fun h => absurd (hc.symm.trans h.2) (by decide)] at hb
        cases hb
      · rw [joinWorker_thread hb, Function.update_noteq (Ne.symm hbw), hc]
    · exact foldlM_joinWorker_gone h₂ w hw

lemma stopWorkers_gone (hmode : conf.workingMode.afXdpBit) (h : stopWorkers conf ctl = .ok ctl')
    {w : Nat} (hw : w < conf.workers.toNat) : ctl'.thread w = .gone := by
  rw [stopWorkers, if_pos hmode] at h
  exact foldlM_joinWorker_gone h w (List.mem_range.2 hw)

/-! ### What the rest of the cleanup leaves alone -/

lemma releaseSocket_thread {w i : Nat} (h : releaseSocket w ctl i = .ok ctl') :
    ctl'.thread = ctl.thread := by
  obtain ⟨_, -, h⟩ := bind_eq_ok h
  obtain ⟨_, -, h⟩ := bind_eq_ok h
  obtain ⟨_, -, h⟩ := bind_eq_ok h
  cases h
  rfl

lemma releaseWorker_thread {w : Nat} (h : releaseWorker conf ctl w = .ok ctl') :
    ctl'.thread = ctl.thread := by
  obtain ⟨c, hc, h⟩ := bind_eq_ok h
  iterate 4 obtain ⟨_, -, h⟩ := bind_eq_ok h
  cases h
  have e : c.thread = ctl.thread := foldlM_inv (P := fun c : Ctl => c.thread = ctl.thread)
    (fun _ _ _ he h => (releaseSocket_thread h).trans he) rfl hc
  exact e

lemma detachXdp_thread {i : Nat} (h : detachXdp ctl i = .ok ctl') : ctl'.thread = ctl.thread := by
  obtain ⟨_, -, h⟩ := bind_eq_ok h
  cases h
  rfl

lemma releaseWorkers_thread (h : releaseWorkers conf ctl = .ok ctl') :
    ctl'.thread = ctl.thread := by
  unfold releaseWorkers at h
  split at h
  · obtain ⟨c, hc, h⟩ := bind_eq_ok h
    obtain ⟨_, -, h⟩ := bind_eq_ok h
    cases h
    have e : c.thread = ctl.thread := foldlM_inv (P := fun c : Ctl => c.thread = ctl.thread)
      (fun _ _ _ he h => (releaseWorker_thread h).trans he) rfl hc
    exact e
  · cases h
    rfl

lemma releaseIfaces_thread (h : releaseIfaces conf ctl = .ok ctl') :
    ctl'.thread = ctl.thread := by
  obtain ⟨c, hc, h⟩ := bind_eq_ok h
  obtain ⟨_, -, h⟩ := bind_eq_ok h
  cases h
  have e : c.thread = ctl.thread := foldlM_inv (P := fun c : Ctl => c.thread = ctl.thread)
    (fun _ _ _ he h => (detachXdp_thread h).trans he) rfl hc
  split <;> exact e

/-! ### What the setup holds -/

lemma acquire_thread {c : Call} (hc : ∀ w, c ≠ .pthreadCreate w) :
    (acquire conf ctl c).thread = ctl.thread := by
  cases c with
  | pthreadCreate w => exact absurd rfl (hc w)
  | mmap w copy => cases copy <;> rfl
  | umemCreate w copy => cases copy <;> rfl
  | filter i => by_cases h : i + 1 = conf.numInterfaces <;> simp [acquire, h]
  | _ => rfl

lemma foldl_acquire_thread : ∀ {l : List Call} {ctl : Ctl}, (∀ c ∈ l, ∀ w, c ≠ .pthreadCreate w) →
    (l.foldl (acquire conf) ctl).thread = ctl.thread
  | [], _, _ => rfl
  | _ :: _, _, h => by
    rw [List.foldl_cons, foldl_acquire_thread fun c hc => h c (List.mem_cons_of_mem _ hc),
      acquire_thread (h _ (List.mem_cons_self _ _))]

lemma pthreadCreate_not_mem_initCalls (w : Nat) : Call.pthreadCreate w ∉ initCalls conf := by
  simp [initCalls, socketCalls]

/-- Until `xsknf_start_workers`, no worker thread exists. -/
lemma held_thread {k : Nat} (hk : k ≤ (initCalls conf).length) (w : Nat) :
    (held conf k).thread w = .none := by
  rw [held, setupCalls, List.take_append_of_le_length hk, foldl_acquire_thread]
  · rfl
  · rintro c hc w rfl
    exact pthreadCreate_not_mem_initCalls w (List.mem_of_mem_take hc)

/-! ### The failure paths -/

/-- In AF_XDP mode, every failure of `xsknf_init` that runs `xsknf_cleanup` has it join a
thread that was never created. -/
lemma cleanup_faults_in_init (hmode : conf.workingMode.afXdpBit) (hw : 0 < conf.workers)
    {k : Nat} (hk : k < (initCalls conf).length) (hc : ((initCalls conf)[k]).cleansUp) :
    lifecycle conf k = .faulted .invalidObject := by
  have hget : (setupCalls conf)[k]? = some (initCalls conf)[k] := by
    rw [setupCalls, List.getElem?_append_left hk, List.getElem?_eq_getElem hk]
  have hcl : cleanup conf (held conf k) = .error .invalidObject := by
    rw [cleanup, stopWorkers_error hmode (w := 0) (by omega)
      (by rw [held_thread hk.le]; decide)]
    rfl
  rw [lifecycle, hget]
  dsimp only
  rw [if_pos hc, hcl]

/-- In AF_XDP mode, a cleanup after a completed one joins the threads again. -/
lemma cleanup_twice_faults (hmode : conf.workingMode.afXdpBit) (hw : 0 < conf.workers)
    (h : cleanup conf ctl = .ok ctl') : cleanup conf ctl' = .error .invalidObject := by
  obtain ⟨c₂, h₁₂, h₃⟩ := bind_eq_ok h
  obtain ⟨c₁, h₁, h₂⟩ := bind_eq_ok h₁₂
  have hgone : ctl'.thread 0 = .gone := by
    rw [releaseIfaces_thread h₃, releaseWorkers_thread h₂, stopWorkers_gone hmode h₁ (by omega)]
  rw [cleanup, stopWorkers_error hmode (w := 0) (by omega) (by rw [hgone]; decide)]
  rfl

/-! ### The map of the XDP program -/

lemma foldl_mapEntry (ifIdx : Nat) : ∀ (n : Nat) (m : Nat → Option (Nat × Nat)) (key : Nat),
    (List.range n).foldl (mapEntry ifIdx) m key = if key < n then some (key, ifIdx) else m key
  | 0, m, key => by simp
  | n + 1, m, key => by
    rw [List.range_succ, List.foldl_append, List.foldl_cons, List.foldl_nil, mapEntry]
    by_cases hk : key = n
    · subst hk
      simp
    · rw [Function.update_noteq hk, foldl_mapEntry ifIdx n m key]
      by_cases hlt : key < n
      · simp [hlt, Nat.lt_succ_of_lt hlt]
      · simp [hlt, show ¬ key < n + 1 by omega]

/-- Every interface writes the same keys, so each overwrites the one before: after
`enter_xsks_into_map`, key `k` of the `xsks` map names the socket of worker `k` on the last
interface, for every worker, and no entry names a socket of another interface. -/
theorem enterXsksIntoMap_eq (conf : ArgsConfig) (key : Nat) :
    enterXsksIntoMap conf key =
      if key < conf.workers.toNat ∧ 0 < conf.numInterfaces then
        some (key, conf.numInterfaces - 1)
      else none := by
  unfold enterXsksIntoMap
  generalize conf.numInterfaces = n
  induction n with
  | zero => simp
  | succ n ih =>
    rw [List.range_succ, List.foldl_append, List.foldl_cons, List.foldl_nil, foldl_mapEntry, ih]
    by_cases hk : key < conf.workers.toNat <;> simp [hk]

/-- Two interfaces in XDP mode, as `-i eth0 -i eth1 -M XDP` configures them. -/
def xdpPairConf : ArgsConfig :=
  { defaultConf with
    bindFlags := fun _ => defaultBindFlags
    numInterfaces := 2
    xdpFlags := xdpFlagsUpdateIfNoexist ||| xdpFlagsDrvMode
    workingMode := .xdp }

/-- The failure path does not undo what the setup did.  In AF_XDP mode, every failure of
`xsknf_init` whose path runs `xsknf_cleanup` ends in a join of a thread never created, and
a cleanup after a completed cleanup joins the threads again.  And when `bpf_xdp_attach`
fails on the second interface, the process exits with the program still attached to the
first. -/
theorem fatal_path_unsound (hmode : conf.workingMode.afXdpBit) (hw : 0 < conf.workers) :
    (∀ k (hk : k < (initCalls conf).length), ((initCalls conf)[k]).cleansUp →
      lifecycle conf k = .faulted .invalidObject) ∧
    (∀ ctl ctl', cleanup conf ctl = .ok ctl' → cleanup conf ctl' = .error .invalidObject) ∧
    (setupCalls xdpPairConf)[7]? = some (.xdpAttach 1) ∧
    ∃ ctl, lifecycle xdpPairConf 7 = .exited ctl ∧ ctl.xdp 0 = .live :=
  ⟨fun _ hk hc => cleanup_faults_in_init hmode hw hk hc,
    fun _ _ h => cleanup_twice_faults hmode hw h, rfl, _, rfl, rfl⟩

/-- One interface and one worker in AF_XDP mode. -/
def afXdpConf : ArgsConfig :=
  { defaultConf with
    bindFlags := fun _ => defaultBindFlags
    numInterfaces := 1
    xdpFlags := xdpFlagsUpdateIfNoexist ||| xdpFlagsDrvMode }

/-- With one worker, a failing `malloc` of the ifindex table already faults, and the
complete setup's cleanup succeeds once and faults the second time. -/
theorem fatal_path_unsound_one_worker :
    lifecycle afXdpConf 0 = .faulted .invalidObject ∧
      ∃ ctl, cleanup afXdpConf (held afXdpConf 12) = .ok ctl ∧
        cleanup afXdpConf ctl = .error .invalidObject := by
  have h := @fatal_path_unsound afXdpConf rfl (by decide)
  obtain ⟨c, hc⟩ : ∃ c, cleanup afXdpConf (held afXdpConf 12) = .ok c := ⟨_, rfl⟩
  exact ⟨h.1 0 (by decide) rfl, c, hc, h.2.1 _ _ hc⟩

end Xsknf
