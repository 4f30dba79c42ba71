import Xsknf.ProcessBatch
import Mathlib.Logic.Relation

/-!
# The worker and the kernel, step by step

One worker thread runs `worker_loop`: at the top of its `while` it optionally `poll`s,
then calls `process_batch(xsks, i)` for every interface `i` in turn, or
`process_batch_1if(&xsks[0])` when there is one interface.  The kernel works on the same
rings concurrently: it takes frames from fill rings and publishes received packets on rx
rings, and it consumes tx descriptors and publishes their addresses on completion rings,
as long as the completion ring has room.

A `World` is the worker's sockets, the bytes of its regions and where the worker is
(`Pc`).  `workerStep` runs the worker up to its next interaction with the rings: the
`complete_tx` at the head of a batch, the rx half of a batch, one destination of the
forwarding loop, or one turn of the reservation retry loop.  Kernel steps may come between
any two of them.  `Reachable` is every world a run from `xsknf_init`'s sockets can reach.
-/

namespace Xsknf

/-- Where the worker thread is. -/
inductive Pc
  /-- At the top of `worker_loop`'s `while`. -/
  | top
  /-- About to call `process_batch(xsks, i)`. -/
  | batch (i : Nat)
  /-- In `process_batch(xsks, i)`, its `complete_tx` done. -/
  | recv (i : Nat)
  /-- In the forwarding loop of `process_batch(xsks, i)` at destination `j`. -/
  | fwd (i j : Nat) (toTx : Nat → Bucket PktInfo)
  /-- In the reservation retry loop of destination `j`. -/
  | retry (i j : Nat) (toTx : Nat → Bucket PktInfo)
  /-- About to call `process_batch_1if(&xsks[0])`. -/
  | batch1
  /-- In `process_batch_1if`, its `complete_tx_1if` done. -/
  | recv1
  /-- At the forwarding of `process_batch_1if`. -/
  | fwd1 (toTx : Bucket PktInfo)
  /-- In the reservation retry loop of `process_batch_1if`. -/
  | retry1 (toTx : Bucket PktInfo)

/-- A worker with its sockets, the bytes of its regions, and its place in `worker_loop`. -/
structure World where
  /-- `worker->xsks`. -/
  xsks : Xsks
  /-- The contents of `worker->buffer` (region `0`) and `worker->copy_buffer` (region `1`). -/
  mem : Mem
  /-- Where the worker thread is. -/
  pc : Pc

/-- `worker->xsks[i].stats.opt_polls++` for every interface, before a `poll`. -/
def countPolls (n : Nat) (xsks : Xsks) : Xsks := fun i =>
  if i < n then { xsks i with stats := { (xsks i).stats with optPolls := (xsks i).stats.optPolls + 1 } }
  else xsks i

/-- One step of the worker: `cls` answers for the classifier and `ready` for `poll`. -/
def workerStep (conf : Conf) (cls : Classifier) (ready : Bool) (w : World) : Except Fault World :=
  match w.pc with
  | .top =>
    let xsks := if conf.poll then countPolls conf.numInterfaces w.xsks else w.xsks
    if conf.poll && !ready then pure { w with xsks, pc := .top }
    else pure { w with xsks, pc := if conf.numInterfaces > 1 then .batch 0 else .batch1 }
  | .batch i =>
    if i < conf.numInterfaces then do
      let xsks ← completeTx conf w.xsks i
      pure { w with xsks, pc := .recv i }
    else pure { w with pc := .top }
  | .recv i => do
    let (xsks, mem, toTx) ← receive conf cls w.xsks w.mem i
    match toTx with
    | none => pure { xsks, mem, pc := .batch (i + 1) }
    | some toTx => pure { xsks, mem, pc := .fwd i 0 toTx }
  | .fwd i j toTx =>
    if j < conf.numInterfaces then
      if (toTx j).count.toNat = 0 then pure { w with pc := .fwd i (j + 1) toTx }
      else if txReserved (w.xsks j) (toTx j) then do
        let (xsks, mem) ← enqueueTx conf w.xsks w.mem i j (toTx j)
        pure { xsks, mem, pc := .fwd i (j + 1) toTx }
      else pure { w with pc := .retry i j toTx }
    else pure { w with pc := .batch (i + 1) }
  | .retry i j toTx => do
    let xsks ← completeTx conf w.xsks i
    let xsks := Function.update xsks j (wakeupKick conf (xsks j))
    if txReserved (xsks j) (toTx j) then do
      let (xsks, mem) ← enqueueTx conf xsks w.mem i j (toTx j)
      pure { xsks, mem, pc := .fwd i (j + 1) toTx }
    else pure { w with xsks, pc := .retry i j toTx }
  | .batch1 => do
    let xsk ← completeTx1if conf (w.xsks 0)
    pure { w with xsks := Function.update w.xsks 0 xsk, pc := .recv1 }
  | .recv1 => do
    let (xsk, mem, toTx) ← receive1if conf cls (w.xsks 0) w.mem
    match toTx with
    | none => pure { xsks := Function.update w.xsks 0 xsk, mem, pc := .top }
    | some toTx => pure { xsks := Function.update w.xsks 0 xsk, mem, pc := .fwd1 toTx }
  | .fwd1 toTx =>
    if toTx.count.toNat = 0 then pure { w with pc := .top }
    else if txReserved (w.xsks 0) toTx then
      pure { w with
        xsks := Function.update w.xsks 0 ((w.xsks 0).submitTx toTx.contents toTx.count.toNat)
        pc := .top }
    else pure { w with pc := .retry1 toTx }
  | .retry1 toTx => do
    let xsk ← completeTx1if conf (w.xsks 0)
    let xsk := wakeupKick conf xsk
    if txReserved xsk toTx then
      pure { w with
        xsks := Function.update w.xsks 0 (xsk.submitTx toTx.contents toTx.count.toNat)
        pc := .top }
    else pure { w with xsks := Function.update w.xsks 0 xsk, pc := .retry1 toTx }

/-! ### Steps forward

The worker's steps as equations, for building runs: each gives the next world from what the
phase it runs returns. -/

section Forward

variable {conf : Conf} {cls : Classifier} {ready : Bool} {w : World}

/-- Without `poll` the top of the loop only picks the path. -/
lemma workerStep_top (hpc : w.pc = .top) (hpoll : conf.poll = false) :
    workerStep conf cls ready w =
      .ok { w with pc := if conf.numInterfaces > 1 then .batch 0 else .batch1 } := by
  obtain ⟨xsks, mem, pc⟩ := w
  cases hpc
  simp [workerStep, hpoll]
  rfl

lemma workerStep_batch {i : Nat} {xs : Xsks} (hpc : w.pc = .batch i)
    (hi : i < conf.numInterfaces) (h : completeTx conf w.xsks i = .ok xs) :
    workerStep conf cls ready w = .ok ⟨xs, w.mem, .recv i⟩ := by
  obtain ⟨xsks, mem, pc⟩ := w
  cases hpc
  simp only [workerStep, if_pos hi, h, ok_bind]
  rfl

/-- Past the last interface the worker goes back to the top of its loop. -/
lemma workerStep_batch_end {i : Nat} (hpc : w.pc = .batch i) (hi : conf.numInterfaces ≤ i) :
    workerStep conf cls ready w = .ok { w with pc := .top } := by
  obtain ⟨xsks, mem, pc⟩ := w
  cases hpc
  simp only [workerStep, if_neg (Nat.not_lt.2 hi)]
  rfl

/-- A fault of the `complete_tx` heading a batch ends the step. -/
lemma workerStep_batch_error {i : Nat} {e : Fault} (hpc : w.pc = .batch i)
    (hi : i < conf.numInterfaces) (h : completeTx conf w.xsks i = .error e) :
    workerStep conf cls ready w = .error e := by
  obtain ⟨xsks, mem, pc⟩ := w
  cases hpc
  simp only [workerStep, if_pos hi, h]
  rfl

lemma workerStep_batch1 {x : XskSocketInfo} (hpc : w.pc = .batch1)
    (h : completeTx1if conf (w.xsks 0) = .ok x) :
    workerStep conf cls ready w = .ok ⟨Function.update w.xsks 0 x, w.mem, .recv1⟩ := by
  obtain ⟨xsks, mem, pc⟩ := w
  cases hpc
  simp only [workerStep, h, ok_bind]
  rfl

lemma workerStep_recv1 {x : XskSocketInfo} {m : Mem} {b : Bucket PktInfo} (hpc : w.pc = .recv1)
    (h : receive1if conf cls (w.xsks 0) w.mem = .ok (x, m, some b)) :
    workerStep conf cls ready w = .ok ⟨Function.update w.xsks 0 x, m, .fwd1 b⟩ := by
  obtain ⟨xsks, mem, pc⟩ := w
  cases hpc
  simp only [workerStep, h, ok_bind]
  rfl

lemma workerStep_recv1_none {x : XskSocketInfo} {m : Mem} (hpc : w.pc = .recv1)
    (h : receive1if conf cls (w.xsks 0) w.mem = .ok (x, m, none)) :
    workerStep conf cls ready w = .ok ⟨Function.update w.xsks 0 x, m, .top⟩ := by
  obtain ⟨xsks, mem, pc⟩ := w
  cases hpc
  simp only [workerStep, h, ok_bind]
  rfl

lemma workerStep_recv {i : Nat} {xs : Xsks} {m : Mem} {t : Nat → Bucket PktInfo}
    (hpc : w.pc = .recv i) (h : receive conf cls w.xsks w.mem i = .ok (xs, m, some t)) :
    workerStep conf cls ready w = .ok ⟨xs, m, .fwd i 0 t⟩ := by
  obtain ⟨xsks, mem, pc⟩ := w
  cases hpc
  simp only [workerStep, h, ok_bind]
  rfl

/-- An empty rx ring ends `process_batch(xsks, i)`. -/
lemma workerStep_recv_none {i : Nat} {xs : Xsks} {m : Mem} (hpc : w.pc = .recv i)
    (h : receive conf cls w.xsks w.mem i = .ok (xs, m, none)) :
    workerStep conf cls ready w = .ok ⟨xs, m, .batch (i + 1)⟩ := by
  obtain ⟨xsks, mem, pc⟩ := w
  cases hpc
  simp only [workerStep, h, ok_bind]
  rfl

/-- The forwarding loop skips a destination with nothing to send. -/
lemma workerStep_fwd_skip {i j : Nat} {t : Nat → Bucket PktInfo} (hpc : w.pc = .fwd i j t)
    (hj : j < conf.numInterfaces) (hc : (t j).count.toNat = 0) :
    workerStep conf cls ready w = .ok { w with pc := .fwd i (j + 1) t } := by
  obtain ⟨xsks, mem, pc⟩ := w
  cases hpc
  simp only [workerStep, if_pos hj, if_pos hc]
  rfl

lemma workerStep_fwd {i j : Nat} {t : Nat → Bucket PktInfo} {xs : Xsks} {m : Mem}
    (hpc : w.pc = .fwd i j t) (hj : j < conf.numInterfaces) (hc : (t j).count.toNat ≠ 0)
    (hr : txReserved (w.xsks j) (t j) = true)
    (h : enqueueTx conf w.xsks w.mem i j (t j) = .ok (xs, m)) :
    workerStep conf cls ready w = .ok ⟨xs, m, .fwd i (j + 1) t⟩ := by
  obtain ⟨xsks, mem, pc⟩ := w
  cases hpc
  simp only [workerStep, if_pos hj, if_neg hc, hr, if_true, h, ok_bind]
  rfl

/-- A failed reservation enters the retry loop. -/
lemma workerStep_fwd_retry {i j : Nat} {t : Nat → Bucket PktInfo} (hpc : w.pc = .fwd i j t)
    (hj : j < conf.numInterfaces) (hc : (t j).count.toNat ≠ 0)
    (hr : txReserved (w.xsks j) (t j) = false) :
    workerStep conf cls ready w = .ok { w with pc := .retry i j t } := by
  obtain ⟨xsks, mem, pc⟩ := w
  cases hpc
  simp only [workerStep, if_pos hj, if_neg hc, hr, Bool.false_eq_true, if_false]
  rfl

/-- Past the last destination the worker moves to the next interface. -/
lemma workerStep_fwd_end {i j : Nat} {t : Nat → Bucket PktInfo} (hpc : w.pc = .fwd i j t)
    (hj : conf.numInterfaces ≤ j) :
    workerStep conf cls ready w = .ok { w with pc := .batch (i + 1) } := by
  obtain ⟨xsks, mem, pc⟩ := w
  cases hpc
  simp only [workerStep, if_neg (Nat.not_lt.2 hj)]
  rfl

/-- A turn of the retry loop whose reservation succeeds forwards the bucket and leaves the
loop. -/
lemma workerStep_retry {i j : Nat} {t : Nat → Bucket PktInfo} {xs xs' : Xsks} {m : Mem}
    (hpc : w.pc = .retry i j t) (h : completeTx conf w.xsks i = .ok xs)
    (hr : txReserved (wakeupKick conf (xs j)) (t j) = true)
    (he : enqueueTx conf (Function.update xs j (wakeupKick conf (xs j))) w.mem i j (t j) =
      .ok (xs', m)) :
    workerStep conf cls ready w = .ok ⟨xs', m, .fwd i (j + 1) t⟩ := by
  obtain ⟨xsks, mem, pc⟩ := w
  cases hpc
  simp only [workerStep, h, ok_bind, Function.update_same, hr, if_true, he]
  rfl

/-- A turn of the retry loop whose reservation fails again stays in the loop. -/
lemma workerStep_retry_again {i j : Nat} {t : Nat → Bucket PktInfo} {xs : Xsks}
    (hpc : w.pc = .retry i j t) (h : completeTx conf w.xsks i = .ok xs)
    (hr : txReserved (wakeupKick conf (xs j)) (t j) = false) :
    workerStep conf cls ready w =
      .ok { w with xsks := Function.update xs j (wakeupKick conf (xs j)), pc := .retry i j t } := by
  obtain ⟨xsks, mem, pc⟩ := w
  cases hpc
  simp only [workerStep, h, ok_bind, Function.update_same, hr, Bool.false_eq_true, if_false]
  rfl

/-- `process_batch_1if` submits its bucket when the tx ring has room for it. -/
lemma workerStep_fwd1 {b : Bucket PktInfo} (hpc : w.pc = .fwd1 b) (hc : b.count.toNat ≠ 0)
    (hr : txReserved (w.xsks 0) b = true) :
    workerStep conf cls ready w = .ok { w with
      xsks := Function.update w.xsks 0 ((w.xsks 0).submitTx b.contents b.count.toNat)
      pc := .top } := by
  obtain ⟨xsks, mem, pc⟩ := w
  cases hpc
  simp only [workerStep, if_neg hc, hr, if_true]
  rfl

lemma workerStep_fwd1_empty {b : Bucket PktInfo} (hpc : w.pc = .fwd1 b) (hc : b.count.toNat = 0) :
    workerStep conf cls ready w = .ok { w with pc := .top } := by
  obtain ⟨xsks, mem, pc⟩ := w
  cases hpc
  simp only [workerStep, if_pos hc]
  rfl

lemma workerStep_fwd1_retry {b : Bucket PktInfo} (hpc : w.pc = .fwd1 b) (hc : b.count.toNat ≠ 0)
    (hr : txReserved (w.xsks 0) b = false) :
    workerStep conf cls ready w = .ok { w with pc := .retry1 b } := by
  obtain ⟨xsks, mem, pc⟩ := w
  cases hpc
  simp only [workerStep, if_neg hc, hr, Bool.false_eq_true, if_false]
  rfl

lemma workerStep_retry1 {t : Bucket PktInfo} {x : XskSocketInfo} (hpc : w.pc = .retry1 t)
    (h : completeTx1if conf (w.xsks 0) = .ok x) (hr : txReserved (wakeupKick conf x) t = true) :
    workerStep conf cls ready w = .ok { w with
      xsks := Function.update w.xsks 0 ((wakeupKick conf x).submitTx t.contents t.count.toNat)
      pc := .top } := by
  obtain ⟨xsks, mem, pc⟩ := w
  cases hpc
  simp only [workerStep, h, ok_bind, hr, if_true]
  rfl

lemma workerStep_retry1_again {t : Bucket PktInfo} {x : XskSocketInfo} (hpc : w.pc = .retry1 t)
    (h : completeTx1if conf (w.xsks 0) = .ok x) (hr : txReserved (wakeupKick conf x) t = false) :
    workerStep conf cls ready w =
      .ok { w with xsks := Function.update w.xsks 0 (wakeupKick conf x), pc := .retry1 t } := by
  obtain ⟨xsks, mem, pc⟩ := w
  cases hpc
  simp only [workerStep, h, ok_bind, hr, Bool.false_eq_true, if_false]
  rfl

/-- A failure of the forwarding to destination `j` ends the step. -/
lemma workerStep_fwd_error {i j : Nat} {t : Nat → Bucket PktInfo} {e : Fault}
    (hpc : w.pc = .fwd i j t) (hj : j < conf.numInterfaces) (hc : (t j).count.toNat ≠ 0)
    (hr : txReserved (w.xsks j) (t j) = true)
    (h : enqueueTx conf w.xsks w.mem i j (t j) = .error e) :
    workerStep conf cls ready w = .error e := by
  obtain ⟨xsks, mem, pc⟩ := w
  cases hpc
  simp only [workerStep, if_pos hj, if_neg hc, hr, if_true, h]
  rfl

/-- A verdict out of range ends the process in `process_batch`'s rx half. -/
lemma workerStep_recv_error {i : Nat} (hpc : w.pc = .recv i) (hr : 0 < received conf (w.xsks i))
    (hv : ¬ VerdictsIn conf.numInterfaces (batchPairs conf cls (w.xsks i))) :
    workerStep conf cls ready w = .error .outOfBounds := by
  obtain ⟨xsks, mem, pc⟩ := w
  cases hpc
  simp only [workerStep, receive_error hr hv]
  rfl

end Forward

/-- What the kernel does to the rings of socket `s`, concurrently with the worker. -/
inductive KernelStep (conf : Conf) : World → World → Prop
  /-- The driver takes the head of the fill ring, writes a packet of `len` bytes at data
  offset `off` of its chunk and publishes the descriptor on the rx ring. -/
  | rx (w : World) (s a : Nat) (rest : List Nat) (off len : Nat) (bytes : List UInt8) :
      s < conf.numInterfaces → (w.xsks s).fq = a :: rest → (w.xsks s).rx.length < rxSize →
      0 < len → off + len ≤ conf.xskFrameSize → bytes.length = len →
      fillChunk conf.unalignedChunks conf.xskFrameSize a + conf.xskFrameSize ≤
        umemBufsize conf.numInterfaces conf.xskFrameSize →
      KernelStep conf w
        { w with
          xsks := Function.update w.xsks s { w.xsks s with
            fq := rest
            rx := (w.xsks s).rx ++
              [⟨rxHandle conf.unalignedChunks (fillChunk conf.unalignedChunks conf.xskFrameSize a) off,
                len⟩] }
          mem := writeBytes w.mem (w.xsks s).buffer
            (fillChunk conf.unalignedChunks conf.xskFrameSize a + off) bytes }
  /-- The kernel sends the head of the tx ring and publishes its address on the completion
  ring, which must have a free slot. -/
  | tx (w : World) (s : Nat) (d : PktInfo) (rest : List PktInfo) :
      s < conf.numInterfaces → (w.xsks s).tx = d :: rest → (w.xsks s).cq.length < compSize →
      KernelStep conf w
        { w with xsks := Function.update w.xsks s { w.xsks s with
            tx := rest
            cq := (w.xsks s).cq ++ [d.addr] } }
  /-- The kernel sets or clears the need-wakeup flags of the tx and fill rings. -/
  | wakeup (w : World) (s : Nat) (t f : Bool) :
      KernelStep conf w
        { w with xsks := Function.update w.xsks s { w.xsks s with
            txNeedsWakeup := t
            fqNeedsWakeup := f } }

/-- A step of the system: the worker's, whatever the classifier and `poll` answer, or the
kernel's. -/
inductive Step (conf : Conf) : World → World → Prop
  | worker {w w' : World} (cls : Classifier) (ready : Bool) :
      workerStep conf cls ready w = .ok w' → Step conf w w'
  | kernel {w w' : World} : KernelStep conf w w' → Step conf w w'

/-- The sockets of a worker as `xsknf_init` leaves them: bound to `copy_buffer` (region `1`)
in copy mode and to `buffer` (region `0`) otherwise, with the fill ring of socket `i`
primed by `xsk_configure_socket(..., i * FRAMES_PER_SOCKET)`. -/
def initXsks (conf : Conf) (bindFlags : Nat → Nat) : Xsks := fun i =>
  { bindFlags := bindFlags i
    buffer := if bindFlags i &&& xdpCopy != 0 then 1 else 0
    rx := []
    tx := []
    fq := if i < conf.numInterfaces then
        (List.range framesPerSocket).map fun k => primedAddr (i * framesPerSocket) k conf.xskFrameSize
      else []
    cq := []
    stats := SocketStats.zero
    outstandingTx := 0
    txNeedsWakeup := false
    fqNeedsWakeup := false }

/-- The world when the worker thread starts: regions zeroed by `mmap`, worker at the top of
its loop. -/
def initWorld (conf : Conf) (bindFlags : Nat → Nat) : World :=
  { xsks := initXsks conf bindFlags, mem := fun _ _ => 0, pc := .top }

/-- The worlds a run from `xsknf_init`'s sockets can reach. -/
def Reachable (conf : Conf) (bindFlags : Nat → Nat) (w : World) : Prop :=
  Relation.ReflTransGen (Step conf) (initWorld conf bindFlags) w

end Xsknf
