import Xsknf.Codec

/-!
# Sockets and the configuration the data path reads

`struct xsk_socket_info` holds the four rings of one AF_XDP socket, the counters the worker
keeps for it, `outstanding_tx` and a pointer to the UMEM region it is bound to.  A ring is
modelled by the entries it holds, in order (`Basic.lean`); the region pointer by the
region's identity, since the code only compares it and offsets into it.

The kernel owns two flags of these rings, `XDP_RING_NEED_WAKEUP` on the tx and fill rings;
the worker reads them through `xsk_ring_prod__needs_wakeup`, so they are part of the
socket's state here and kernel steps may change them.
-/

namespace Xsknf

/-- `struct pkt_info`, and the `addr`/`len` of an rx or tx descriptor: the UMEM address as
the kernel reported it, and the packet length. -/
structure PktInfo where
  addr : Nat
  len : Nat
deriving DecidableEq, Repr, Inhabited

/-- The counters of `struct xsknf_socket_stats` that the worker itself maintains. -/
structure SocketStats where
  rxNpkts : Nat
  txNpkts : Nat
  rxEmptyPolls : Nat
  txTriggerSendtos : Nat
  txWakeupSendtos : Nat
  optPolls : Nat
deriving DecidableEq, Repr

def SocketStats.zero : SocketStats := ⟨0, 0, 0, 0, 0, 0⟩

/-- `XDP_COPY` of `linux/if_xdp.h`; `xdpZerocopy` is its `XDP_ZEROCOPY`. -/
def xdpCopy : Nat := 1 <<< 1

def xdpZerocopy : Nat := 1 <<< 2

/-- `struct xsk_socket_info`.  The rx ring holds the descriptors the kernel has published and
the worker not released, the tx ring those the worker has submitted and the kernel not
consumed; the fill and completion rings hold addresses. -/
structure XskSocketInfo where
  bindFlags : Nat
  /-- `buffer`: which of the worker's regions (`buffer` or `copy_buffer`) backs the socket. -/
  buffer : Nat
  rx : List PktInfo
  tx : List PktInfo
  fq : List Nat
  cq : List Nat
  stats : SocketStats
  outstandingTx : Nat
  /-- The kernel's need-wakeup flag on the tx ring. -/
  txNeedsWakeup : Bool
  /-- The kernel's need-wakeup flag on the fill ring. -/
  fqNeedsWakeup : Bool
deriving DecidableEq, Repr

def XskSocketInfo.isCopy (xsk : XskSocketInfo) : Bool := xsk.bindFlags &&& xdpCopy != 0

/-- The fields of `struct xsknf_config` that the data path reads, after `xsknf_init`. -/
structure Conf where
  numInterfaces : Nat
  batchSize : Nat
  poll : Bool
  busyPoll : Bool
  xskFrameSize : Nat
  unalignedChunks : Bool
deriving DecidableEq, Repr

/-- The sockets of one worker, `worker->xsks`, indexed by interface. -/
abbrev Xsks := Nat → XskSocketInfo

/-- The first `kick_tx` condition of `complete_tx`: tx must be triggered by hand for a
copy-mode socket, and when neither poll nor busy poll is on and the tx ring asks for a
wakeup. -/
def txTrigger (conf : Conf) (xsk : XskSocketInfo) : Bool :=
  xsk.isCopy || (!conf.poll && !conf.busyPoll && xsk.txNeedsWakeup)

/-- `tx_xsk->stats.tx_trigger_sendtos++` when `txTrigger` holds, and `kick_tx`.  Its `sendto`
is taken to succeed or to fail with one of the `errno` values `kick_tx` ignores (`ENOBUFS`,
`EAGAIN`, `EBUSY`, `ENETDOWN`); its `exit_with_error` on any other is left out. -/
def kickTrigger (conf : Conf) (xsk : XskSocketInfo) : XskSocketInfo :=
  { xsk with stats := { xsk.stats with
      txTriggerSendtos := xsk.stats.txTriggerSendtos + if txTrigger conf xsk then 1 else 0 } }

/-- `ndescs`: the number of completions `complete_tx` asks for. -/
def ndescs (conf : Conf) (xsk : XskSocketInfo) : Nat :=
  if xsk.outstandingTx > conf.batchSize then conf.batchSize else xsk.outstandingTx

namespace XskSocketInfo

variable (xsk : XskSocketInfo)

/-- The frames a socket holds on its four rings. -/
def ringAddrs : List Nat := xsk.fq ++ xsk.rx.map PktInfo.addr ++ xsk.tx.map PktInfo.addr ++ xsk.cq

end XskSocketInfo

section Frame

variable (conf : Conf) (xsk : XskSocketInfo)

@[simp] lemma kickTrigger_rx : (kickTrigger conf xsk).rx = xsk.rx := rfl
@[simp] lemma kickTrigger_tx : (kickTrigger conf xsk).tx = xsk.tx := rfl
@[simp] lemma kickTrigger_fq : (kickTrigger conf xsk).fq = xsk.fq := rfl
@[simp] lemma kickTrigger_cq : (kickTrigger conf xsk).cq = xsk.cq := rfl
@[simp] lemma kickTrigger_outstandingTx :
    (kickTrigger conf xsk).outstandingTx = xsk.outstandingTx := rfl
@[simp] lemma kickTrigger_buffer : (kickTrigger conf xsk).buffer = xsk.buffer := rfl
@[simp] lemma kickTrigger_bindFlags : (kickTrigger conf xsk).bindFlags = xsk.bindFlags := rfl
@[simp] lemma kickTrigger_txNeedsWakeup :
    (kickTrigger conf xsk).txNeedsWakeup = xsk.txNeedsWakeup := rfl
@[simp] lemma kickTrigger_fqNeedsWakeup :
    (kickTrigger conf xsk).fqNeedsWakeup = xsk.fqNeedsWakeup := rfl
@[simp] lemma ndescs_kickTrigger : ndescs conf (kickTrigger conf xsk) = ndescs conf xsk := by
  simp [ndescs]

lemma ndescs_le_batchSize : ndescs conf xsk ≤ conf.batchSize := by
  unfold ndescs; split <;> omega

end Frame

/-! ### Ring updates -/

namespace XskSocketInfo

variable (xsk : XskSocketInfo)

def submitFill (addrs : List Nat) : XskSocketInfo := { xsk with fq := xsk.fq ++ addrs }

/-- `xsk_ring_cons__release(&tx_xsk->cq, sent); tx_xsk->stats.tx_npkts += sent`. -/
def releaseCq (sent : Nat) : XskSocketInfo :=
  { xsk with cq := xsk.cq.drop sent, stats := { xsk.stats with txNpkts := xsk.stats.txNpkts + sent } }

/-- `tx_xsk->outstanding_tx -= sent`. -/
def subOutstanding (sent : Nat) : XskSocketInfo :=
  { xsk with outstandingTx := xsk.outstandingTx - sent }

variable (addrs : List Nat) (sent : Nat)

@[simp] lemma submitFill_fq : (xsk.submitFill addrs).fq = xsk.fq ++ addrs := rfl
@[simp] lemma submitFill_rx : (xsk.submitFill addrs).rx = xsk.rx := rfl
@[simp] lemma submitFill_tx : (xsk.submitFill addrs).tx = xsk.tx := rfl
@[simp] lemma submitFill_cq : (xsk.submitFill addrs).cq = xsk.cq := rfl
@[simp] lemma submitFill_outstandingTx : (xsk.submitFill addrs).outstandingTx = xsk.outstandingTx := rfl
@[simp] lemma submitFill_buffer : (xsk.submitFill addrs).buffer = xsk.buffer := rfl
@[simp] lemma submitFill_bindFlags : (xsk.submitFill addrs).bindFlags = xsk.bindFlags := rfl
@[simp] lemma submitFill_stats : (xsk.submitFill addrs).stats = xsk.stats := rfl
@[simp] lemma submitFill_txNeedsWakeup : (xsk.submitFill addrs).txNeedsWakeup = xsk.txNeedsWakeup := rfl
@[simp] lemma submitFill_fqNeedsWakeup : (xsk.submitFill addrs).fqNeedsWakeup = xsk.fqNeedsWakeup := rfl
@[simp] lemma submitFill_nil : xsk.submitFill [] = xsk := by simp [submitFill]

@[simp] lemma releaseCq_cq : (xsk.releaseCq sent).cq = xsk.cq.drop sent := rfl
@[simp] lemma releaseCq_fq : (xsk.releaseCq sent).fq = xsk.fq := rfl
@[simp] lemma releaseCq_rx : (xsk.releaseCq sent).rx = xsk.rx := rfl
@[simp] lemma releaseCq_tx : (xsk.releaseCq sent).tx = xsk.tx := rfl
@[simp] lemma releaseCq_outstandingTx : (xsk.releaseCq sent).outstandingTx = xsk.outstandingTx := rfl
@[simp] lemma releaseCq_buffer : (xsk.releaseCq sent).buffer = xsk.buffer := rfl
@[simp] lemma releaseCq_bindFlags : (xsk.releaseCq sent).bindFlags = xsk.bindFlags := rfl
@[simp] lemma releaseCq_txNeedsWakeup : (xsk.releaseCq sent).txNeedsWakeup = xsk.txNeedsWakeup := rfl
@[simp] lemma releaseCq_fqNeedsWakeup : (xsk.releaseCq sent).fqNeedsWakeup = xsk.fqNeedsWakeup := rfl
@[simp] lemma releaseCq_zero : xsk.releaseCq 0 = xsk := rfl

@[simp] lemma subOutstanding_outstandingTx :
    (xsk.subOutstanding sent).outstandingTx = xsk.outstandingTx - sent := rfl
@[simp] lemma subOutstanding_fq : (xsk.subOutstanding sent).fq = xsk.fq := rfl
@[simp] lemma subOutstanding_cq : (xsk.subOutstanding sent).cq = xsk.cq := rfl
@[simp] lemma subOutstanding_rx : (xsk.subOutstanding sent).rx = xsk.rx := rfl
@[simp] lemma subOutstanding_tx : (xsk.subOutstanding sent).tx = xsk.tx := rfl
@[simp] lemma subOutstanding_buffer : (xsk.subOutstanding sent).buffer = xsk.buffer := rfl
@[simp] lemma subOutstanding_bindFlags : (xsk.subOutstanding sent).bindFlags = xsk.bindFlags := rfl
@[simp] lemma subOutstanding_stats : (xsk.subOutstanding sent).stats = xsk.stats := rfl
@[simp] lemma subOutstanding_txNeedsWakeup :
    (xsk.subOutstanding sent).txNeedsWakeup = xsk.txNeedsWakeup := rfl
@[simp] lemma subOutstanding_fqNeedsWakeup :
    (xsk.subOutstanding sent).fqNeedsWakeup = xsk.fqNeedsWakeup := rfl
@[simp] lemma subOutstanding_zero : xsk.subOutstanding 0 = xsk := rfl

lemma subOutstanding_submitFill :
    (xsk.submitFill addrs).subOutstanding sent = (xsk.subOutstanding sent).submitFill addrs := rfl

end XskSocketInfo

end Xsknf
