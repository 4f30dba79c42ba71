import Xsknf.Socket

/-!
# The socket statistics

`xsknf_get_socket_stats(worker_idx, iface_idx, &stats)` refreshes the six counters the driver
reports through the `XDP_STATISTICS` socket option (`xsk_get_xdp_stats`), ignores what that
returns, and copies the socket's `struct xsknf_socket_stats` out.  `xsk_get_xdp_stats` passes
the buffer length as `optlen = sizeof(stats)`, where `stats` is its pointer parameter, and then
copies only when `getsockopt` reports back `sizeof(struct xdp_statistics)` bytes.

`getsockopt` belongs to the kernel, so the model takes it as the answer it gives for each
buffer length (`XdpStatsAnswer`).  The socket layer never reports more bytes than the buffer
it was given, and the length of a pointer is less than that of the six `__u64` of
`struct xdp_statistics`: the driver's counters are never copied.
-/

namespace Xsknf

/-- `struct xdp_statistics` of `linux/if_xdp.h`. -/
structure XdpStatistics where
  rxDropped : Nat
  rxInvalidDescs : Nat
  txInvalidDescs : Nat
  rxRingFull : Nat
  rxFillRingEmptyDescs : Nat
  txRingEmptyDescs : Nat
deriving DecidableEq, Repr

/-- `sizeof(struct xdp_statistics)`: six `__u64`. -/
def sizeofXdpStatistics : Nat := 6 * 8

/-- `sizeof(stats)` for the pointer `struct xsknf_socket_stats *stats`, on the 64-bit targets. -/
def sizeofPointer : Nat := 8

/-- `EINVAL` of `errno.h`. -/
def einval : Int := 22

/-- What `getsockopt(fd, SOL_XDP, XDP_STATISTICS, &xdp_stats, &optlen)` gives back: its return
value, the length it writes to `optlen` and the statistics it writes. -/
structure XdpStatsAnswer where
  ret : Int
  optlen : Nat
  value : XdpStatistics

/-- `struct xsknf_socket_stats`: the counters the worker keeps, and the six the driver
reports, which only `xsk_get_xdp_stats` writes. -/
structure XsknfSocketStats where
  counters : SocketStats
  rxDroppedNpkts : Nat
  rxInvalidNpkts : Nat
  txInvalidNpkts : Nat
  rxFullNpkts : Nat
  rxFillEmptyNpkts : Nat
  txEmptyNpkts : Nat
deriving DecidableEq, Repr

/-- `xsk_get_xdp_stats(fd, stats)`: its return value, and the statistics it leaves. -/
def xskGetXdpStats (getsockopt : Nat → XdpStatsAnswer) (stats : XsknfSocketStats) :
    Int × XsknfSocketStats :=
  let optlen := sizeofPointer
  let r := getsockopt optlen
  if r.ret ≠ 0 then (r.ret, stats)
  else if r.optlen = sizeofXdpStatistics then
    (0, { stats with
      rxDroppedNpkts := r.value.rxDropped
      rxInvalidNpkts := r.value.rxInvalidDescs
      txInvalidNpkts := r.value.txInvalidDescs
      rxFullNpkts := r.value.rxRingFull
      rxFillEmptyNpkts := r.value.rxFillRingEmptyDescs
      txEmptyNpkts := r.value.txRingEmptyDescs })
  else (-einval, stats)

/-- `xsknf_get_socket_stats`: the socket's statistics after the call, and the copy handed out. -/
def xsknfGetSocketStats (getsockopt : Nat → XdpStatsAnswer) (stats : XsknfSocketStats) :
    XsknfSocketStats × XsknfSocketStats :=
  let stats := (xskGetXdpStats getsockopt stats).2
  (stats, stats)

end Xsknf
