import Xsknf.Socket

/-!
# Recycling completed transmissions

`complete_tx(xsks, i)` drains up to `min(outstanding_tx, batch_size)` addresses from the
completion ring of socket `i`, sorts them by the owner their top bits name
(`to_fill[owner][nfill[owner]++] = addr`) and hands each bucket to its owner's fill ring.
`complete_tx_1if` is its single-interface specialisation: the owner is implicit, and the
drained addresses go back to the same socket's fill ring in one reservation.

The effect of a successful call is stated once, by `afterCompleteTx` (which fields of which
socket change, and how), and every later proof reads it from there.
-/

namespace Xsknf

/-- One iteration of the bucketing loop of `complete_tx`: `owner = addr >> owner_shift;
to_fill[owner][nfill[owner]++] = addr`, where `to_fill` has `num_interfaces` rows. -/
def bucketStep (n shift : Nat) (toFill : Nat → Bucket Nat) (addr : Nat) :
    Except Fault (Nat → Bucket Nat) :=
  if 0 ≤ decodeOwner shift addr ∧ decodeOwner shift addr < n then
    pure (Function.update toFill (decodeOwner shift addr).toNat
      ((toFill (decodeOwner shift addr).toNat).push addr))
  else throw .outOfBounds

/-- The bucketing loop of `complete_tx` over the drained addresses. -/
def bucketByOwner (n shift : Nat) (addrs : List Nat) : Except Fault (Nat → Bucket Nat) :=
  addrs.foldlM (bucketStep n shift) (fun _ => Bucket.empty)

/-- The loop `for (i = 0; i < conf.num_interfaces; i++) if (nfill[i]) ...` of
`complete_tx`: every non-empty bucket is reserved on its owner's fill ring, written and
submitted; a short reservation ends in `exit_with_error(-ret)`. -/
def fillOwners (toFill : Nat → Bucket Nat) : List Nat → Xsks → Except Fault Xsks
  | [], xsks => pure xsks
  | i :: is, xsks =>
    if (toFill i).count.toNat = 0 then fillOwners toFill is xsks
    else
      let ret := reserve fillSize (xsks i).fq (toFill i).count.toNat
      if ret ≠ (toFill i).count.toNat then throw (.exitWithError (-(ret : Int)))
      else fillOwners toFill is (Function.update xsks i ((xsks i).submitFill (toFill i).contents))

/-- `complete_tx(xsks, ifindex)`. -/
def completeTx (conf : Conf) (xsks : Xsks) (ifindex : Nat) : Except Fault Xsks :=
  if (xsks ifindex).outstandingTx = 0 then pure xsks
  else
    let txXsk := kickTrigger conf (xsks ifindex)
    let sent := peek txXsk.cq (ndescs conf txXsk)
    if sent = 0 then pure (Function.update xsks ifindex txXsk)
    else do
      let toFill ← bucketByOwner conf.numInterfaces (ownerShift conf.xskFrameSize)
        (txXsk.cq.take sent)
      let xsks ← fillOwners toFill (List.range conf.numInterfaces)
        (Function.update xsks ifindex (txXsk.releaseCq sent))
      pure (Function.update xsks ifindex ((xsks ifindex).subOutstanding sent))

/-- `complete_tx_1if(xsk)`. -/
def completeTx1if (conf : Conf) (xsk : XskSocketInfo) : Except Fault XskSocketInfo :=
  if xsk.outstandingTx = 0 then pure xsk
  else
    let xsk := kickTrigger conf xsk
    let sent := peek xsk.cq (ndescs conf xsk)
    if sent = 0 then pure xsk
    else
      let ret := reserve fillSize xsk.fq sent
      if ret ≠ sent then throw (.exitWithError (-(ret : Int)))
      else pure (((xsk.submitFill (xsk.cq.take sent)).releaseCq sent).subOutstanding sent)

/-! ### Bucketing -/

/-- The owners of a list of addresses are all rows of `to_fill`. -/
def OwnersIn (n shift : Nat) (addrs : List Nat) : Prop :=
  ∀ a ∈ addrs, 0 ≤ decodeOwner shift a ∧ decodeOwner shift a < n

instance (n shift : Nat) (addrs : List Nat) : Decidable (OwnersIn n shift addrs) :=
  inferInstanceAs (Decidable (∀ a ∈ addrs, _))

/-- The addresses of a list that decode to owner `o`, in order. -/
def ownedBy (shift o : Nat) (addrs : List Nat) : List Nat :=
  addrs.filter fun a => decodeOwner shift a = o

lemma foldlM_bucketStep {n shift : Nat} : ∀ (addrs : List Nat) (toFill : Nat → Bucket Nat),
    OwnersIn n shift addrs →
    addrs.foldlM (bucketStep n shift) toFill =
      .ok (fun o => (toFill o).pushAll (ownedBy shift o addrs))
  | [], toFill, _ => by simp [ownedBy]; rfl
  | a :: as, toFill, h => by
    have ha := h a (List.mem_cons_self a as)
    have hrest : OwnersIn n shift as := fun b hb => h b (List.mem_cons_of_mem a hb)
    simp only [List.foldlM_cons, bucketStep, if_pos ha, pure_bind]
    rw [foldlM_bucketStep as _ hrest]
    congr 1
    funext o
    by_cases ho : (decodeOwner shift a).toNat = o
    · subst ho
      simp [ownedBy, List.filter_cons, Int.toNat_of_nonneg ha.1]
    · have hne : decodeOwner shift a ≠ o := fun h' => ho (by simp [h'])
      simp [ownedBy, List.filter_cons, hne, Function.update_noteq (Ne.symm ho)]

lemma bucketByOwner_eq {n shift : Nat} {addrs : List Nat} (h : OwnersIn n shift addrs) :
    bucketByOwner n shift addrs = .ok (fun o => Bucket.empty.pushAll (ownedBy shift o addrs)) :=
  foldlM_bucketStep addrs _ h

lemma ownersIn_of_foldlM {n shift : Nat} : ∀ (addrs : List Nat) (b toFill : Nat → Bucket Nat),
    addrs.foldlM (bucketStep n shift) b = .ok toFill → OwnersIn n shift addrs
  | [], _, _, _ => fun a ha => by simp at ha
  | a :: as, b, toFill, h => by
    simp only [List.foldlM_cons, bucketStep] at h
    split at h
    · rename_i ha
      rw [pure_bind] at h
      intro x hx
      rcases List.mem_cons.1 hx with rfl | hx
      · exact ha
      · exact ownersIn_of_foldlM as _ _ h x hx
    · cases h

lemma foldlM_bucketStep_error {n shift : Nat} : ∀ (addrs : List Nat) (b : Nat → Bucket Nat),
    ¬ OwnersIn n shift addrs → addrs.foldlM (bucketStep n shift) b = .error .outOfBounds
  | [], _, h => absurd (fun _ ha => absurd ha (List.not_mem_nil _)) h
  | a :: as, b, h => by
    simp only [List.foldlM_cons, bucketStep]
    split
    · rename_i ha
      rw [pure_bind]
      exact foldlM_bucketStep_error as _ fun hr => h fun x hx =>
        (List.mem_cons.1 hx).elim (fun hx => hx ▸ ha) (hr x)
    · rfl

/-! ### Filling the owners' rings -/

/-- What `fillOwners` leaves when it returns: every listed owner's fill ring gets its
bucket. -/
def fillAll (toFill : Nat → Bucket Nat) (is : List Nat) (xsks : Xsks) : Xsks := fun o =>
  if o ∈ is then (xsks o).submitFill (toFill o).contents else xsks o

lemma fillAll_nil (toFill : Nat → Bucket Nat) (xsks : Xsks) : fillAll toFill [] xsks = xsks := by
  funext o; simp [fillAll]

lemma fillAll_of_contents_nil {toFill : Nat → Bucket Nat} (h : ∀ o, (toFill o).contents = [])
    (is : List Nat) (xsks : Xsks) : fillAll toFill is xsks = xsks := by
  funext o; simp [fillAll, h]

lemma fillAll_cons_update {toFill : Nat → Bucket Nat} {i : Nat} {is : List Nat} (hi : i ∉ is)
    (xsks : Xsks) :
    fillAll toFill is (Function.update xsks i ((xsks i).submitFill (toFill i).contents)) =
      fillAll toFill (i :: is) xsks := by
  funext o
  by_cases ho : o = i
  · subst ho; simp [fillAll, hi]
  · simp [fillAll, ho]

lemma fillOwners_ok {toFill : Nat → Bucket Nat} : ∀ {is : List Nat} {xsks xsks' : Xsks},
    is.Nodup → fillOwners toFill is xsks = .ok xsks' → xsks' = fillAll toFill is xsks
  | [], _, _, _, h => by cases h; exact (fillAll_nil _ _).symm
  | i :: is, xsks, xsks', hnd, h => by
    rw [List.nodup_cons] at hnd
    unfold fillOwners at h
    split at h
    · rename_i h0
      rw [fillOwners_ok hnd.2 h, ← fillAll_cons_update hnd.1, Bucket.contents_eq_nil h0,
        XskSocketInfo.submitFill_nil, Function.update_eq_self]
    · dsimp only at h
      split at h
      · cases h
      · rw [fillOwners_ok hnd.2 h, fillAll_cons_update hnd.1]

/-- The room `fillOwners` needs: every non-empty bucket fits its owner's fill ring. -/
def FillRoom (toFill : Nat → Bucket Nat) (is : List Nat) (xsks : Xsks) : Prop :=
  ∀ i ∈ is, (toFill i).count.toNat = 0 ∨ (xsks i).fq.length + (toFill i).count.toNat ≤ fillSize

instance (toFill : Nat → Bucket Nat) (is : List Nat) (xsks : Xsks) :
    Decidable (FillRoom toFill is xsks) :=
  inferInstanceAs (Decidable (∀ i ∈ is, _))

lemma fillOwners_eq {toFill : Nat → Bucket Nat} : ∀ {is : List Nat} {xsks : Xsks},
    is.Nodup → FillRoom toFill is xsks → fillOwners toFill is xsks = .ok (fillAll toFill is xsks)
  | [], _, _, _ => by rw [fillAll_nil]; rfl
  | i :: is, xsks, hnd, hroom => by
    rw [List.nodup_cons] at hnd
    have hrest : FillRoom toFill is xsks := fun j hj => hroom j (List.mem_cons_of_mem i hj)
    unfold fillOwners
    split
    · rename_i h0
      rw [fillOwners_eq hnd.2 hrest, ← fillAll_cons_update hnd.1, Bucket.contents_eq_nil h0,
        XskSocketInfo.submitFill_nil, Function.update_eq_self]
    · rename_i h0
      have hr : reserve fillSize (xsks i).fq (toFill i).count.toNat = (toFill i).count.toNat :=
        (reserve_eq_iff (Nat.pos_of_ne_zero h0)).2
          ((hroom i (List.mem_cons_self i is)).resolve_left h0)
      dsimp only
      rw [if_neg (not_not.2 hr), ← fillAll_cons_update hnd.1]
      refine fillOwners_eq hnd.2 fun j hj => ?_
      have hji : j ≠ i := fun h => hnd.1 (h ▸ hj)
      simpa [Function.update_noteq hji] using hrest j hj

/-! ### The effect of a call -/

/-- `sent`: the number of completions `complete_tx` drains. -/
def drained (conf : Conf) (xsk : XskSocketInfo) : Nat :=
  if xsk.outstandingTx = 0 then 0 else peek xsk.cq (ndescs conf xsk)

/-- The drained socket after the call: completions released, counters advanced. -/
def drainSocket (conf : Conf) (xsk : XskSocketInfo) : XskSocketInfo :=
  if xsk.outstandingTx = 0 then xsk
  else ((kickTrigger conf xsk).releaseCq (drained conf xsk)).subOutstanding (drained conf xsk)

/-- The buckets of the bucketing loop, when every owner is a row. -/
def fillBuckets (conf : Conf) (addrs : List Nat) : Nat → Bucket Nat :=
  fun o => Bucket.empty.pushAll (ownedBy (ownerShift conf.xskFrameSize) o addrs)

/-- The sockets after `complete_tx(xsks, i)`. -/
def afterCompleteTx (conf : Conf) (xsks : Xsks) (i : Nat) : Xsks :=
  fillAll (fillBuckets conf ((xsks i).cq.take (drained conf (xsks i))))
    (List.range conf.numInterfaces) (Function.update xsks i (drainSocket conf (xsks i)))

lemma drained_eq (conf : Conf) (xsk : XskSocketInfo) :
    drained conf xsk = min (min xsk.cq.length xsk.outstandingTx) conf.batchSize := by
  unfold drained peek ndescs
  split_ifs <;> omega

lemma drained_le_length (conf : Conf) (xsk : XskSocketInfo) : drained conf xsk ≤ xsk.cq.length := by
  rw [drained_eq]; omega

/-- A call finds completions to drain when its socket has some and counts them outstanding. -/
lemma drained_pos {conf : Conf} {xsk : XskSocketInfo} (hb : 0 < conf.batchSize)
    (hout : xsk.cq.length ≤ xsk.outstandingTx) (hcq : 0 < xsk.cq.length) : 0 < drained conf xsk := by
  rw [drained_eq]; omega

section DrainSocket

variable (conf : Conf) (xsk : XskSocketInfo)

@[simp] lemma drainSocket_rx : (drainSocket conf xsk).rx = xsk.rx := by
  unfold drainSocket; split <;> simp
@[simp] lemma drainSocket_tx : (drainSocket conf xsk).tx = xsk.tx := by
  unfold drainSocket; split <;> simp
@[simp] lemma drainSocket_fq : (drainSocket conf xsk).fq = xsk.fq := by
  unfold drainSocket; split <;> simp
@[simp] lemma drainSocket_cq : (drainSocket conf xsk).cq = xsk.cq.drop (drained conf xsk) := by
  unfold drainSocket drained; split <;> simp_all
@[simp] lemma drainSocket_outstandingTx :
    (drainSocket conf xsk).outstandingTx = xsk.outstandingTx - drained conf xsk := by
  unfold drainSocket drained; split <;> simp_all
@[simp] lemma drainSocket_buffer : (drainSocket conf xsk).buffer = xsk.buffer := by
  unfold drainSocket; split <;> simp
@[simp] lemma drainSocket_bindFlags : (drainSocket conf xsk).bindFlags = xsk.bindFlags := by
  unfold drainSocket; split <;> simp
@[simp] lemma drainSocket_txNeedsWakeup :
    (drainSocket conf xsk).txNeedsWakeup = xsk.txNeedsWakeup := by
  unfold drainSocket; split <;> simp
@[simp] lemma drainSocket_fqNeedsWakeup :
    (drainSocket conf xsk).fqNeedsWakeup = xsk.fqNeedsWakeup := by
  unfold drainSocket; split <;> simp

end DrainSocket

lemma contents_fillBuckets_nil (conf : Conf) (o : Nat) : (fillBuckets conf [] o).contents = [] := by
  simp [fillBuckets, ownedBy]

lemma fillBuckets_of_bucketByOwner {conf : Conf} {addrs : List Nat} {toFill : Nat → Bucket Nat}
    (h : bucketByOwner conf.numInterfaces (ownerShift conf.xskFrameSize) addrs = .ok toFill) :
    toFill = fillBuckets conf addrs := by
  have h' := bucketByOwner_eq (ownersIn_of_foldlM addrs _ _ h)
  rw [h] at h'
  exact Except.ok.inj h'

lemma afterCompleteTx_of_drained_zero {conf : Conf} {xsks : Xsks} {i : Nat}
    (hd : drained conf (xsks i) = 0) :
    afterCompleteTx conf xsks i = Function.update xsks i (drainSocket conf (xsks i)) := by
  rw [afterCompleteTx, hd, List.take_zero, fillAll_of_contents_nil (contents_fillBuckets_nil conf)]

/-- `outstanding_tx -= sent`, the last statement of `complete_tx`, commutes with the fill
loop, which writes only fill rings. -/
lemma fillAll_subOutstanding (T : Nat → Bucket Nat) (is : List Nat) (xsks : Xsks)
    (i : Nat) (x : XskSocketInfo) (sent : Nat) :
    Function.update (fillAll T is (Function.update xsks i x)) i
        ((fillAll T is (Function.update xsks i x) i).subOutstanding sent) =
      fillAll T is (Function.update xsks i (x.subOutstanding sent)) := by
  funext o
  by_cases ho : o = i
  · subst ho
    simp only [fillAll, Function.update_same]
    split_ifs <;> rfl
  · simp [fillAll, ho]

/-- A call of `complete_tx` that returns has done what `afterCompleteTx` says, and every
drained address named a row of `to_fill`. -/
theorem completeTx_ok {conf : Conf} {xsks xsks' : Xsks} {i : Nat}
    (h : completeTx conf xsks i = .ok xsks') :
    OwnersIn conf.numInterfaces (ownerShift conf.xskFrameSize)
        ((xsks i).cq.take (drained conf (xsks i))) ∧ xsks' = afterCompleteTx conf xsks i := by
  unfold completeTx at h
  split at h
  · rename_i h0
    cases h
    have hd : drained conf (xsks i) = 0 := by simp [drained, h0]
    rw [afterCompleteTx_of_drained_zero hd, hd, drainSocket, if_pos h0]
    simp [OwnersIn]
  · rename_i h0
    dsimp only at h
    have hd : drained conf (xsks i) = peek (xsks i).cq (ndescs conf (xsks i)) := by
      simp [drained, h0]
    simp only [kickTrigger_cq, ndescs_kickTrigger, ← hd] at h
    split at h
    · rename_i hs
      cases h
      rw [afterCompleteTx_of_drained_zero hs, hs, drainSocket, if_neg h0, hs]
      simp [OwnersIn]
    · obtain ⟨toFill, hb, h⟩ := bind_eq_ok h
      obtain ⟨xsks₁, hf, h⟩ := bind_eq_ok h
      cases h
      refine ⟨ownersIn_of_foldlM _ _ _ hb, ?_⟩
      rw [fillOwners_ok (List.nodup_range _) hf, fillAll_subOutstanding, afterCompleteTx,
        ← fillBuckets_of_bucketByOwner hb, drainSocket, if_neg h0]

/-- With nothing outstanding `complete_tx` returns at once. -/
lemma completeTx_idle {conf : Conf} {xsks : Xsks} {i : Nat} (h : (xsks i).outstandingTx = 0) :
    completeTx conf xsks i = .ok xsks := by
  rw [completeTx, if_pos h]
  rfl

/-- `complete_tx` returns when every drained address names a row of `to_fill` and every
bucket fits its owner's fill ring. -/
theorem completeTx_eq {conf : Conf} {xsks : Xsks} {i : Nat}
    (hown : OwnersIn conf.numInterfaces (ownerShift conf.xskFrameSize)
      ((xsks i).cq.take (drained conf (xsks i))))
    (hroom : FillRoom (fillBuckets conf ((xsks i).cq.take (drained conf (xsks i))))
      (List.range conf.numInterfaces) xsks) :
    completeTx conf xsks i = .ok (afterCompleteTx conf xsks i) := by
  unfold completeTx
  split
  · rename_i h0
    have hd : drained conf (xsks i) = 0 := by simp [drained, h0]
    rw [afterCompleteTx_of_drained_zero hd, drainSocket, if_pos h0, Function.update_eq_self]
    rfl
  · rename_i h0
    dsimp only
    have hd : drained conf (xsks i) = peek (xsks i).cq (ndescs conf (xsks i)) := by
      simp [drained, h0]
    simp only [kickTrigger_cq, ndescs_kickTrigger, ← hd]
    split
    · rename_i hs
      rw [afterCompleteTx_of_drained_zero hs, drainSocket, if_neg h0, hs]
      rfl
    · rw [bucketByOwner_eq hown, ok_bind, fillOwners_eq (List.nodup_range _), ok_bind,
        fillAll_subOutstanding, afterCompleteTx, drainSocket, if_neg h0]
      · rfl
      · intro j hj
        by_cases hji : j = i
        · subst hji; simpa [fillBuckets] using hroom j hj
        · simpa [Function.update_noteq hji, fillBuckets] using hroom j hj

/-- An owner outside the rows of `to_fill` ends the call before anything is released. -/
theorem completeTx_error {conf : Conf} {xsks : Xsks} {i : Nat}
    (hown : ¬ OwnersIn conf.numInterfaces (ownerShift conf.xskFrameSize)
      ((xsks i).cq.take (drained conf (xsks i)))) :
    completeTx conf xsks i = .error .outOfBounds := by
  have h0 : (xsks i).outstandingTx ≠ 0 := fun h0 => hown (by simp [drained, h0, OwnersIn])
  have hd : drained conf (xsks i) = peek (xsks i).cq (ndescs conf (xsks i)) := by
    simp [drained, h0]
  have hs : drained conf (xsks i) ≠ 0 := fun hs => hown (by simp [hs, OwnersIn])
  unfold completeTx
  rw [if_neg h0]
  dsimp only
  simp only [kickTrigger_cq, ndescs_kickTrigger, ← hd]
  rw [if_neg hs]
  exact congrArg (· >>= _) (foldlM_bucketStep_error _ _ hown)

section AfterCompleteTx

variable (conf : Conf) (xsks : Xsks) (i o : Nat)

@[simp] lemma fillAll_rx (T : Nat → Bucket Nat) (is : List Nat) (xsks : Xsks) (o : Nat) :
    (fillAll T is xsks o).rx = (xsks o).rx := by unfold fillAll; split <;> rfl
@[simp] lemma fillAll_tx (T : Nat → Bucket Nat) (is : List Nat) (xsks : Xsks) (o : Nat) :
    (fillAll T is xsks o).tx = (xsks o).tx := by unfold fillAll; split <;> rfl
@[simp] lemma fillAll_cq (T : Nat → Bucket Nat) (is : List Nat) (xsks : Xsks) (o : Nat) :
    (fillAll T is xsks o).cq = (xsks o).cq := by unfold fillAll; split <;> rfl
@[simp] lemma fillAll_outstandingTx (T : Nat → Bucket Nat) (is : List Nat) (xsks : Xsks) (o : Nat) :
    (fillAll T is xsks o).outstandingTx = (xsks o).outstandingTx := by unfold fillAll; split <;> rfl
@[simp] lemma fillAll_buffer (T : Nat → Bucket Nat) (is : List Nat) (xsks : Xsks) (o : Nat) :
    (fillAll T is xsks o).buffer = (xsks o).buffer := by unfold fillAll; split <;> rfl
@[simp] lemma fillAll_bindFlags (T : Nat → Bucket Nat) (is : List Nat) (xsks : Xsks) (o : Nat) :
    (fillAll T is xsks o).bindFlags = (xsks o).bindFlags := by unfold fillAll; split <;> rfl
@[simp] lemma fillAll_stats (T : Nat → Bucket Nat) (is : List Nat) (xsks : Xsks) (o : Nat) :
    (fillAll T is xsks o).stats = (xsks o).stats := by unfold fillAll; split <;> rfl
@[simp] lemma fillAll_txNeedsWakeup (T : Nat → Bucket Nat) (is : List Nat) (xsks : Xsks) (o : Nat) :
    (fillAll T is xsks o).txNeedsWakeup = (xsks o).txNeedsWakeup := by unfold fillAll; split <;> rfl
@[simp] lemma fillAll_fqNeedsWakeup (T : Nat → Bucket Nat) (is : List Nat) (xsks : Xsks) (o : Nat) :
    (fillAll T is xsks o).fqNeedsWakeup = (xsks o).fqNeedsWakeup := by unfold fillAll; split <;> rfl
lemma fillAll_fq (T : Nat → Bucket Nat) (is : List Nat) (xsks : Xsks) (o : Nat) :
    (fillAll T is xsks o).fq = (xsks o).fq ++ if o ∈ is then (T o).contents else [] := by
  unfold fillAll; split <;> simp

lemma afterCompleteTx_fq : (afterCompleteTx conf xsks i o).fq = (xsks o).fq ++
    if o < conf.numInterfaces then
      (fillBuckets conf ((xsks i).cq.take (drained conf (xsks i))) o).contents else [] := by
  by_cases ho : o = i
  · subst ho; simp [afterCompleteTx, fillAll_fq]
  · simp [afterCompleteTx, fillAll_fq, ho]

lemma afterCompleteTx_cq : (afterCompleteTx conf xsks i o).cq =
    if o = i then (xsks i).cq.drop (drained conf (xsks i)) else (xsks o).cq := by
  by_cases ho : o = i
  · subst ho; simp [afterCompleteTx]
  · simp [afterCompleteTx, ho]

lemma afterCompleteTx_outstandingTx : (afterCompleteTx conf xsks i o).outstandingTx =
    if o = i then (xsks i).outstandingTx - drained conf (xsks i) else (xsks o).outstandingTx := by
  by_cases ho : o = i
  · subst ho; simp [afterCompleteTx]
  · simp [afterCompleteTx, ho]

@[simp] lemma afterCompleteTx_rx : (afterCompleteTx conf xsks i o).rx = (xsks o).rx := by
  by_cases ho : o = i
  · subst ho; simp [afterCompleteTx]
  · simp [afterCompleteTx, ho]
@[simp] lemma afterCompleteTx_tx : (afterCompleteTx conf xsks i o).tx = (xsks o).tx := by
  by_cases ho : o = i
  · subst ho; simp [afterCompleteTx]
  · simp [afterCompleteTx, ho]
@[simp] lemma afterCompleteTx_buffer : (afterCompleteTx conf xsks i o).buffer = (xsks o).buffer := by
  by_cases ho : o = i
  · subst ho; simp [afterCompleteTx]
  · simp [afterCompleteTx, ho]
@[simp] lemma afterCompleteTx_bindFlags :
    (afterCompleteTx conf xsks i o).bindFlags = (xsks o).bindFlags := by
  by_cases ho : o = i
  · subst ho; simp [afterCompleteTx]
  · simp [afterCompleteTx, ho]
@[simp] lemma afterCompleteTx_txNeedsWakeup :
    (afterCompleteTx conf xsks i o).txNeedsWakeup = (xsks o).txNeedsWakeup := by
  by_cases ho : o = i
  · subst ho; simp [afterCompleteTx]
  · simp [afterCompleteTx, ho]
@[simp] lemma afterCompleteTx_fqNeedsWakeup :
    (afterCompleteTx conf xsks i o).fqNeedsWakeup = (xsks o).fqNeedsWakeup := by
  by_cases ho : o = i
  · subst ho; simp [afterCompleteTx]
  · simp [afterCompleteTx, ho]

end AfterCompleteTx

/-! ### The single-interface specialisation -/

/-- The socket after `complete_tx_1if(xsk)`: drained as by `complete_tx`, and every
drained address back on the same fill ring, in order. -/
def afterCompleteTx1if (conf : Conf) (xsk : XskSocketInfo) : XskSocketInfo :=
  (drainSocket conf xsk).submitFill (xsk.cq.take (drained conf xsk))

@[simp] lemma afterCompleteTx1if_tx (conf : Conf) (xsk : XskSocketInfo) :
    (afterCompleteTx1if conf xsk).tx = xsk.tx := drainSocket_tx conf xsk

@[simp] lemma afterCompleteTx1if_buffer (conf : Conf) (xsk : XskSocketInfo) :
    (afterCompleteTx1if conf xsk).buffer = xsk.buffer := drainSocket_buffer conf xsk

@[simp] lemma afterCompleteTx1if_fq (conf : Conf) (xsk : XskSocketInfo) :
    (afterCompleteTx1if conf xsk).fq = xsk.fq ++ xsk.cq.take (drained conf xsk) := by
  rw [afterCompleteTx1if, XskSocketInfo.submitFill_fq, drainSocket_fq]

@[simp] lemma afterCompleteTx1if_rx (conf : Conf) (xsk : XskSocketInfo) :
    (afterCompleteTx1if conf xsk).rx = xsk.rx := drainSocket_rx conf xsk

@[simp] lemma afterCompleteTx1if_cq (conf : Conf) (xsk : XskSocketInfo) :
    (afterCompleteTx1if conf xsk).cq = xsk.cq.drop (drained conf xsk) := drainSocket_cq conf xsk

theorem completeTx1if_ok {conf : Conf} {xsk xsk' : XskSocketInfo}
    (h : completeTx1if conf xsk = .ok xsk') : xsk' = afterCompleteTx1if conf xsk := by
  unfold completeTx1if at h
  split at h
  · rename_i h0
    cases h
    simp [afterCompleteTx1if, drainSocket, drained, h0]
  · rename_i h0
    dsimp only at h
    have hd : drained conf xsk = peek xsk.cq (ndescs conf xsk) := by simp [drained, h0]
    simp only [kickTrigger_cq, ndescs_kickTrigger, kickTrigger_fq, ← hd] at h
    split at h
    · rename_i hs
      cases h
      simp [afterCompleteTx1if, drainSocket, h0, hs]
    · split at h
      · cases h
      · cases h
        simp only [afterCompleteTx1if, drainSocket, if_neg h0]
        rfl

theorem completeTx1if_eq {conf : Conf} {xsk : XskSocketInfo}
    (hroom : drained conf xsk = 0 ∨ xsk.fq.length + drained conf xsk ≤ fillSize) :
    completeTx1if conf xsk = .ok (afterCompleteTx1if conf xsk) := by
  unfold completeTx1if
  split
  · rename_i h0
    simp [afterCompleteTx1if, drainSocket, drained, h0]; rfl
  · rename_i h0
    dsimp only
    have hd : drained conf xsk = peek xsk.cq (ndescs conf xsk) := by simp [drained, h0]
    simp only [kickTrigger_cq, ndescs_kickTrigger, kickTrigger_fq, ← hd]
    split
    · rename_i hs
      simp [afterCompleteTx1if, drainSocket, h0, hs]; rfl
    · rename_i hs
      rw [if_neg (not_not.2 ((reserve_eq_iff (Nat.pos_of_ne_zero hs)).2 (hroom.resolve_left hs)))]
      simp only [afterCompleteTx1if, drainSocket, if_neg h0]
      rfl

end Xsknf
