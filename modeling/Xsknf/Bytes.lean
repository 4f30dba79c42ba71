import Xsknf.ProcessBatch

/-!
# The bytes of the regions

The worker's regions are byte maps (`Mem`), and three operations of the model write them:
the driver's rx (`writeBytes`), the classifier (`classifyWrites`) and the copy of the
forwarding loop (`copyPackets`).  This file says what each of them writes: nothing outside
the frames of the descriptors it is given (`WritesIn`), and, for the copy, the source
region's bytes of each descriptor in the destination region (`pktBytes_copyPackets`).

`recordBatch` is the history the packet-bytes invariant keeps: the bytes each packet of a
classified batch is left with, by frame.
-/

namespace Xsknf

/-- The `len` bytes of region `r` from offset `start`. -/
def readBytes (mem : Mem) (r start len : Nat) : List UInt8 :=
  (List.range len).map fun k => mem r (start + k)

/-- The bytes a descriptor refers to in region `r`: `len` bytes at its data offset
`xsk_umem__add_offset_to_addr(addr)`. -/
def pktBytes (mem : Mem) (r : Nat) (d : PktInfo) : List UInt8 :=
  readBytes mem r (xskUmemAddOffsetToAddr d.addr) d.len

/-- A descriptor whose data offset is its address and whose bytes lie inside its frame of
`fs` bytes, as every descriptor of an aligned run does. -/
def InFrame (fs : Nat) (d : PktInfo) : Prop :=
  xskUmemAddOffsetToAddr d.addr = d.addr ∧ d.addr % fs + d.len ≤ fs

/-- `mem'` is `mem` except inside the frames `F` (of `fs` bytes) of region `r`. -/
def WritesIn (fs r : Nat) (F : List Nat) (mem mem' : Mem) : Prop :=
  ∀ r' a, (r' = r → a / fs ∉ F) → mem' r' a = mem r' a

lemma add_div_of_mod_add_lt {a k fs : Nat} (h : a % fs + k < fs) : (a + k) / fs = a / fs := by
  have := Nat.div_add_mod a fs
  rw [Nat.mul_comm] at this
  refine Nat.div_eq_of_lt_le ?_ ?_
  · omega
  · rw [Nat.succ_mul]; omega

namespace WritesIn

variable {fs r : Nat} {F G : List Nat} {mem₁ mem₂ mem₃ : Mem}

lemma refl (mem : Mem) : WritesIn fs r F mem mem := fun _ _ _ => rfl

lemma trans (h₁ : WritesIn fs r F mem₁ mem₂) (h₂ : WritesIn fs r G mem₂ mem₃) :
    WritesIn fs r (F ++ G) mem₁ mem₃ := fun r' a ha => by
  rw [h₂ r' a fun hr hG => ha hr (List.mem_append_right F hG),
    h₁ r' a fun hr hF => ha hr (List.mem_append_left G hF)]

end WritesIn

/-- A descriptor outside the frames a write touches keeps its bytes. -/
lemma pktBytes_of_writesIn {fs r r' : Nat} {F : List Nat} {mem mem' : Mem} {d : PktInfo}
    (h : WritesIn fs r F mem mem') (hd : InFrame fs d) (hF : r' = r → d.addr / fs ∉ F) :
    pktBytes mem' r' d = pktBytes mem r' d := by
  unfold pktBytes readBytes
  rw [hd.1]
  refine List.map_congr_left fun k hk => h r' _ fun hr => ?_
  have := List.mem_range.1 hk
  rw [add_div_of_mod_add_lt (by have := hd.2; omega)]
  exact hF hr

/-- A write of `l` bytes from `start`, inside one frame. -/
lemma writesIn_update {fs r start l : Nat} {mem : Mem} {f : Nat → UInt8}
    (h : start % fs + l ≤ fs) :
    WritesIn fs r [start / fs] mem
      (Function.update mem r fun a => if start ≤ a ∧ a < start + l then f a else mem r a) :=
  fun r' a ha => by
    by_cases hr : r' = r
    · subst hr
      rw [Function.update_same, if_neg]
      rintro ⟨h₁, h₂⟩
      refine ha rfl (List.mem_singleton.2 ?_)
      rw [show a = start + (a - start) by omega, add_div_of_mod_add_lt (by omega)]
    · rw [Function.update_noteq hr]

lemma writesIn_writeBytes {fs r start : Nat} {bytes : List UInt8} (mem : Mem)
    (h : start % fs + bytes.length ≤ fs) :
    WritesIn fs r [start / fs] mem (writeBytes mem r start bytes) :=
  writesIn_update h

lemma writesIn_memcpy {fs dst src addr len : Nat} (mem : Mem) (h : addr % fs + len ≤ fs) :
    WritesIn fs dst [addr / fs] mem (memcpy mem dst src addr len) :=
  writesIn_update h

/-- The classifier writes each packet of its batch inside the packet's frame. -/
lemma writesIn_classifyWrites (cls : Classifier) {fs r : Nat} (mem : Mem) {descs : List PktInfo}
    (h : ∀ d ∈ descs, InFrame fs d) :
    WritesIn fs r (descs.map (·.addr / fs)) mem (classifyWrites cls r mem descs) := by
  suffices key : ∀ (ps : List (Nat × PktInfo)) (mem : Mem), (∀ pd ∈ ps, InFrame fs pd.2) →
      WritesIn fs r (ps.map fun pd => pd.2.addr / fs) mem (ps.foldl (fun mem pd =>
        writeBytes mem r (xskUmemAddOffsetToAddr pd.2.addr) ((cls pd.1).2.take pd.2.len)) mem) by
    have hF : (descs.enum.map fun pd => pd.2.addr / fs) = descs.map (·.addr / fs) := by
      conv_rhs => rw [← List.enum_map_snd descs]
      rw [List.map_map]
      rfl
    rw [← hF]
    exact key descs.enum mem fun pd hpd => h _ (List.snd_mem_of_mem_enum hpd)
  intro ps
  induction ps with
  | nil => exact fun mem _ => .refl mem
  | cons pd ps ih =>
    intro mem hps
    have hd := hps pd (List.mem_cons_self _ _)
    have hw := @writesIn_writeBytes fs r (xskUmemAddOffsetToAddr pd.2.addr)
      ((cls pd.1).2.take pd.2.len) mem
      (by rw [hd.1, List.length_take]; have := hd.2; omega)
    rw [show xskUmemAddOffsetToAddr pd.2.addr / fs = pd.2.addr / fs by rw [hd.1]] at hw
    exact hw.trans (ih _ fun pd' h' => hps pd' (List.mem_cons_of_mem _ h'))

section Copy

variable {conf : Conf} {dst src : Nat}

/-- The copy writes each packet inside the packet's frame of the destination region. -/
lemma writesIn_copyPackets : ∀ {mem mem' : Mem} {ds : List PktInfo},
    copyPackets conf dst src mem ds = .ok mem' → (∀ d ∈ ds, InFrame conf.xskFrameSize d) →
      WritesIn conf.xskFrameSize dst (ds.map (·.addr / conf.xskFrameSize)) mem mem'
  | mem, mem', [], h, _ => by cases h; exact .refl mem
  | mem, mem', d :: ds, h, hd => by
    unfold copyPackets at h
    split at h
    · exact (writesIn_memcpy mem (hd d (List.mem_cons_self _ _)).2).trans
        (writesIn_copyPackets h fun e he => hd e (List.mem_cons_of_mem _ he))
    · cases h

lemma pktBytes_memcpy {mem : Mem} {d : PktInfo} (hd : xskUmemAddOffsetToAddr d.addr = d.addr) :
    pktBytes (memcpy mem dst src d.addr d.len) dst d = pktBytes mem src d := by
  unfold pktBytes readBytes memcpy
  rw [hd]
  refine List.map_congr_left fun k hk => ?_
  rw [Function.update_same, if_pos ⟨Nat.le_add_right _ _,
    Nat.add_lt_add_left (List.mem_range.1 hk) _⟩]

/-- Between two regions the copy puts each packet's source bytes at the same offset of the
destination, when the packets lie in frames of their own. -/
lemma pktBytes_copyPackets (hne : dst ≠ src) : ∀ {mem mem' : Mem} {ds : List PktInfo},
    copyPackets conf dst src mem ds = .ok mem' → (∀ d ∈ ds, InFrame conf.xskFrameSize d) →
      (ds.map (·.addr / conf.xskFrameSize)).Nodup →
        ∀ d ∈ ds, pktBytes mem' dst d = pktBytes mem src d
  | mem, mem', e :: ds, h, hin, hnd, d, hd => by
    unfold copyPackets at h
    split at h
    · rw [List.map_cons, List.nodup_cons] at hnd
      have hin' : ∀ d ∈ ds, InFrame conf.xskFrameSize d := fun d hd => hin d (List.mem_cons_of_mem _ hd)
      have he := hin e (List.mem_cons_self _ _)
      rcases List.mem_cons.1 hd with rfl | hd
      · rw [pktBytes_of_writesIn (writesIn_copyPackets h hin') he fun _ => hnd.1]
        exact pktBytes_memcpy he.1
      · rw [pktBytes_copyPackets hne h hin' hnd.2 d hd]
        exact pktBytes_of_writesIn (writesIn_memcpy mem he.2) (hin' d hd) fun h => absurd h.symm hne
    · cases h

end Copy

/-! ### The history of classified bytes -/

/-- The bytes each packet of a classified batch is left with in region `r`, recorded under
its frame. -/
def recordBatch (fs : Nat) (mem : Mem) (r : Nat) (descs : List PktInfo)
    (payload : Nat → List UInt8) : Nat → List UInt8 :=
  descs.foldl (fun p d => Function.update p (d.addr / fs) (pktBytes mem r d)) payload

section RecordBatch

variable {fs r : Nat} {mem : Mem}

@[simp] lemma recordBatch_nil (p : Nat → List UInt8) : recordBatch fs mem r [] p = p := rfl

lemma recordBatch_cons (d : PktInfo) (ds : List PktInfo) (p : Nat → List UInt8) :
    recordBatch fs mem r (d :: ds) p =
      recordBatch fs mem r ds (Function.update p (d.addr / fs) (pktBytes mem r d)) := rfl

lemma recordBatch_of_not_mem {x : Nat} : ∀ {descs : List PktInfo} {p : Nat → List UInt8},
    x ∉ descs.map (·.addr / fs) → recordBatch fs mem r descs p x = p x
  | [], _, _ => rfl
  | d :: ds, p, hx => by
    rw [List.map_cons, List.mem_cons, not_or] at hx
    rw [recordBatch_cons]
    exact (recordBatch_of_not_mem hx.2).trans (Function.update_noteq hx.1 _ _)

lemma recordBatch_of_mem : ∀ {descs : List PktInfo} {p : Nat → List UInt8} {d : PktInfo},
    (descs.map (·.addr / fs)).Nodup → d ∈ descs →
      recordBatch fs mem r descs p (d.addr / fs) = pktBytes mem r d
  | e :: ds, p, d, hnd, hd => by
    rw [List.map_cons, List.nodup_cons] at hnd
    rw [recordBatch_cons]
    rcases List.mem_cons.1 hd with rfl | hd
    · exact (recordBatch_of_not_mem hnd.1).trans (Function.update_same _ _ _)
    · exact recordBatch_of_mem hnd.2 hd

end RecordBatch

end Xsknf
