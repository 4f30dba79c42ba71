import Mathlib.Data.List.Infix
import Mathlib.Data.Multiset.Basic

/-!
# Counters, stack buckets and rings

The data path of `xsknf.c` is built from three kinds of objects, modelled here once.

* The stack arrays of `process_batch` and `complete_tx` (`to_drop`, `to_tx[i]`,
  `to_fill[i]`) are filled through `uint8_t` counters (`ndrop`, `ntx[i]`, `nfill[i]`),
  whose comments say that they "support a max batch size of 511 packets".  A counter
  wraps at 256, and the array is read back only up to the counter: `Bucket`.
* The four rings of an AF_XDP socket are single-producer single-consumer queues of a
  fixed size; `reserve` gives all the requested slots or none, and `peek` gives as many
  of the entries the producer has published as are requested.
* A fatal path ends the process: `exit_with_error` runs the cleanup and exits, `usage`
  exits while the command line is parsed, and an index outside its array or a use of an
  object the process does not hold is undefined behaviour.  Each is a `Fault`.
-/

namespace Xsknf

/-- The ways a step of the data path can end the process instead of returning. -/
inductive Fault
  /-- `exit_with_error(error)`: print, run `xsknf_cleanup`, exit with `EXIT_FAILURE`. -/
  | exitWithError (error : Int)
  /-- An index or a pointer outside the array or the mapping it points into. -/
  | outOfBounds
  /-- `usage()` after the diagnostic `msg`, if there is one: print the help text, exit with
  `EXIT_FAILURE`. -/
  | usage (msg : String)
  /-- A use of an object the process does not hold: a `NULL` or freed pointer dereferenced
  or freed, or a thread joined that was never created or was joined before. -/
  | invalidObject
deriving DecidableEq, Repr

@[simp] lemma ok_bind {ε α β : Type} (a : α) (k : α → Except ε β) :
    (Except.ok a >>= k) = k a := rfl

lemma bind_eq_ok {ε α β : Type} {m : Except ε α} {k : α → Except ε β} {b : β}
    (h : m >>= k = .ok b) : ∃ a, m = .ok a ∧ k a = .ok b := by
  cases m with
  | error e => cases h
  | ok a => exact ⟨a, rfl, h⟩

/-- A loop `l.foldlM f s` whose every step keeps `P` keeps it. -/
lemma foldlM_inv {α σ ε : Type} {f : σ → α → Except ε σ} {P : σ → Prop}
    (hstep : ∀ s a s', P s → f s a = .ok s' → P s') :
    ∀ {l : List α} {s s' : σ}, P s → l.foldlM f s = .ok s' → P s'
  | [], _, _, hs, h => by cases h; exact hs
  | _ :: _, _, _, hs, h => by
    obtain ⟨_, h₁, h₂⟩ := bind_eq_ok h
    exact foldlM_inv hstep (hstep _ _ _ hs h₁) h₂

@[simp] lemma UInt8.toNat_add_one (a : UInt8) : (a + 1).toNat = (a.toNat + 1) % 256 := by
  simp [UInt8.toNat, UInt8.add_def, Fin.val_add]

/-- A stack array of `batch_size` entries written at the position held by a `uint8_t`
counter and read back up to that counter, as `to_drop`/`ndrop`, `to_tx[i]`/`ntx[i]` and
`to_fill[i]`/`nfill[i]` are. -/
structure Bucket (α : Type) where
  slots : Nat → α
  count : UInt8

namespace Bucket

variable {α : Type}

/-- A fresh array with its counter at `0` (`uint8_t ndrop = 0, ntx[...] = {0}`). -/
def empty [Inhabited α] : Bucket α := ⟨fun _ => default, 0⟩

/-- `a[n] = x; n++`. -/
def push (b : Bucket α) (x : α) : Bucket α :=
  ⟨Function.update b.slots b.count.toNat x, b.count + 1⟩

/-- The entries `a[0 .. n)` that the code reads back. -/
def contents (b : Bucket α) : List α := (List.range b.count.toNat).map b.slots

def pushAll (b : Bucket α) (xs : List α) : Bucket α := xs.foldl push b

lemma count_lt (b : Bucket α) : b.count.toNat < 256 := b.count.toNat_lt_size

@[simp] lemma count_empty [Inhabited α] : (empty : Bucket α).count = 0 := rfl

@[simp] lemma contents_empty [Inhabited α] : (empty : Bucket α).contents = [] := rfl

lemma contents_eq_nil {b : Bucket α} (h : b.count.toNat = 0) : b.contents = [] := by
  simp [contents, h]

lemma length_contents (b : Bucket α) : b.contents.length = b.count.toNat := by
  simp [contents]

@[simp] lemma pushAll_nil (b : Bucket α) : b.pushAll [] = b := rfl

lemma pushAll_append (b : Bucket α) (xs ys : List α) :
    b.pushAll (xs ++ ys) = (b.pushAll xs).pushAll ys := List.foldl_append _ _ _ _

@[simp] lemma pushAll_cons (b : Bucket α) (x : α) (xs : List α) :
    b.pushAll (x :: xs) = (b.push x).pushAll xs := rfl

lemma count_pushAll (b : Bucket α) (xs : List α) :
    (b.pushAll xs).count.toNat = (b.count.toNat + xs.length) % 256 := by
  induction xs generalizing b with
  | nil => simpa using (Nat.mod_eq_of_lt b.count_lt).symm
  | cons x xs ih =>
    rw [pushAll_cons, ih]
    simp only [push, UInt8.toNat_add_one, List.length_cons]
    omega

/-- Below the wrap, a push appends. -/
lemma contents_push_of_lt (b : Bucket α) (x : α) (h : b.count.toNat + 1 < 256) :
    (b.push x).contents = b.contents ++ [x] := by
  have hc : (b.push x).count.toNat = b.count.toNat + 1 := by
    simp [push, Nat.mod_eq_of_lt h]
  simp only [contents, hc, List.range_succ, List.map_append, List.map_cons, List.map_nil]
  congr 1
  · refine List.map_congr_left fun p hp => ?_
    exact Function.update_noteq (Nat.ne_of_lt (List.mem_range.1 hp)) _ _
  · simp [push]

/-- At the wrap, the counter falls back to `0` and nothing is read back. -/
lemma contents_push_of_wrap (b : Bucket α) (x : α) (h : b.count.toNat = 255) :
    (b.push x).contents = [] := by
  simp [contents, push, h]

lemma contents_push_suffix (b : Bucket α) (x : α) :
    (b.push x).contents <:+ b.contents ++ [x] := by
  rcases Nat.lt_or_ge (b.count.toNat + 1) 256 with h | h
  · rw [contents_push_of_lt b x h]
  · rw [contents_push_of_wrap b x (by have := b.count_lt; omega)]
    exact List.nil_suffix

lemma contents_pushAll_suffix (b : Bucket α) (xs : List α) :
    (b.pushAll xs).contents <:+ b.contents ++ xs := by
  induction xs generalizing b with
  | nil => simp
  | cons x xs ih =>
    obtain ⟨t, ht⟩ := contents_push_suffix b x
    exact (ih (b.push x)).trans ⟨t, by rw [← List.append_assoc, ht]; simp⟩

lemma contents_pushAll_of_lt (b : Bucket α) (xs : List α)
    (h : b.count.toNat + xs.length < 256) : (b.pushAll xs).contents = b.contents ++ xs := by
  induction xs generalizing b with
  | nil => simp
  | cons x xs ih =>
    simp only [List.length_cons] at h
    have hx : b.count.toNat + 1 < 256 := by omega
    have hc : (b.push x).count.toNat = b.count.toNat + 1 := by
      simp [push, Nat.mod_eq_of_lt hx]
    rw [pushAll_cons, ih _ (by omega), contents_push_of_lt b x hx]
    simp

/-- A bucket filled from empty with fewer than 256 entries reads back exactly them. -/
lemma contents_empty_pushAll [Inhabited α] (xs : List α) (h : xs.length < 256) :
    (empty.pushAll xs).contents = xs := by
  simpa using contents_pushAll_of_lt empty xs (by simpa using h)

lemma contents_empty_pushAll_le [Inhabited α] (xs : List α) :
    ((empty.pushAll xs).contents : Multiset α) ≤ xs :=
  Multiset.coe_le.2 (by simpa using (contents_pushAll_suffix empty xs).sublist.subperm)

end Bucket

/-! ### Rings

The ring sizes: `XSK_RING_CONS__DEFAULT_NUM_DESCS` and `XSK_RING_PROD__DEFAULT_NUM_DESCS` of
libxdp, and `cfg.rx_size`, `cfg.tx_size`, `umem_cfg.fill_size` and `umem_cfg.comp_size` as
`xsk_configure_socket` and `xsk_configure_umem` set them. -/

def xskRingConsDefaultNumDescs : Nat := 2048

def xskRingProdDefaultNumDescs : Nat := 2048

def rxSize : Nat := xskRingConsDefaultNumDescs
def txSize : Nat := xskRingProdDefaultNumDescs
def fillSize : Nat := xskRingProdDefaultNumDescs * 2
def compSize : Nat := xskRingConsDefaultNumDescs

/-- `xsk_ring_prod__reserve`: the `nb` requested slots of a ring of `size` entries holding
`ring`, or none at all. -/
def reserve {α : Type} (size : Nat) (ring : List α) (nb : Nat) : Nat :=
  if nb ≤ size - ring.length then nb else 0

/-- `xsk_ring_cons__peek`: up to `nb` of the published entries.  libxdp re-reads the
producer index only when its cached count of entries is zero, so a call may hand out fewer
than are published, but at least one when there are any; the model hands out all it may. -/
def peek {α : Type} (ring : List α) (nb : Nat) : Nat := min nb ring.length

lemma reserve_eq_iff {α : Type} {size nb : Nat} {ring : List α} (h : 0 < nb) :
    reserve size ring nb = nb ↔ ring.length + nb ≤ size := by
  unfold reserve; split <;> omega

end Xsknf
