import Xsknf.Basic

/-!
# Loading the eBPF programs

`load_ebpf_programs` opens the object file, takes its first program as the XDP program, loads
the object, attaches the XDP program to every interface and, when a tc program is named, looks
it up by name and hands it to `load_tc_programs`.  The check after the lookup tests `xdp_prog`,
which is a program by then, instead of `tc_prog`: the exit "no tc program found" is dead, and a
name the object lacks reaches `load_tc_programs` as `NULL`.

`load_tc_programs` talks to the kernel over one netlink socket.  For each interface it sends
two requests that ask for an acknowledgement, the `clsact` qdisc (`RTM_NEWQDISC`) and the
egress BPF filter (`RTM_NEWTFILTER`), and checks each reply with
`mnl_cb_run(buf, ret, seq, portid, NULL, NULL)`.  Each request is stamped with `time(NULL)`,
but only the qdisc's stamp is kept in `seq`, so the filter's acknowledgement is checked
against the qdisc's stamp.

The kernel acknowledges a request with a copy of its header, so the acknowledgement carries
the request's stamp; `mnl_cb_run` refuses a reply with a foreign stamp (`mnl_nlmsg_seq_ok`) or
with an error.  With a kernel that accepts every request, `load_tc_programs` returns exactly
when no second begins between the two `time(NULL)` of any interface
(`loadTcPrograms_ok_iff`).  When one does, the process exits with "failed to add egress eBPF
filter", although the kernel installed the filter.
-/

namespace Xsknf

/-- The acknowledgement of a netlink request: the request's sequence number, and its error
code, `0` on success and a negative `errno` otherwise. -/
structure NlAck where
  seq : Nat
  error : Int
deriving DecidableEq, Repr

/-- `mnl_nlmsg_seq_ok(nlh, seq)`: a zero on either side matches anything. -/
def nlmsgSeqOk (msgSeq seq : Nat) : Bool :=
  if msgSeq ≠ 0 ∧ seq ≠ 0 then decide (msgSeq = seq) else true

/-- `mnl_cb_run` on one acknowledgement: `MNL_CB_ERROR` on a foreign sequence number or on an
error, `MNL_CB_STOP` on success. -/
def mnlCbRun (ack : NlAck) (seq : Nat) : Int :=
  if !nlmsgSeqOk ack.seq seq then -1
  else if ack.error ≠ 0 then -1
  else 0

/-- Where `load_tc_programs` exits: at the qdisc or at the filter of interface `i`. -/
inductive TcExit
  | qdisc (i : Nat)
  | filter (i : Nat)
deriving DecidableEq, Repr

/-- The iteration of `load_tc_programs` for interface `i`.  `now k` is what the `k`-th
`time(NULL)` of the loop returns and `err k` the kernel's answer to the `k`-th request, which
the kernel acknowledges with the request's own stamp. -/
def tcIteration (now : Nat → Nat) (err : Nat → Int) (i : Nat) : Except TcExit Unit := do
  let seq := now (2 * i)
  if mnlCbRun ⟨seq, err (2 * i)⟩ seq < 0 then throw (.qdisc i)
  if mnlCbRun ⟨now (2 * i + 1), err (2 * i + 1)⟩ seq < 0 then throw (.filter i)

/-- The loop of `load_tc_programs` over the interfaces, once the socket is bound. -/
def loadTcPrograms (n : Nat) (now : Nat → Nat) (err : Nat → Int) : Except TcExit Unit :=
  (List.range n).forM (tcIteration now err)

section Accepting

variable {now : Nat → Nat}

/-- With every request accepted, an iteration fails exactly when the clock ticked between its
two stamps, and then at the filter. -/
lemma tcIteration_accepting (hnow : ∀ k, now k ≠ 0) (i : Nat) :
    tcIteration now (fun _ => 0) i =
      if now (2 * i + 1) = now (2 * i) then .ok () else .error (.filter i) := by
  have hq : mnlCbRun ⟨now (2 * i), 0⟩ (now (2 * i)) = 0 := by
    simp [mnlCbRun, nlmsgSeqOk, hnow]
  have hf : mnlCbRun ⟨now (2 * i + 1), 0⟩ (now (2 * i)) =
      if now (2 * i + 1) = now (2 * i) then 0 else -1 := by
    by_cases h : now (2 * i + 1) = now (2 * i) <;> simp [mnlCbRun, nlmsgSeqOk, hnow, h]
  unfold tcIteration
  simp only [hq, hf, lt_self_iff_false, if_false]
  split <;> rfl

lemma loadTcPrograms_succ (n : Nat) (err : Nat → Int) :
    loadTcPrograms (n + 1) now err = loadTcPrograms n now err >>= fun _ => tcIteration now err n := by
  simp only [loadTcPrograms, List.range_succ, List.forM_append, List.forM_cons, List.forM_nil]
  cases (List.range n).forM (tcIteration now err) with
  | error e => rfl
  | ok u =>
    show tcIteration now err n >>= (fun _ => pure ()) = tcIteration now err n
    cases tcIteration now err n <;> rfl

/-- With a kernel that accepts every request, `load_tc_programs` returns exactly when
`time(NULL)` gives the same second for the qdisc and the filter of every interface: the
filter's acknowledgement is checked against the qdisc's stamp. -/
theorem loadTcPrograms_ok_iff (n : Nat) (hnow : ∀ k, now k ≠ 0) :
    loadTcPrograms n now (fun _ => 0) = .ok () ↔ ∀ i < n, now (2 * i + 1) = now (2 * i) := by
  induction n with
  | zero => exact ⟨fun _ i hi => absurd hi (Nat.not_lt_zero i), fun _ => rfl⟩
  | succ n ih =>
    rw [loadTcPrograms_succ]
    cases h : loadTcPrograms n now (fun _ => 0) with
    | error e =>
      have hn : ¬ ∀ i < n, now (2 * i + 1) = now (2 * i) := fun hs => by
        rw [ih.2 hs] at h; cases h
      exact ⟨(fun h => by cases h), fun hs => absurd (fun i hi => hs i (by omega)) hn⟩
    | ok u =>
      have hn := ih.1 h
      rw [ok_bind, tcIteration_accepting hnow]
      by_cases hc : now (2 * n + 1) = now (2 * n)
      · rw [if_pos hc]
        exact ⟨fun _ i hi => (Nat.lt_succ_iff_lt_or_eq.1 hi).elim (hn i) (· ▸ hc), fun _ => rfl⟩
      · rw [if_neg hc]
        exact ⟨(fun h => by cases h), fun hs => absurd (hs n (Nat.lt_succ_self n)) hc⟩

end Accepting

/-! ### `load_ebpf_programs` -/

/-- Why `load_ebpf_programs` ends the process, by the message it prints. -/
inductive EbpfExit
  /-- "unable to parse eBPF file". -/
  | parse
  /-- "no '%s' xdp program found". -/
  | noXdpProgram
  /-- "unable to load eBPF file". -/
  | load
  /-- "failed setting xdp program on %s". -/
  | attach (i : Nat)
  /-- "no '%s' tc program found". -/
  | noTcProgram
  /-- An exit of `load_tc_programs`. -/
  | tc (e : TcExit)
deriving DecidableEq, Repr

/-- What the libbpf calls of `load_ebpf_programs` return: whether `bpf_object__open_file`
parses the file, the program `bpf_object__next_program` gives, the result of
`bpf_object__load`, of `bpf_xdp_attach` on each interface, and the program
`bpf_object__find_program_by_name` finds.  A program is named by its fd, `NULL` by `none`. -/
structure BpfAnswers where
  opened : Bool
  firstProgram : Option Nat
  loadErr : Int
  attachErr : Nat → Int
  tcProgram : Option Nat

/-- The loop of `bpf_xdp_attach(ifindexes[i], bpf_program__fd(xdp_prog), ...)`: the first
interface it fails on, if any. -/
def attachXdp (bpf : BpfAnswers) (n : Nat) : Except Nat Unit :=
  (List.range n).forM fun i => if bpf.attachErr i < 0 then throw i else pure ()

/-- `load_ebpf_programs` for `n` interfaces: on success, the tc program it hands to
`load_tc_programs` when `tc_progname` is not empty, after which `egress_ebpf_program` is set. -/
def loadEbpfPrograms (bpf : BpfAnswers) (n : Nat) (tcProgname : List Char) (now : Nat → Nat)
    (err : Nat → Int) : Except EbpfExit (Option (Option Nat)) := do
  if !bpf.opened then throw .parse
  let xdpProg := bpf.firstProgram
  if xdpProg.isNone then throw .noXdpProgram
  if bpf.loadErr ≠ 0 then throw .load
  if let .error i := attachXdp bpf n then throw (.attach i)
  if tcProgname ≠ [] then
    let tcProg := bpf.tcProgram
    if xdpProg.isNone then throw .noTcProgram
    match loadTcPrograms n now err with
    | .error e => throw (.tc e)
    | .ok () => pure (some tcProg)
  else pure none

/-- A clock whose every reading begins a new second. -/
def tickingClock (k : Nat) : Nat := 1700000000 + k

theorem loadTcPrograms_ok_iff_ticking :
    loadTcPrograms 1 tickingClock (fun _ => 0) = .error (.filter 0) ∧
      (loadTcPrograms 1 tickingClock (fun _ => 0) = .ok () ↔
        ∀ i < 1, tickingClock (2 * i + 1) = tickingClock (2 * i)) :=
  ⟨rfl, loadTcPrograms_ok_iff 1 fun k => by simp [tickingClock]⟩

end Xsknf
