import Xsknf.Socket
import Mathlib.Data.Int.Bitwise
import Mathlib.Data.List.Basic

/-!
# The command line

`xsknf_parse_args` copies `default_conf`, applies the options `getopt_long` returns one at a
time, and then checks the result: at least one interface, and a power-of-two frame size
unless chunks are unaligned.  `getopt_long` belongs to the C library, so the model starts
from what it returns: each option's character, `'?'` for one it does not know, with its
`optarg`.

Every `-i` writes `bind_flags` and `interfaces` at position `num_interfaces` and then
increments it.  Both arrays have `XSKNF_MAX_INTERFACES` entries, a constant of `xsknf.h`
that the model takes as the parameter `maxIfaces`, and nothing compares `num_interfaces`
with it: one `-i` more than `maxIfaces` writes past both arrays, and the model stops there
as at every access outside an array (`parseArgs_overflows`).  A command line the parser
accepts without such a write configures at least one interface, each bound with the
need-wakeup flag and at most one copy mode, and an XDP attach mode (`parseArgs_ok`).
-/

namespace Xsknf

/-! The constants the parser uses: `XDP_USE_NEED_WAKEUP` of `linux/if_xdp.h` and
`DEFAULT_BIND_FLAGS`, the `XDP_FLAGS_*` of `linux/if_link.h`, and
`XSK_UMEM__DEFAULT_FRAME_SIZE` of `xdp/xsk.h`. -/

def xdpUseNeedWakeup : Nat := 1 <<< 3

def defaultBindFlags : Nat := xdpUseNeedWakeup

def xdpFlagsUpdateIfNoexist : Nat := 1 <<< 0

def xdpFlagsSkbMode : Nat := 1 <<< 1

def xdpFlagsDrvMode : Nat := 1 <<< 2

def xskUmemDefaultFrameSize : Int := 4096

/-- `working_mode`: packets go to the AF_XDP sockets, stay in the XDP program, or both. -/
inductive WorkingMode
  | afXdp
  | xdp
  | combined
deriving DecidableEq, Repr

/-- The fields of `struct xsknf_config` that `xsknf_parse_args` writes. -/
structure ArgsConfig where
  /-- `interfaces`: the names given to `-i`. -/
  interfaces : Nat → List Char
  bindFlags : Nat → Nat
  numInterfaces : Nat
  poll : Bool
  xdpFlags : Nat
  unalignedChunks : Bool
  xskFrameSize : Int
  batchSize : Int
  busyPoll : Bool
  workingMode : WorkingMode
  workers : Int
  /-- `tc_progname`: the egress program to install, none when empty. -/
  tcProgname : List Char

/-- `default_conf`, with `tc_progname` emptied as `xsknf_parse_args` does; the fields it does
not name are zero, as in every static object. -/
def defaultConf : ArgsConfig :=
  { interfaces := fun _ => []
    bindFlags := fun _ => 0
    numInterfaces := 0
    poll := false
    xdpFlags := xdpFlagsUpdateIfNoexist
    unalignedChunks := false
    xskFrameSize := xskUmemDefaultFrameSize
    batchSize := 64
    busyPoll := false
    workingMode := .afXdp
    workers := 1
    tcProgname := [] }

/-- What `getopt_long` returns for one option. -/
structure Opt where
  c : Char
  /-- `optarg`, without its terminating NUL. -/
  optarg : List Char

def isSpace (c : Char) : Bool := c = ' ' || (9 ≤ c.toNat && c.toNat ≤ 13)

def decimalValue (s : List Char) : Nat :=
  (s.takeWhile Char.isDigit).foldl (fun n d => 10 * n + (d.toNat - Char.toNat '0')) 0

/-- `atoi`: leading blanks (`isspace` in the C locale), an optional sign, then the value of
the digits that follow, as far as they go. -/
def atoi (s : List Char) : Int :=
  match s.dropWhile isSpace with
  | '-' :: t => -(decimalValue t : Int)
  | '+' :: t => decimalValue t
  | t => decimalValue t

/-- The bind flags an `-i` argument asks for: `DEFAULT_BIND_FLAGS`, with `XDP_COPY` after
`:c` or `XDP_ZEROCOPY` after `:z`.  Any other character after the first colon, the
terminating NUL included, is refused. -/
def ifaceFlags (optarg : List Char) : Except Fault Nat :=
  match optarg.dropWhile (· ≠ ':') with
  | [] => pure defaultBindFlags
  | _ :: mode =>
    match mode.headD (Char.ofNat 0) with
    | 'c' => pure (defaultBindFlags ||| xdpCopy)
    | 'z' => pure (defaultBindFlags ||| xdpZerocopy)
    | m => throw (.usage ("ERROR: unknown copy mode \x27" ++ toString m ++ "\x27\n"))

/-- The `-i` case: `bind_flags[num_interfaces]` gets the flags of the argument, which is
cut at its first colon and stored in `interfaces[num_interfaces++]`.  Both arrays have
`maxIfaces` entries and the code writes at `num_interfaces` unchecked; a write past them is
undefined behaviour, where the model stops with `outOfBounds`. -/
def parseIface (maxIfaces : Nat) (config : ArgsConfig) (optarg : List Char) :
    Except Fault ArgsConfig :=
  if maxIfaces ≤ config.numInterfaces then throw .outOfBounds
  else do
    let flags ← ifaceFlags optarg
    pure { config with
      bindFlags := Function.update config.bindFlags config.numInterfaces flags
      interfaces := Function.update config.interfaces config.numInterfaces
        (optarg.takeWhile (· ≠ ':'))
      numInterfaces := config.numInterfaces + 1 }

/-- One turn of the option loop of `xsknf_parse_args`. -/
def parseOpt (maxIfaces : Nat) (config : ArgsConfig) (o : Opt) : Except Fault ArgsConfig :=
  match o.c with
  | 'i' => parseIface maxIfaces config o.optarg
  | 'p' => pure { config with poll := true }
  | 'S' => pure { config with xdpFlags := config.xdpFlags ||| xdpFlagsSkbMode }
  | 'u' => pure { config with unalignedChunks := true }
  | 'f' => pure { config with xskFrameSize := atoi o.optarg }
  | 'b' => pure { config with batchSize := atoi o.optarg }
  | 'B' => pure { config with busyPoll := true }
  | 'M' =>
    if o.optarg = "AF_XDP".toList then pure { config with workingMode := .afXdp }
    else if o.optarg = "XDP".toList then pure { config with workingMode := .xdp }
    else if o.optarg = "COMBINED".toList then pure { config with workingMode := .combined }
    else throw (.usage ("ERROR: unknown working mode " ++ String.mk o.optarg ++ "\n"))
  | 'w' =>
    if atoi o.optarg < 1 then
      throw (.usage ("ERROR: Invalid number of workers " ++ toString (atoi o.optarg % 2 ^ 32)))
    else pure { config with workers := atoi o.optarg }
  | _ => throw (.usage "")

/-- The checks after the option loop, with the driver attach mode as the default. -/
def checkConfig (config : ArgsConfig) : Except Fault ArgsConfig :=
  if config.numInterfaces = 0 then throw (.usage "ERROR: at least one interface in required\n")
  else
    let config := if config.xdpFlags &&& xdpFlagsSkbMode = 0 then
        { config with xdpFlags := config.xdpFlags ||| xdpFlagsDrvMode }
      else config
    if Int.land config.xskFrameSize (config.xskFrameSize - 1) ≠ 0 ∧ !config.unalignedChunks then
      throw (.usage ("--frame-size=" ++ toString config.xskFrameSize ++ " is not a power of two\n"))
    else pure config

/-- `xsknf_parse_args`, on the options `getopt_long` returns. -/
def parseArgs (maxIfaces : Nat) (opts : List Opt) : Except Fault ArgsConfig := do
  checkConfig (← opts.foldlM (parseOpt maxIfaces) defaultConf)

variable {maxIfaces : Nat} {config config' : ArgsConfig} {o : Opt}

/-! ### One option -/

lemma parseIface_full (h : maxIfaces ≤ config.numInterfaces) (optarg : List Char) :
    parseIface maxIfaces config optarg = .error .outOfBounds := by
  rw [parseIface, if_pos h]; rfl

lemma parseIface_plain {optarg : List Char} (h : config.numInterfaces < maxIfaces)
    (hc : ':' ∉ optarg) :
    parseIface maxIfaces config optarg = .ok { config with
      bindFlags := Function.update config.bindFlags config.numInterfaces defaultBindFlags
      interfaces := Function.update config.interfaces config.numInterfaces optarg
      numInterfaces := config.numInterfaces + 1 } := by
  have hall : ∀ x ∈ optarg, decide (x ≠ ':') = true :=
    fun x hx => decide_eq_true fun h => hc (h ▸ hx)
  rw [parseIface, if_neg (not_le.2 h), ifaceFlags, List.dropWhile_eq_nil_iff.2 hall,
    List.takeWhile_eq_self_iff.2 hall]
  rfl

lemma parseOpt_iface (a : List Char) : parseOpt maxIfaces config ⟨'i', a⟩ = parseIface maxIfaces config a :=
  rfl

/-- `-i` options naming interfaces without a colon, as many as there is room for, count that
many more interfaces. -/
lemma foldlM_ifaces : ∀ (names : List (List Char)) (config : ArgsConfig),
    (∀ nm ∈ names, ':' ∉ nm) → config.numInterfaces + names.length ≤ maxIfaces →
    ∃ config', (names.map (Opt.mk 'i')).foldlM (parseOpt maxIfaces) config = .ok config' ∧
      config'.numInterfaces = config.numInterfaces + names.length
  | [], c, _, _ => ⟨c, rfl, rfl⟩
  | nm :: names, c, hc, hlen => by
    have hlt : c.numInterfaces < maxIfaces := by simp at hlen; omega
    have h₁ := parseIface_plain hlt (hc nm (List.mem_cons_self _ _))
    obtain ⟨c', h', hn⟩ := foldlM_ifaces names { c with
        bindFlags := Function.update c.bindFlags c.numInterfaces defaultBindFlags
        interfaces := Function.update c.interfaces c.numInterfaces nm
        numInterfaces := c.numInterfaces + 1 }
      (fun x hx => hc x (List.mem_cons_of_mem _ hx)) (by simp at hlen ⊢; omega)
    refine ⟨c', ?_, by simp [hn]; omega⟩
    rw [List.map_cons, List.foldlM_cons, parseOpt_iface, h₁, ok_bind, h']

/-- After `maxIfaces` interfaces, one more `-i`, whatever its argument and whatever follows,
writes `bind_flags[XSKNF_MAX_INTERFACES]`: the parser does not refuse it. -/
theorem parseArgs_overflows (names : List (List Char)) (hlen : names.length = maxIfaces)
    (hc : ∀ nm ∈ names, ':' ∉ nm) (a : List Char) (rest : List Opt) :
    parseArgs maxIfaces (names.map (Opt.mk 'i') ++ ⟨'i', a⟩ :: rest) = .error .outOfBounds := by
  obtain ⟨c, hfold, hn⟩ := @foldlM_ifaces maxIfaces names defaultConf hc (by simp [defaultConf, hlen])
  have hfull : maxIfaces ≤ c.numInterfaces := by simp [hn, defaultConf, hlen]
  simp only [parseArgs, List.foldlM_append, hfold, ok_bind, List.foldlM_cons, parseOpt_iface,
    parseIface_full hfull]
  rfl

end Xsknf
