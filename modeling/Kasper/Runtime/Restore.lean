import Kasper.Runtime.State

/-! Taking back what speculation wrote: the log replay of `kspecem_undolog.c` and the
stack copy of `kspecem_stack.c`.
-/

namespace Kasper

open ByteMemory

/-- `kspecem_overlaps`, on addresses that wrap as pointers do. -/
def overlaps (p1 : Address) (s1 : Nat) (p2 : Address) (s2 : Nat) : Bool :=
  let pe1 := p1 + BitVec.ofNat 64 s1
  let pe2 := p2 + BitVec.ofNat 64 s2
  (p1 ≤ p2 && pe1 > p2) || (p2 ≤ p1 && pe2 > p1)

/-- `kspecem_can_restore`. -/
def canRestore (kernel : Kernel) (log : WriteLog) (addr : Address) : Bool :=
  !overlaps addr 8 log.addrs.base writelogBytes
  && !overlaps addr 8 log.data.base writelogBytes
  && !overlaps addr 8 kernel.writelogAddrs 8
  && !overlaps addr 8 kernel.writelogData 8
  && !overlaps addr 8 kernel.wlPosition 8

/-- The addresses the replay leaves alone: live runtime frames and the interrupt's
registers.
-/
def skipped (rsp frameaddr regs addr : Address) : Bool :=
  (addr > rsp && addr ≤ frameaddr)
  || (regs ≠ 0 && addr ≥ regs && addr < regs + BitVec.ofNat 64 sizeofPtregs)

section
variable (env : Env) (onFail : SpecAssert → RtM Unit)

/-- The loop of `kspecem_restore_writelog`; its first argument is `kspecem_wl_position`.
The result is `none` where the loop returns `-1`: a `__memcpy` returns its destination,
here the address of the local `addr`.
-/
def restoreLoop (frameaddr regs : Address) : (position i : Nat) → RtM (Option Nat)
  | 0, i => return some i
  | position + 1, i => do
      let i := i + 1
      modify fun s => { s with log := { s.log with position } }
      if env.frames.addrSlot = 0 then
        return none
      let addr ← fetch .writelogAddrs (← get).log.addrs position
      if env.frames.rsp < addr ∧ addr ≤ frameaddr then
        restoreLoop frameaddr regs position i
      else
        ltAssert onFail (addr ≤ env.frames.rsp ∨ addr > frameaddr)
          "kspecem_undolog.c" 140 "addr <= rsp || addr > frameaddr"
        if regs ≠ 0 ∧ addr ≥ regs ∧ addr < regs + BitVec.ofNat 64 sizeofPtregs then
          restoreLoop frameaddr regs position i
        else
          ltAssert onFail (canRestore env.kernel (← get).log addr)
            "kspecem_undolog.c" 149 "kspecem_can_restore(addr)"
          ltAssert onFail (env.frames.iSlot ≠ addr) "kspecem_undolog.c" 150 "&i != addr"
          ltAssert onFail (env.frames.numEntriesSlot ≠ addr)
            "kspecem_undolog.c" 151 "&num_entries != addr"
          let region ← fetch .writelogData (← get).log.data position
          storeWord env.kernel addr region
          ltAssert onFail (addr ≠ 0)
            "kspecem_undolog.c" 154 "__memcpy(addr, region, sizeof(uint64_t)) != NULL"
          restoreLoop frameaddr regs position i

/-- `kspecem_restore_writelog`; its `arg` is not used. -/
def restoreWritelog (frameaddr regs : Address) : RtM Int := do
  let numEntries := (← get).log.position
  ltAssert onFail (env.frames.rsp ≠ 0) "kspecem_undolog.c" 125 "rsp"
  match ← restoreLoop env onFail frameaddr regs numEntries 0 with
  | none => return -1
  | some i =>
      ltAssert onFail (i = numEntries) "kspecem_undolog.c" 156 "i == num_entries"
      ltAssert onFail ((← get).log.position = 0)
        "kspecem_undolog.c" 157 "kspecem_wl_position == 0"
      return 0

/-- Copy `len` bytes of memory at `source` to the front of the stack buffer. -/
def copyToStackLog (source : Address) (len : Nat) : RtM Unit := do
  if len ≤ (← get).stack.stack.size then
    modify fun s =>
      let saved i := if i < len then s.mem (source + BitVec.ofNat 64 i) else s.stack.stack.cell i
      { s with stack := { s.stack with stack := { s.stack.stack with cell := saved } } }
  else
    throw (.outOfBounds .wlStack)

/-- Copy the front of the stack buffer back over `len` bytes of memory at `target`. -/
def copyFromStackLog (target : Address) (len : Nat) : RtM Unit := do
  if len ≤ (← get).stack.stack.size then
    modify fun s =>
      let restored b :=
        if Within target len b then s.stack.stack.cell (b - target).toNat else s.mem b
      { s with mem := restored }
  else
    throw (.outOfBounds .wlStack)

/-- `kspecem_save_stack`, with the `rsp` it computes from its own frame. -/
def saveStack (frameaddress rsp : Address) : RtM Unit := do
  modify fun s =>
    { s with
      stack := { s.stack with baseAddress := frameaddress, len := frameaddress - rsp } }
  let stack := (← get).stack
  ltAssert onFail (stack.baseAddress ≠ 0)
    "kspecem_stack.c" 30 "kspecem_wl_stack_base_address"
  ltAssert onFail (rsp ≠ 0) "kspecem_stack.c" 31 "rsp"
  ltAssert onFail (stack.len.toNat ≤ stacklogMaxlen)
    "kspecem_stack.c" 32 "kspecem_wl_stack_len <= STACKLOG_MAXLEN"
  ltAssert onFail (stack.stack.base ≠ 0) "kspecem_stack.c" 33 "wl_stack_start"
  copyToStackLog (stack.baseAddress - stack.len) stack.len.toNat
  -- `__memcpy` returns its destination, the stack buffer
  if stack.stack.base = 0 then
    ltPanic "kspecem_stack.c" "memcpy for stack saving did not work\n"

end

end Kasper
