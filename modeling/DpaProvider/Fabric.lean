import Mathlib.Data.UInt
import Mathlib.Tactic

/-!
The codes and bits of libfabric and of the DPA library that the provider uses.
-/

namespace DpaProvider

/-- The libfabric error codes the provider returns, `success` for `FI_SUCCESS`.
The source returns them negated. -/
inductive FiErr where
  | success
  | eagain
  | eavail
  | etoosmall
  | einval
  | enodata
  | enomem
  | enosys
  | eother
  | enoeq
  | eaddrinuse
  | econnaborted
  | eisconn
  | eremoteio
  | etimedout
  | enokey
  | ekeyrejected
  | ebadflags
  deriving DecidableEq, Repr

/-- The status codes of the DPA library: those the provider tests by name, and
the others by number. -/
inductive DpaError where
  | ok
  | timeout
  | segmentIdUsed
  | system
  | other (code : ℕ)
  deriving DecidableEq, Repr

/-! ### Capability and operation bits of `rdma/fabric.h` -/

def fiMsg : UInt64 := (1 : UInt64) <<< 1
def fiRma : UInt64 := (1 : UInt64) <<< 2
def fiRead : UInt64 := (1 : UInt64) <<< 8
def fiWrite : UInt64 := (1 : UInt64) <<< 9
def fiRecv : UInt64 := (1 : UInt64) <<< 10
def fiSend : UInt64 := (1 : UInt64) <<< 11
def fiRemoteRead : UInt64 := (1 : UInt64) <<< 12
def fiRemoteWrite : UInt64 := (1 : UInt64) <<< 13
def fiRemoteCqData : UInt64 := (1 : UInt64) <<< 17
def fiMore : UInt64 := (1 : UInt64) <<< 18

/-- The C test `word & bits`. -/
def hasAny (word bits : UInt64) : Bool := word &&& bits != 0

lemma hasAny_or (word a b : UInt64) : hasAny word (a ||| b) = (hasAny word a || hasAny word b) := by
  have hsplit : word &&& (a ||| b) = word &&& a ||| word &&& b := by
    rw [← UInt64.toBitVec_inj]
    ext i
    simp [Bool.and_or_distrib_left]
  rw [Bool.eq_iff_iff, Bool.or_eq_true]
  simp only [hasAny, bne_iff_ne, ne_eq, hsplit, UInt64.or_eq_zero_iff, not_and_or]

/-! ### Capabilities of an endpoint -/

/-- `DPA_MSG_CAP`. -/
def dpaMsgCap : UInt64 := fiMsg ||| fiRecv ||| fiSend

/-- `DPA_RMA_CAP`. -/
def dpaRmaCap : UInt64 := fiRma ||| fiRead ||| fiWrite ||| fiRemoteRead ||| fiRemoteWrite

/-- `DPA_EP_MSG_CAP`. -/
def dpaEpMsgCap : UInt64 := dpaMsgCap ||| dpaRmaCap

/-- `check_ep_caps`: the capabilities of an endpoint for those asked for, 0 if some are
unsupported. -/
def checkEpCaps (caps : UInt64) : UInt64 :=
  if caps &&& dpaEpMsgCap ≠ caps then 0
  else
    let caps := if caps &&& dpaMsgCap = fiMsg then caps ||| dpaMsgCap else caps
    if caps &&& dpaRmaCap = fiRma then caps ||| dpaRmaCap else caps

end DpaProvider
