import DpaProvider.Rma.Notify

/-!
What the operations of remote memory access keep.

`dpaReadmsg_keeps`, `dpaWritemsg_keeps`, `rma_keeps`: an operation keeps what the calls for a
mapping, a flush, a notification, and the updates of the cache, of the host and of the regions keep.
-/

namespace DpaProvider

open Effect

namespace Site

variable {F : Frame Site} (hlib : ∀ c, mappingCall c = true → Keeps F (lib c))
  (hflush : ∀ sequence, Keeps F (lib (.flush sequence)))
  (hset : ∀ f : RemoteMrCache → RemoteMrCache, (∀ c, (f c).interrupt = c.interrupt) →
    (∀ c, (f c).interruptId = c.interruptId) → Keeps F (setCache f))
  (hregions : ∀ regions : Site → DpaAddr → ByteMem,
    Keeps F (modify fun s => { s with regions := regions s } : Prog Unit))
  (hcomplete : ∀ cq cntr entry, Keeps F (completeRma cq cntr entry))
  (hsignal : ∀ nodeId data, Keeps F (signalInterrupt nodeId data))

include hlib hset

lemma acquireTarget_keeps (m : FiMsgRma) (rma : FiRmaIov) : Keeps F (acquireTarget m rma) := by
  refine keeps_bind keeps_get fun s => ?_
  cases s.targetNode m with
  | none => exact keeps_throw _
  | some nodeId =>
      refine keeps_ite (keeps_pure _) (keeps_bind ?_ fun _ => keeps_pure _)
      exact cacheConnect_keeps hlib hset _

include hcomplete hsignal

lemma dpaReadmsg_keeps (msg : Option FiMsgRma) (flags : UInt64) :
    Keeps F (dpaReadmsg msg flags) := by
  rw [dpaReadmsg]
  cases checkRma msg with
  | none => exact keeps_pure _
  | some p =>
      refine keeps_bind (acquireTarget_keeps hlib hset _ _) fun r => keeps_ite (keeps_pure _) ?_
      refine keeps_bind keeps_get fun s => keeps_bind (hcomplete _ _ _) fun _ => ?_
      exact keeps_ite (keeps_bind (hsignal _ _) fun _ => keeps_pure _) (keeps_pure _)

include hflush hregions

lemma dpaWritemsg_keeps (msg : Option FiMsgRma) (flags : UInt64) :
    Keeps F (dpaWritemsg msg flags) := by
  rw [dpaWritemsg]
  cases checkRma msg with
  | none => exact keeps_pure _
  | some p =>
      refine keeps_bind (acquireTarget_keeps hlib hset _ _) fun r => keeps_ite (keeps_pure _) ?_
      refine keeps_bind keeps_get fun s => ?_
      refine keeps_bind (hregions _) fun _ => keeps_bind (hcomplete _ _ _) fun _ => ?_
      refine keeps_ite (keeps_bind (hsignal _ _) fun _ => keeps_pure _) ?_
      exact keeps_ite (keeps_bind (hflush _) fun _ => keeps_pure _) (keeps_pure _)

lemma rma_keeps (c : RmaCall) : Keeps F (rma c) := by
  have hread (msg : Option FiMsgRma) (flags : UInt64) :
      Keeps F (do let _ ← dpaReadmsg msg flags) :=
    keeps_bind (dpaReadmsg_keeps hlib hset hcomplete hsignal msg flags) fun _ => keeps_pure _
  have hwrite (msg : Option FiMsgRma) (flags : UInt64) :
      Keeps F (do let _ ← dpaWritemsg msg flags) :=
    keeps_bind (dpaWritemsg_keeps hlib hflush hset hregions hcomplete hsignal msg flags)
      fun _ => keeps_pure _
  cases c with
  | readmsg msg flags => exact hread msg flags
  | readv iov srcAddr addr key context =>
      exact hread (some (rmaMsg iov srcAddr addr key context 0)) 0
  | read buf len srcAddr addr key context =>
      exact hread (some (rmaMsg [⟨buf, len⟩] srcAddr addr key context 0)) 0
  | writemsg msg flags => exact hwrite msg flags
  | writev iov destAddr addr key context =>
      exact hwrite (some (rmaMsg iov destAddr addr key context 0)) 0
  | write buf len destAddr addr key context =>
      exact hwrite (some (rmaMsg [⟨buf, len⟩] destAddr addr key context 0)) 0
  | writedata buf len data destAddr addr key context =>
      exact hwrite (some (rmaMsg [⟨buf, len⟩] destAddr addr key context data)) fiRemoteCqData

end Site

end DpaProvider
