import DpaProvider.Fabric

/-!
The DPA library, as the provider sees it.

The library is not part of the source.  It is an oracle: it answers the calls made to
it in turn, each with a `Reply`, and it keeps a record of them.  An object that a
call creates is known by the number of the call, so that the record says what every
handle stands for.
-/

namespace DpaProvider

/-- A descriptor, interrupt, segment, map or sequence: the number of the call that
created it. -/
abbrev Handle := ℕ

/-- The `dpa_addr_t`. -/
structure DpaAddr where
  nodeId : UInt32
  connectId : UInt32
  deriving DecidableEq, Repr

/-- The `segment_data`: what two endpoints tell each other while they connect. -/
structure SegmentData where
  nodeId : UInt32
  acceptIntId : UInt32
  segmentId : UInt32
  offset : UInt64
  size : UInt64
  hasRecvInterrupt : Bool
  recvInterruptId : UInt32
  hasSendInterrupt : Bool
  sendInterruptId : UInt32
  deriving DecidableEq, Repr

/-- A `segment_data` initialised with a node, and zeroes. -/
def SegmentData.ofNode (nodeId : UInt32) : SegmentData where
  nodeId
  acceptIntId := 0
  segmentId := 0
  offset := 0
  size := 0
  hasRecvInterrupt := false
  recvInterruptId := 0
  hasSendInterrupt := false
  sendInterruptId := 0

/-- The calls to the library.  A handle that was never set is `none`. -/
inductive DpaCall where
  | dpaOpen
  | close (sd : Option Handle)
  | createSegment (sd : Option Handle) (segmentId : UInt32) (size : UInt64)
  | prepareSegment (segment : Option Handle)
  | mapLocalSegment (segment : Option Handle) (size : UInt64)
  | setSegmentAvailable (segment : Option Handle)
  | setSegmentUnavailable (segment : Option Handle)
  | removeSegment (segment : Option Handle)
  | connectSegment (sd : Option Handle) (nodeId segmentId : UInt32)
  | getRemoteSegmentSize (segment : Option Handle)
  | mapRemoteSegment (segment : Option Handle) (offset size : UInt64)
  | unmapSegment (map : Option Handle)
  | disconnectSegment (segment : Option Handle)
  | createMapSequence (map : Option Handle)
  | startSequence (sequence : Option Handle)
  | removeSequence (sequence : Option Handle)
  | flush (sequence : Option Handle)
  | createInterrupt (sd : Option Handle)
  | removeInterrupt (interrupt : Option Handle)
  | connectInterrupt (sd : Option Handle) (nodeId interruptId : UInt32)
  | triggerInterrupt (interrupt : Option Handle)
  | disconnectInterrupt (interrupt : Option Handle)
  | createDataInterrupt (sd : Option Handle) (interruptId : UInt32)
  | removeDataInterrupt (interrupt : Option Handle)
  | connectDataInterrupt (sd : Option Handle) (nodeId interruptId : UInt32)
  | triggerDataInterrupt (interrupt : Option Handle) (data : SegmentData)
  | disconnectDataInterrupt (interrupt : Option Handle)
  /-- The timeout `none` is `DPA_INFINITE_TIMEOUT`. -/
  | waitForDataInterrupt (interrupt : Option Handle) (timeout : Option ℤ)
  deriving DecidableEq, Repr

/-- The call creates or removes an interrupt that carries data. -/
def DpaCall.numbers : DpaCall → Bool
  | .createDataInterrupt .. | .removeDataInterrupt .. => true
  | _ => false

/-- The answer to a call: its status, and what some calls give besides, the number
of an interrupt that the library has picked, the data received, or the size of a
segment.  What a failed call leaves in its output variables is in there too. -/
structure Reply where
  err : DpaError
  id : UInt32
  data : SegmentData
  size : UInt64
  deriving DecidableEq, Repr

/-- The library: its answers, by the number of the call, and the calls so far. -/
structure Dpa where
  replies : ℕ → Reply
  calls : List DpaCall

namespace Dpa

/-- The answer to the next call. -/
def reply (d : Dpa) : Reply := d.replies d.calls.length

/-- The handle of the object that the next call creates. -/
def handle (d : Dpa) : Handle := d.calls.length

/-- A call is made. -/
def call (d : Dpa) (c : DpaCall) : Dpa := { d with calls := d.calls ++ [c] }

@[simp] lemma replies_call (d : Dpa) (c : DpaCall) : (d.call c).replies = d.replies := rfl

@[simp] lemma length_call (d : Dpa) (c : DpaCall) :
    (d.call c).calls.length = d.calls.length + 1 := by simp [call]

lemma getElem?_handle (d : Dpa) (c : DpaCall) : (d.call c).calls[d.handle]? = some c := by
  simp [call, handle]

/-- The record only grows. -/
lemma getElem?_call {d : Dpa} {i : ℕ} {c : DpaCall} (h : d.calls[i]? = some c) (c' : DpaCall) :
    (d.call c').calls[i]? = some c := by
  obtain ⟨hlt, -⟩ := List.getElem?_eq_some_iff.1 h
  rw [call, List.getElem?_append_left hlt, h]

/-- The handle `h` is a connection to the interrupt `id` of a node. -/
def ConnectedTo (d : Dpa) (h : Handle) (nodeId id : UInt32) : Prop :=
  (d.replies h).err = .ok ∧ ∃ sd, d.calls[h]? = some (.connectInterrupt sd nodeId id)

/-- The same library after some more calls. -/
structure Extends (d d' : Dpa) : Prop where
  replies : d'.replies = d.replies
  calls : d.calls <+: d'.calls

lemma Extends.refl (d : Dpa) : d.Extends d := ⟨rfl, List.prefix_rfl⟩

lemma Extends.trans {d d' d'' : Dpa} (h : d.Extends d') (h' : d'.Extends d'') : d.Extends d'' :=
  ⟨h'.replies.trans h.replies, h.calls.trans h'.calls⟩

lemma Extends.call (d : Dpa) (c : DpaCall) : d.Extends (d.call c) :=
  ⟨rfl, List.prefix_append _ _⟩

/-- What a handle stands for does not change. -/
lemma ConnectedTo.mono {d d' : Dpa} {h : Handle} {nodeId id : UInt32}
    (hc : d.ConnectedTo h nodeId id) (he : d.Extends d') : d'.ConnectedTo h nodeId id := by
  obtain ⟨herr, sd, hget⟩ := hc
  obtain ⟨hlt, -⟩ := List.getElem?_eq_some_iff.1 hget
  obtain ⟨l, hl⟩ := he.calls
  exact ⟨by rw [he.replies, herr], sd, by rw [← hl, List.getElem?_append_left hlt, hget]⟩

/-- The connection that a call makes. -/
lemma connectedTo_handle {d : Dpa} {sd : Option Handle} {nodeId id : UInt32}
    (herr : d.reply.err = .ok) :
    (d.call (.connectInterrupt sd nodeId id)).ConnectedTo d.handle nodeId id :=
  ⟨herr, sd, by
    rw [Dpa.call, handle, List.getElem?_append_right (Nat.le_refl _), Nat.sub_self]; rfl⟩

/-- The handle `h` was created by the call `made`, and has not been given back since by
`released`. -/
structure Current (d : Dpa) (h : Handle) (made released : DpaCall) : Prop where
  ok : (d.replies h).err = .ok
  made : d.calls[h]? = some made
  kept : ∀ i, h < i → d.calls[i]? ≠ some released

/-- The object that a call creates. -/
lemma current_handle {d : Dpa} {made : DpaCall} (released : DpaCall) (herr : d.reply.err = .ok) :
    (d.call made).Current d.handle made released where
  ok := herr
  made := getElem?_handle d made
  kept := by
    intro i hi
    rw [handle] at hi
    simp [call, List.getElem?_eq_none (show (d.calls ++ [made]).length ≤ i by simp; omega)]

/-- Another call does not give it back. -/
lemma Current.call {d : Dpa} {h : Handle} {made released c : DpaCall}
    (hcur : d.Current h made released) (hc : c ≠ released) :
    (d.call c).Current h made released where
  ok := hcur.ok
  made := getElem?_call hcur.made c
  kept := by
    intro i hi heq
    rw [Dpa.call, List.getElem?_append] at heq
    split at heq
    · exact hcur.kept i hi heq
    · exact hc (List.mem_singleton.1 (List.mem_of_getElem? heq)).symm

end Dpa

end DpaProvider
