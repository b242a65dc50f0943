import DpaProvider.Cntr.Counters
import DpaProvider.Library.Mask

/-!
What `dpa_getinfo` says of capabilities.

* `getEpCaps`, `dpaGetinfo`: the part of `dpa_info.c` that decides on capabilities; they go through
  an `int`;
* `getinfo_caps`: the `int` changes nothing, and the capabilities are those asked for, or all that
  the type of the endpoint supports if none is.
-/

namespace DpaProvider

/-- The `enum fi_ep_type`. -/
inductive FiEpType where
  | unspec
  | msg
  | dgram
  | rdm
  | other (code : ℕ)
  deriving DecidableEq, Repr

/-- The `fi_info`, as far as capabilities are concerned: its `caps`, and the type in its `ep_attr`,
if it has one. -/
structure FiInfo where
  caps : UInt64
  epAttr : Option FiEpType
  deriving DecidableEq, Repr

/-- `FI_ENODATA`. -/
def fiEnodata : Int32 := 61

/-- `DPA_EP_RDM_CAP`. -/
def dpaEpRdmCap : UInt64 := dpaRmaCap

/-- The capabilities that `get_ep_caps` takes from the type of the endpoint. -/
def typeCaps : FiEpType → Option Int32
  | .unspec | .msg => some (toInt dpaEpMsgCap)
  | .rdm | .dgram => some (toInt dpaEpRdmCap)
  | .other _ => none

/-- `get_ep_caps`: it returns an `int`, a negative one for an error. -/
def getEpCaps (hints : Option FiInfo) : Int32 :=
  match hints with
  | none => toInt dpaEpMsgCap
  | some hints =>
      match typeCaps (hints.epAttr.getD .unspec) with
      | none => -fiEnodata
      | some caps =>
          if ofInt caps ||| hints.caps ≠ ofInt caps then -fiEnodata
          else if hints.caps ≠ 0 then toInt hints.caps else caps

/-- `dpa_verify_requirements`: `checks` is whether the requirements meet its checks of anything but
capabilities, which all return the same error. -/
def dpaVerifyRequirements (checks : Bool) (hints : Option FiInfo) : Int32 :=
  if !checks then -fiEnodata
  else match hints with
    | none => 0
    | some info =>
        let caps := getEpCaps hints
        if caps < 0 then caps
        else if ofInt caps ||| info.caps ≠ ofInt caps then -fiEnodata
        else 0

/-- `dpa_getinfo`. -/
def dpaGetinfo (checks : Bool) (hints : Option FiInfo) : Except Int32 FiInfo :=
  let ret := dpaVerifyRequirements checks hints
  if ret ≠ 0 then .error ret
  else
    let epType := match hints.bind FiInfo.epAttr with
      | none | some .unspec => .msg
      | some epType => epType
    .ok { caps := ofInt (getEpCaps hints), epAttr := some epType }

/-! ### The capabilities of an `FI_EP_MSG` endpoint -/

/-- The capabilities asked for. -/
def requested (hints : Option FiInfo) : UInt64 := (hints.map FiInfo.caps).getD 0

/-- The bits of the capabilities are those of an `int`. -/
lemma ofInt_toInt_caps {caps : UInt64} (h : caps &&& dpaEpMsgCap = caps) :
    ofInt (toInt caps) = caps := by
  rw [ofInt_toInt_iff, IsInt]
  have hle : caps.toNat ≤ dpaEpMsgCap.toNat := h ▸ Mask.and_le caps dpaEpMsgCap
  exact .inl (hle.trans_lt (by decide))

@[simp] lemma ofInt_toInt_epMsgCap : ofInt (toInt dpaEpMsgCap) = dpaEpMsgCap :=
  ofInt_toInt_caps (UInt64.and_self)

lemma getEpCaps_msg {hints : FiInfo}
    (htype : typeCaps (hints.epAttr.getD .unspec) = some (toInt dpaEpMsgCap)) :
    getEpCaps (some hints) =
      if hints.caps &&& dpaEpMsgCap ≠ hints.caps then -fiEnodata
      else toInt (if hints.caps ≠ 0 then hints.caps else dpaEpMsgCap) := by
  simp only [getEpCaps, htype, ofInt_toInt_epMsgCap, ne_eq, Mask.or_eq_right_iff, apply_ite toInt]

/-- A type for which the answer is `FI_EP_MSG` supports both kinds of transfers. -/
lemma typeCaps_of_msg {epAttr : Option FiEpType}
    (h : (match epAttr with | none | some .unspec => FiEpType.msg | some epType => epType) = .msg) :
    typeCaps (epAttr.getD .unspec) = some (toInt dpaEpMsgCap) := by
  cases epAttr with
  | none => rfl
  | some epType =>
      cases epType with
      | unspec | msg => rfl
      | dgram | rdm | other code => cases h

/-- An error of `get_ep_caps` is one of the requirements. -/
lemma dpaVerifyRequirements_of_neg {checks : Bool} {hints : FiInfo}
    (hneg : getEpCaps (some hints) < 0) : dpaVerifyRequirements checks (some hints) ≠ 0 := by
  cases checks with
  | false => exact of_decide_eq_true rfl
  | true =>
      simp only [dpaVerifyRequirements, Bool.not_true, Bool.false_eq_true, if_false, if_pos hneg]
      rintro hzero
      rw [hzero] at hneg
      exact absurd hneg (by simp)

/-- What is said of an `FI_EP_MSG` endpoint is what was asked for, if it was anything. -/
lemma getinfo_caps {checks : Bool} {hints : Option FiInfo} {info : FiInfo}
    (hinfo : dpaGetinfo checks hints = .ok info) (hmsg : info.epAttr = some .msg) :
    info.caps = (if requested hints ≠ 0 then requested hints else dpaEpMsgCap)
      ∧ requested hints &&& dpaEpMsgCap = requested hints := by
  simp only [dpaGetinfo] at hinfo
  split at hinfo
  case isTrue => cases hinfo
  case isFalse hret =>
  obtain rfl := (Except.ok.inj hinfo).symm
  cases hints with
  | none => exact ⟨ofInt_toInt_epMsgCap, rfl⟩
  | some hints =>
      have hcaps := getEpCaps_msg (typeCaps_of_msg (Option.some.inj hmsg))
      have hsub : hints.caps &&& dpaEpMsgCap = hints.caps := by
        by_contra hsub
        rw [if_pos hsub] at hcaps
        exact hret (dpaVerifyRequirements_of_neg (hcaps ▸ by decide))
      rw [if_neg (not_not.2 hsub)] at hcaps
      refine ⟨?_, hsub⟩
      rw [hcaps]
      refine ofInt_toInt_caps ?_
      split
      · exact hsub
      · exact UInt64.and_self

end DpaProvider
