import Mathlib.Logic.Function.Basic
import Mathlib.Data.List.Basic

/-!
# The data of the system-update code

`ni_system_update_from_lease` (the second file bundled in `src/include/wicked/refcount.h`)
commits the services a lease carries — hostname, resolver, NIS — to the system, and
remembers in the static table `__ni_update_info` which lease did so. This module holds the
data that code reads and the three small functions it is built from:
`ni_system_update_capabilities`, `ni_system_lease_capabilities` and the pair
`ni_system_update_service` / `ni_system_restore_service`.

Four decisions shape the model.

* **Masks are natural numbers, targets are bits.** Every mask of the update code is
  combined with `&`, and `__ni_addrconf_should_update` / `__ni_addrconf_set_update` read
  and set one target's bit. With `__NI_ADDRCONF_UPDATE_MAX` below the width of
  `unsigned int`, `ℕ` loses nothing.
* **What lies outside these files is a field of `UpdateEnv`.** The target enumeration,
  the global configuration's per-type masks, `ni_addrconf_lease_is_valid` and
  `__ni_interface_address_info` are declared in headers that are not part of the sources,
  so every result holds for all of them.
* **Handlers are an oracle, their calls a record.** What `handler(nih, lease)` answers
  depends on `nih->op`, which is outside the sources; `HandlerResults` gives each call's
  answer, in any pattern (`HandlerResults.ofOps` runs the handler bodies for it), and
  `UpdateState.calls` records every call made, so that "no handler is called for `t`" is a
  statement about the model.
* **C's fixed arrays are lists with a shape predicate.** `ni_afinfo_t` holds `__NI_ADDRCONF_MAX`
  lease slots and requests; `Interface.WellFormed` states that length over the parameter
  `UpdateEnv.addrconfMax`, and the sample interfaces have it with every slot filled.
-/

namespace Wicked

/-! ### Update masks -/

/-- `__ni_addrconf_should_update(mask, target)`: whether the target's bit is set. -/
def niAddrconfShouldUpdate (mask target : ℕ) : Bool :=
  mask.testBit target

/-- `__ni_addrconf_set_update(&mask, target)`: `mask | (1 << target)`. -/
def niAddrconfSetUpdate (mask target : ℕ) : ℕ :=
  mask ||| 1 <<< target

@[simp]
theorem niAddrconfShouldUpdate_zero (t : ℕ) : niAddrconfShouldUpdate 0 t = false :=
  Nat.zero_testBit t

@[simp]
theorem niAddrconfShouldUpdate_setUpdate (m t u : ℕ) :
    niAddrconfShouldUpdate (niAddrconfSetUpdate m t) u =
      (niAddrconfShouldUpdate m u || decide (t = u)) := by
  simp [niAddrconfShouldUpdate, niAddrconfSetUpdate, Nat.one_shiftLeft, Nat.testBit_two_pow]

@[simp]
theorem niAddrconfShouldUpdate_and (a b t : ℕ) :
    niAddrconfShouldUpdate (a &&& b) t =
      (niAddrconfShouldUpdate a t && niAddrconfShouldUpdate b t) :=
  Nat.testBit_and a b t

/-! ### Leases, interfaces and the ownership table -/

/-- The fields of `ni_addrconf_lease_t` the update code reads. The three service fields are
pointers in the source; only whether they are `NULL` is read. -/
structure Lease where
  type : ℕ
  family : ℕ
  /-- `lease->state`, which only `ni_addrconf_lease_is_valid` reads here -/
  state : ℕ
  /-- `lease->hostname != NULL` -/
  hostname : Bool
  /-- `lease->nis != NULL` -/
  nis : Bool
  /-- `lease->resolver != NULL` -/
  resolver : Bool
  timeAcquired : ℕ
deriving DecidableEq, Repr

/-- `ni_afinfo_t`: one lease slot per addrconf mode, `none` for `NULL`, and per lease type
the `update` mask of `request[type]`, `none` when there is no request. C gives both arrays
`__NI_ADDRCONF_MAX` entries; `Interface.WellFormed` says so of a value. -/
structure AfInfo where
  lease : List (Option Lease)
  request : List (Option ℕ)
deriving DecidableEq, Repr

/-- `afi->request[type]`, read as its `update` mask. -/
def AfInfo.requestUpdate (afi : AfInfo) (type : ℕ) : Option ℕ :=
  afi.request.getD type none

/-- `ni_interface_t`, as far as the update code reads it. -/
structure Interface where
  ifindex : ℕ
  ipv4 : AfInfo
  ipv6 : AfInfo
deriving DecidableEq, Repr

/-- `struct ni_update_info`'s `origin`: the interface, lease type and family that configured
a service. An `ifindex` of `0` means no lease owns it. -/
structure Origin where
  ifindex : ℕ
  leaseType : ℕ
  leaseFamily : ℕ
deriving DecidableEq, Repr

/-- `memset(&info->origin, 0, sizeof(info->origin))`, and the static initialiser. -/
instance : Zero Origin := ⟨⟨0, 0, 0⟩⟩

@[simp]
theorem Origin.zero_ifindex : (0 : Origin).ifindex = 0 := rfl

/-- The origin a lease on an interface writes: `(ifp->ifindex, lease->type, lease->family)`. -/
def Origin.of (ifp : Interface) (lease : Lease) : Origin :=
  ⟨ifp.ifindex, lease.type, lease.family⟩

theorem Origin.eq_of_iff {o : Origin} {ifp : Interface} {lease : Lease} :
    o = Origin.of ifp lease ↔
      o.ifindex = ifp.ifindex ∧ o.leaseType = lease.type ∧ o.leaseFamily = lease.family := by
  cases o
  simp [Origin.of]

@[simp]
theorem Origin.of_ifindex (ifp : Interface) (lease : Lease) :
    (Origin.of ifp lease).ifindex = ifp.ifindex := rfl

/-! ### What the update code takes from outside -/

/-- The constants and functions the update code uses that are declared outside these
sources. -/
structure UpdateEnv where
  /-- `__NI_ADDRCONF_UPDATE_MAX` -/
  updateMax : ℕ
  /-- `__NI_ADDRCONF_MAX`, the number of addrconf modes -/
  addrconfMax : ℕ
  /-- `NI_ADDRCONF_UPDATE_DEFAULT_ROUTE` -/
  defaultRoute : ℕ
  /-- `NI_ADDRCONF_UPDATE_HOSTNAME` -/
  hostname : ℕ
  /-- `NI_ADDRCONF_UPDATE_RESOLVER` -/
  resolver : ℕ
  /-- `NI_ADDRCONF_UPDATE_NIS` -/
  nis : ℕ
  /-- `ni_config_addrconf_update_mask(ni_global.config, type)` -/
  configUpdateMask : ℕ → ℕ
  /-- `ni_addrconf_lease_is_valid(lease)` -/
  leaseIsValid : Lease → Bool
  /-- `__ni_interface_address_info(ifp, family)` -/
  addressInfo : Interface → ℕ → AfInfo

/-- One choice of the outside constants, to run the model on: four targets with the default
route first; three addrconf modes; leases of type `1` may update every service and other types
none; a lease is valid in state `2`; family `10` reads the `ipv6` info and any other the `ipv4`
one. -/
def UpdateEnv.sample : UpdateEnv where
  updateMax := 4
  addrconfMax := 3
  defaultRoute := 0
  hostname := 1
  resolver := 2
  nis := 3
  configUpdateMask type := if type = 1 then 0b1110 else 0
  leaseIsValid lease := lease.state = 2
  addressInfo ifp family := if family = 10 then ifp.ipv6 else ifp.ipv4

/-- A lease of type `1` and family `2`, granted (state `2`) at time `10`, carrying a
hostname and a resolver. -/
def Lease.sampleA : Lease := ⟨1, 2, 2, true, false, true, 10⟩

/-- A lease of type `2`, granted at time `5`, carrying a hostname. -/
def Lease.sampleB : Lease := ⟨2, 2, 2, true, false, false, 5⟩

/-- The same lease after `LeaseReleased`: state `4`. -/
def Lease.released (lease : Lease) : Lease := { lease with state := 4 }

/-- A released lease of a mode and family that carries nothing, for a slot whose mode has no
lease in use. -/
def Lease.idle (type family : ℕ) : Lease := ⟨type, family, 4, false, false, false, 0⟩

/-- An interface of `UpdateEnv.sample`'s shape with every lease slot filled: `lease`, of a type
below `3`, in the `ipv4` slot of its mode, idle leases in the other slots of both families, and
no requests. -/
def Interface.sample (ifindex : ℕ) (lease : Lease) : Interface :=
  ⟨ifindex,
    ⟨(List.range UpdateEnv.sample.addrconfMax).map fun mode ↦
        some (if mode = lease.type then lease else .idle mode 2),
      List.replicate UpdateEnv.sample.addrconfMax none⟩,
    ⟨(List.range UpdateEnv.sample.addrconfMax).map fun mode ↦ some (.idle mode 10),
      List.replicate UpdateEnv.sample.addrconfMax none⟩⟩

variable (E : UpdateEnv)

/-- The shape C gives an address family's info: `n` lease slots and `n` requests. -/
def AfInfo.WellFormed (n : ℕ) (afi : AfInfo) : Prop :=
  afi.lease.length = n ∧ afi.request.length = n

instance (n : ℕ) (afi : AfInfo) : Decidable (afi.WellFormed n) :=
  inferInstanceAs (Decidable (_ ∧ _))

/-- An interface C can hold: both address families have `__NI_ADDRCONF_MAX` lease slots
(`afi->lease[mode]`, line 372) and requests (`afi->request[lease->type]`, line 223). -/
def Interface.WellFormed (ifp : Interface) : Prop :=
  ifp.ipv4.WellFormed E.addrconfMax ∧ ifp.ipv6.WellFormed E.addrconfMax

instance (ifp : Interface) : Decidable (ifp.WellFormed E) :=
  inferInstanceAs (Decidable (_ ∧ _))

/-- `__ni_update_handlers[target] != NULL`: the table's initialiser names a handler for the
hostname, resolver and NIS targets only. -/
def niUpdateHandlers (t : ℕ) : Bool :=
  t = E.hostname || t = E.resolver || t = E.nis

/-- `ni_system_update_capabilities`: the default route, and every target with a handler.
The source caches the value in a `static`; the handler table is constant, so every call
computes the same mask. -/
def niSystemUpdateCapabilities : ℕ :=
  (List.range E.updateMax).foldl
    (fun caps t ↦ if niUpdateHandlers E t then niAddrconfSetUpdate caps t else caps)
    (niAddrconfSetUpdate 0 E.defaultRoute)

/-- `ni_system_lease_capabilities(ifp, lease)` for a lease that is there: the services the
lease carries, cut down to its request's `update` mask, and nothing for an invalid lease. -/
def niSystemLeaseCapabilities (ifp : Interface) (lease : Lease) : ℕ :=
  if E.leaseIsValid lease then
    let m₁ := if lease.hostname then niAddrconfSetUpdate 0 E.hostname else 0
    let m₂ := if lease.nis then niAddrconfSetUpdate m₁ E.nis else m₁
    let m₃ := if lease.resolver then niAddrconfSetUpdate m₂ E.resolver else m₂
    match (E.addressInfo ifp lease.family).requestUpdate lease.type with
    | some update => m₃ &&& update
    | none => m₃
  else 0

/-- An invalid lease — one released or failed — provides nothing. -/
@[simp]
theorem niSystemLeaseCapabilities_of_invalid {ifp : Interface} {lease : Lease}
    (h : E.leaseIsValid lease = false) : niSystemLeaseCapabilities E ifp lease = 0 := by
  simp [niSystemLeaseCapabilities, h]

/-! ### Handler calls and the state of one update -/

/-- One call of an update handler: `handler(nih, lease)` on behalf of an interface, with
whether it succeeded, or `handler(nih, NULL)`, the restore. -/
inductive HandlerCall
  | update (target : ℕ) (ifp : Interface) (lease : Lease) (ok : Bool)
  | restore (target : ℕ)
deriving DecidableEq, Repr

/-- The target a handler call is for. -/
def HandlerCall.target : HandlerCall → ℕ
  | update t .. => t
  | restore t => t

/-- What the handlers answer during one `ni_system_update_from_lease`: whether the
first-pass update of a target succeeds, and whether its refill-pass update does. Each pass
calls a target's handler with a lease at most once, so this is every possible pattern. -/
structure HandlerResults where
  update : ℕ → Bool
  refill : ℕ → Bool

/-- Every handler succeeds. -/
def HandlerResults.succeed : HandlerResults := ⟨fun _ ↦ true, fun _ ↦ true⟩

/-- What `ni_system_update_from_lease` works on: the table `__ni_update_info`, the handler
calls made so far, its locals `clear_mask` and `rv`, and whether the process has died on a
`NULL` dereference. -/
structure UpdateState where
  info : ℕ → Origin
  calls : List HandlerCall
  clearMask : ℕ
  rv : ℤ
  faulted : Bool

/-- `ni_system_update_service(nih, ifp, lease, target)`, the handler answering `ok`. The
second component is whether it returned `0`; without a handler it returns `0` and does
nothing, and only a successful handler call moves the target's origin. -/
def niSystemUpdateService (ok : Bool) (s : UpdateState) (ifp : Interface) (lease : Lease)
    (t : ℕ) : UpdateState × Bool :=
  if niUpdateHandlers E t then
    if ok then
      ({ s with info := Function.update s.info t (Origin.of ifp lease),
                calls := s.calls ++ [.update t ifp lease true] }, true)
    else ({ s with calls := s.calls ++ [.update t ifp lease false] }, false)
  else (s, true)

/-- `ni_system_restore_service(nih, target)`: the handler, if any, called without a lease. -/
def niSystemRestoreService (s : UpdateState) (t : ℕ) : UpdateState :=
  if niUpdateHandlers E t then { s with calls := s.calls ++ [.restore t] } else s

end Wicked
