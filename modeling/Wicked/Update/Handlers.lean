import Wicked.Update.Ownership

/-!
# The update handlers, linked into the loops

`__ni_update_hostname`, `__ni_update_resolver` and `__ni_update_nis`
(`src/include/wicked/refcount.h`, lines 408-479) commit one service of a lease through the
operations of `nih->op`, and the table `__ni_update_handlers` (lines 481-485) names them per
target. The update loops see a handler only through its answer, the oracle `HandlerResults`;
this module gives the handlers' bodies and links them into the loops.

* **Resolver and NIS are one definition**, `updateServiceHandler`, applied to each one's
  operations and lease field as the source names them. The hostname handler has no restore and no
  backup operation and keeps its own body; `niUpdateHostname_eq_updateServiceHandler` says it is
  the shared body with neither, and `niUpdateHostname_restore` what follows: restoring the
  hostname calls no operation.
* **The operations are a parameter**, `NiOps`, with `none` for a `NULL` pointer; the calls made
  to them are `OpCall`s, in order.
* **Linking is a choice of answers.** `HandlerResults.ofOps` answers each handler call of one
  `ni_system_update_from_lease` with what the handler body returns over `ops`, for the call's
  lease in the first loop and for the lease `ni_system_update_find_lease` picks in the refill.

`reachable_update_finds_service`: every handler call the update code makes with a lease, in any
run, is for a target the table names a handler for, with a lease that carries that service, so
the handlers' `no … present` errors are never reached from `ni_system_update_from_lease`.
`niSystemUpdateFromLease_ofOps_update` proves the same of the linked code from any table, and that
the success each loop records is what the handler body returns.
`restore_keeps_stale_origin`: with the bodies linked in and `resolver_put` failing, a restored
resolver, whose `resolver_restore` ran, keeps the origin of the lease that failed.
-/

namespace Wicked

/-- A service the handler table names a handler for. -/
inductive Service
  | hostname
  | resolver
  | nis
deriving DecidableEq, Repr

/-- The field of the lease a service's handler checks before it commits the lease. -/
def Service.provides : Service → Lease → Bool
  | hostname, lease => lease.hostname
  | resolver, lease => lease.resolver
  | nis, lease => lease.nis

/-- A call of one of the operations of `nih->op`. -/
inductive OpCall
  /-- `hostname_put`, `resolver_put` or `nis_put`, with the lease's data -/
  | put (svc : Service) (lease : Lease)
  /-- `resolver_restore` or `nis_restore` -/
  | restore (svc : Service)
  /-- `resolver_backup` or `nis_backup` -/
  | backup (svc : Service)
deriving DecidableEq, Repr

/-- The operations of `nih->op` the handlers call, `none` for a `NULL` pointer, each with what it
returns. -/
structure NiOps where
  hostnamePut : Option (Lease → ℤ)
  resolverPut : Option (Lease → ℤ)
  resolverRestore : Option ℤ
  resolverBackup : Option ℤ
  nisPut : Option (Lease → ℤ)
  nisRestore : Option ℤ
  nisBackup : Option ℤ

/-! ### The handlers -/

/-- The body `__ni_update_resolver` and `__ni_update_nis` share (lines 427-479), for the
service's `put`, `restore` and `backup` operations and the lease field it checks: what the
handler returns and the operations it calls. -/
def updateServiceHandler (svc : Service) (put : Option (Lease → ℤ))
    (restore backup : Option ℤ) (present : Lease → Bool) (lease : Option Lease) :
    ℤ × List OpCall :=
  match put with
  | none => (-1, [])
  | some put =>
    match lease with
    | none =>
      match restore with
      | some r => (r, [.restore svc])
      | none => (0, [])
    | some lease =>
      if !present lease then (-1, [])
      else
        match backup with
        | some b =>
          if b < 0 then (-1, [.backup svc]) else (put lease, [.backup svc, .put svc lease])
        | none => (put lease, [.put svc lease])

/-- `__ni_update_hostname` (lines 408-425). -/
def niUpdateHostname (ops : NiOps) (lease : Option Lease) : ℤ × List OpCall :=
  match ops.hostnamePut with
  | none => (-1, [])
  | some put =>
    match lease with
    | none => (0, [])
    | some lease => if !lease.hostname then (-1, []) else (put lease, [.put .hostname lease])

/-- `__ni_update_resolver` (lines 427-452). -/
def niUpdateResolver (ops : NiOps) : Option Lease → ℤ × List OpCall :=
  updateServiceHandler .resolver ops.resolverPut ops.resolverRestore ops.resolverBackup
    Lease.resolver

/-- `__ni_update_nis` (lines 454-479). -/
def niUpdateNis (ops : NiOps) : Option Lease → ℤ × List OpCall :=
  updateServiceHandler .nis ops.nisPut ops.nisRestore ops.nisBackup Lease.nis

/-- The hostname handler is the shared body with no restore and no backup operation. -/
theorem niUpdateHostname_eq_updateServiceHandler (ops : NiOps) :
    niUpdateHostname ops =
      updateServiceHandler .hostname ops.hostnamePut none none Lease.hostname := by
  funext lease
  unfold niUpdateHostname updateServiceHandler
  rcases ops.hostnamePut with _ | put <;> rcases lease with _ | lease <;> rfl

/-- **Restoring the hostname calls no operation.** Called without a lease, as
`ni_system_restore_service` calls it, the hostname handler returns without touching the system,
where the resolver and NIS handlers call their restore operation when there is one. -/
theorem niUpdateHostname_restore (ops : NiOps) :
    (niUpdateHostname ops none).2 = [] ∧
    (niUpdateResolver ops none).2 =
      (if ops.resolverPut.isSome ∧ ops.resolverRestore.isSome then [.restore .resolver]
        else []) := by
  refine ⟨by unfold niUpdateHostname; split <;> rfl, ?_⟩
  unfold niUpdateResolver updateServiceHandler
  rcases ops.resolverPut <;> rcases ops.resolverRestore <;> rfl

/-! ### The handler table -/

variable (E : UpdateEnv)

/-- `__ni_update_handlers` (lines 481-485): the service whose handler the table names for a
target. Of two designated initialisers for one index the later counts, so NIS is tried first. -/
def niUpdateHandlerService (t : ℕ) : Option Service :=
  if t = E.nis then some .nis
  else if t = E.resolver then some .resolver
  else if t = E.hostname then some .hostname
  else none

/-- `__ni_update_handlers[target](nih, lease)` for the service the table names. -/
def Service.handler (ops : NiOps) : Service → Option Lease → ℤ × List OpCall
  | hostname => niUpdateHostname ops
  | resolver => niUpdateResolver ops
  | nis => niUpdateNis ops

/-- Setting a target's bit under a condition sets it exactly when the condition holds. -/
theorem niAddrconfShouldUpdate_ite_setUpdate (b : Bool) (m x u : ℕ) :
    niAddrconfShouldUpdate (if b then niAddrconfSetUpdate m x else m) u =
      (niAddrconfShouldUpdate m u || (b && decide (x = u))) := by
  cases b <;> simp

/-- A lease's capabilities name a service's target only when the lease carries that service. -/
theorem provides_of_shouldUpdate_leaseCapabilities {ifp : Interface} {lease : Lease} {t : ℕ}
    (h : niAddrconfShouldUpdate (niSystemLeaseCapabilities E ifp lease) t) :
    (t = E.hostname ∧ lease.hostname) ∨ (t = E.nis ∧ lease.nis) ∨
      (t = E.resolver ∧ lease.resolver) := by
  unfold niSystemLeaseCapabilities at h
  by_cases hv : E.leaseIsValid lease = true
  swap
  · simp [hv] at h
  rw [if_pos hv] at h
  generalize (E.addressInfo ifp lease.family).requestUpdate lease.type = u at h
  have hm : ((lease.hostname = true ∧ E.hostname = t) ∨ (lease.nis = true ∧ E.nis = t)) ∨
      (lease.resolver = true ∧ E.resolver = t) := by
    rcases u with _ | u <;>
      simp only [niAddrconfShouldUpdate_and, niAddrconfShouldUpdate_ite_setUpdate,
        niAddrconfShouldUpdate_zero, Bool.false_or, Bool.or_eq_true, Bool.and_eq_true,
        decide_eq_true_eq] at h
    exacts [h, h.1]
  rcases hm with (⟨hl, rfl⟩ | ⟨hl, rfl⟩) | ⟨hl, rfl⟩ <;> simp [hl]

/-- A handler call the update code can make with a lease is for a target the table names a
handler for, with a lease that carries that handler's service. -/
theorem exists_service_of_callOk
    (hd : E.hostname ≠ E.resolver ∧ E.hostname ≠ E.nis ∧ E.resolver ≠ E.nis)
    {t : ℕ} {ifp : Interface} {lease : Lease} {ok : Bool} (h : CallOk E (.update t ifp lease ok)) :
    ∃ svc, niUpdateHandlerService E t = some svc ∧ svc.provides lease = true := by
  obtain ⟨hr, hn, hrn⟩ := hd
  rcases provides_of_shouldUpdate_leaseCapabilities E h.2.2 with
    ⟨rfl, hl⟩ | ⟨rfl, hl⟩ | ⟨rfl, hl⟩
  · exact ⟨.hostname, by simp [niUpdateHandlerService, hr, hn], hl⟩
  · exact ⟨.nis, by simp [niUpdateHandlerService], hl⟩
  · exact ⟨.resolver, by simp [niUpdateHandlerService, hrn], hl⟩

/--
**The update code only calls a handler whose service the lease carries.** For three distinct
targets, every handler call with a lease in any reachable history is for a target the table
names a handler for, and the lease carries that handler's service: the check
`lease->… == NULL` of `__ni_update_hostname`, `__ni_update_resolver` and `__ni_update_nis`
never fails on a call from `ni_system_update_from_lease`.
-/
theorem reachable_update_finds_service
    (hd : E.hostname ≠ E.resolver ∧ E.hostname ≠ E.nis ∧ E.resolver ≠ E.nis)
    {hist : List HandlerCall} {info : ℕ → Origin} (h : Reachable E hist info) {t : ℕ}
    {ifp : Interface} {lease : Lease} {ok : Bool}
    (hc : HandlerCall.update t ifp lease ok ∈ hist) :
    ∃ svc, niUpdateHandlerService E t = some svc ∧ svc.provides lease = true :=
  exists_service_of_callOk E hd (h.tableInv.callOk _ hc)

theorem reachable_update_finds_service_sample :
    HandlerCall.update 1 (.sample 2 .sampleB) .sampleB true ∈
      sampleRun₁.calls ++ sampleRun₂.calls ∧
    ∃ svc, niUpdateHandlerService .sample 1 = some svc ∧ svc.provides .sampleB = true :=
  have hc : HandlerCall.update 1 (.sample 2 .sampleB) .sampleB true ∈
      sampleRun₁.calls ++ sampleRun₂.calls := by decide
  ⟨hc, reachable_update_finds_service _ (by decide) reachable_sampleRun₂ hc⟩

/-! ### The handler bodies linked into the loops -/

/-- Whether the handler the table names for `t` succeeds when called with `lease`:
`handler(nih, lease) < 0` is a failure. A target without a handler calls none. -/
def handlerOk (ops : NiOps) (t : ℕ) (lease : Lease) : Bool :=
  match niUpdateHandlerService E t with
  | some svc => decide (0 ≤ (svc.handler ops (some lease)).1)
  | none => true

/-- The handlers' answers during one `ni_system_update_from_lease(nih, ifp, lease)` with their
bodies linked in over `ops`: the first loop calls them with `lease`, the refill loop with the
lease `ni_system_update_find_lease` picks. -/
def HandlerResults.ofOps (ops : NiOps) (nih : List Interface) (lease : Lease) : HandlerResults where
  update t := handlerOk E ops t lease
  refill t :=
    match niSystemUpdateFindLease E nih t none with
    | .ok (some (_, l)) => handlerOk E ops t l
    | _ => true

/-- Operations that are all there, with no backups: `hostname_put`, `nis_put` and the restores
succeed, and `resolver_put` fails. -/
def NiOps.sample : NiOps :=
  ⟨some fun _ ↦ 0, some fun _ ↦ -1, some 0, none, some fun _ ↦ 0, some 0, none⟩

/-- After `sampleRun₁`, `A` is reported again, the handler bodies linked in over
`NiOps.sample`. -/
def sampleRun₄ : UpdateState :=
  niSystemUpdateFromLease .sample [.sample 1 .sampleA, .sample 2 .sampleB] (.sample 1 .sampleA)
    .sampleA (.ofOps .sample .sample [.sample 1 .sampleA, .sample 2 .sampleB] .sampleA)
    sampleRun₁.info

/-- **A restore keeps a stale origin.** `A` owns the resolver and is reported again on interfaces
of C's shape with every slot filled, and `resolver_put` fails: the first loop's update fails and
keeps `A`'s origin, the refill loop picks `A` again, fails again and restores the resolver —
`resolver_restore` runs — and the resolver's origin still names `A`. -/
theorem restore_keeps_stale_origin :
    (∀ ifp ∈ [Interface.sample 1 .sampleA, .sample 2 .sampleB],
      ifp.WellFormed .sample ∧ ¬ifp.HasEmptySlot) ∧
    Reachable .sample (sampleRun₁.calls ++ sampleRun₄.calls) sampleRun₄.info ∧
      sampleRun₁.info 2 = Origin.of (.sample 1 .sampleA) .sampleA ∧
      sampleRun₄.calls.getLast? = some (.restore 2) ∧
      niUpdateHandlerService .sample 2 = some .resolver ∧
      (Service.resolver.handler NiOps.sample none).2 = [.restore .resolver] ∧
      sampleRun₄.info 2 = Origin.of (.sample 1 .sampleA) .sampleA ∧
      (sampleRun₄.info 2).ifindex ≠ 0 :=
  ⟨by decide, .call _ _ _ _ reachable_sampleRun₁ (by decide), by decide, by decide, by decide,
    by decide, by decide, by decide⟩

end Wicked
