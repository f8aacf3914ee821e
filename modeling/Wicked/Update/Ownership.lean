import Wicked.Update.FromLease

/-!
# Who owns a service

`__ni_update_info[target].origin` names the lease that configured a service, and the
comment at lines 302–307 states the rule: a lease does not overwrite a service configured by
another lease. This module proves what the two loops of `ni_system_update_from_lease` do to
one target, and what the table looks like after any sequence of calls.

* `niSystemUpdateFromLease_leaves_foreign`: a target owned by another lease keeps its
  origin, and no handler is called for it, in either loop.
* `Reachable` is the set of tables — with the record of every handler call — that calls
  returning one after another can leave. Over it, `reachable_origin_eq_lastSet`: a nonzero
  origin is the one the last successful handler update of its target wrote.
-/

namespace Wicked

variable (E : UpdateEnv)

/-! ### Targets owned by another lease -/

/-- A call leaves the targets it does not touch with no calls for them. -/
theorem Within.target_ne_of_start {T : ℕ → Prop} {info : ℕ → Origin} {s : UpdateState}
    (h : Within T (UpdateState.start info) s) {c : HandlerCall} (hc : c ∈ s.calls) : T c.target :=
  h.target_mem hc (List.not_mem_nil c)

/-- **Leases do not take over services owned by other leases.** A target whose origin
names an interface (`origin.ifindex != 0`) and differs from this lease's keeps its origin,
and neither loop calls its handler, to update or to restore. -/
theorem niSystemUpdateFromLease_leaves_foreign (nih : List Interface) (ifp : Interface)
    (lease : Lease) (res : HandlerResults) (info : ℕ → Origin) {t : ℕ}
    (hown : (info t).ifindex ≠ 0) (hforeign : info t ≠ Origin.of ifp lease) :
    (niSystemUpdateFromLease E nih ifp lease res info).info t = info t ∧
      ∀ c ∈ (niSystemUpdateFromLease E nih ifp lease res info).calls, c.target ≠ t := by
  suffices h : Within (· ≠ t) (UpdateState.start info)
      (niSystemUpdateFromLease E nih ifp lease res info) from
    ⟨h.info_eq t (not_not.2 rfl), fun _ hc ↦ h.target_ne_of_start hc⟩
  unfold niSystemUpdateFromLease refillPass firstPass
  split_ifs
  · exact Within.refl _ _
  have h₁ := foldl_within_ne
    (fun s u ↦ (updateOps_firstPassStep E ifp lease (updatePermitted E lease) res s u).within)
    E.updateMax (UpdateState.start info) fun s' hs' ↦
      firstPassStep_of_foreign E _ (by rwa [hs'.info_eq t (not_not.2 rfl)])
        (by rwa [hs'.info_eq t (not_not.2 rfl)])
  refine h₁.trans (foldl_within_ne (fun s u ↦ (updateOps_refillStep E nih res _ s u).within)
    E.updateMax _ fun s' _ ↦ refillStep_of_not_mem E ?_ s')
  rw [h₁.clear_eq t (not_not.2 rfl)]
  exact niAddrconfShouldUpdate_zero t

/-- After `sampleRun₂` lease `B` owns the hostname; `A` on interface `1` leaves it alone. -/
theorem niSystemUpdateFromLease_leaves_foreign_sample :
    (sampleRun₂.info 1).ifindex ≠ 0 ∧ sampleRun₂.info 1 ≠ Origin.of (.sample 1 .sampleA) .sampleA ∧
      (niSystemUpdateFromLease .sample [.sample 1 .sampleA] (.sample 1 .sampleA) .sampleA .succeed
        sampleRun₂.info).info 1 = sampleRun₂.info 1 ∧
      ∀ c ∈ (niSystemUpdateFromLease .sample [.sample 1 .sampleA] (.sample 1 .sampleA) .sampleA
        .succeed sampleRun₂.info).calls, c.target ≠ 1 :=
  ⟨by decide, by decide,
    niSystemUpdateFromLease_leaves_foreign _ _ _ _ _ _ (by decide) (by decide)⟩

/-! ### The table over a run -/

/-- How a handler call moves the last origin set for `t`: only a successful update of `t`
sets it. -/
def lastSetStep (t : ℕ) (o : Option Origin) : HandlerCall → Option Origin
  | .update u ifp lease true => if u = t then some (Origin.of ifp lease) else o
  | _ => o

/-- The origin the last successful handler update of `t` in a record of calls wrote. -/
def lastSet (t : ℕ) (calls : List HandlerCall) : Option Origin :=
  calls.foldl (lastSetStep t) none

@[simp]
theorem lastSet_append_singleton (t : ℕ) (calls : List HandlerCall) (c : HandlerCall) :
    lastSet t (calls ++ [c]) = lastSetStep t (lastSet t calls) c := by
  simp [lastSet]

/-- An origin was set only by a call for its target. -/
theorem exists_mem_of_lastSet {t : ℕ} {o : Origin} :
    ∀ {calls : List HandlerCall}, lastSet t calls = some o → ∃ c ∈ calls, c.target = t := by
  intro calls
  induction calls using List.reverseRecOn with
  | nil => simp [lastSet]
  | append_singleton calls c ih =>
    intro h
    rw [lastSet_append_singleton] at h
    rcases c with ⟨u, ifp, lease, _ | _⟩ | u
    · obtain ⟨c, hc, hct⟩ := ih h
      exact ⟨c, List.mem_append_left _ hc, hct⟩
    · by_cases hu : u = t
      · exact ⟨_, List.mem_append_right _ (List.mem_singleton_self _), hu⟩
      · obtain ⟨c, hc, hct⟩ := ih (by simpa [lastSetStep, hu] using h)
        exact ⟨c, List.mem_append_left _ hc, hct⟩
    · obtain ⟨c, hc, hct⟩ := ih h
      exact ⟨c, List.mem_append_left _ hc, hct⟩

/-- A handler call the update code can make: for a target its loops visit and that has a
handler, and an update only from a lease that provides the target. -/
def CallOk : HandlerCall → Prop
  | .update t ifp lease _ => t < E.updateMax ∧ niUpdateHandlers E t ∧
      niAddrconfShouldUpdate (niSystemLeaseCapabilities E ifp lease) t
  | .restore t => t < E.updateMax ∧ niUpdateHandlers E t

/-- What holds of the table and the record of every handler call made so far. -/
structure TableInv (hist : List HandlerCall) (info : ℕ → Origin) : Prop where
  /-- A nonzero origin is the one the last successful update of its target wrote. -/
  lastSet_eq : ∀ t, (info t).ifindex ≠ 0 → lastSet t hist = some (info t)
  /-- Every call made is one the update code can make. -/
  callOk : ∀ c ∈ hist, CallOk E c

namespace TableInv

variable {E} {hist : List HandlerCall} {info : ℕ → Origin}

theorem callOk_append (h : TableInv E hist info) {c : HandlerCall} (hc : CallOk E c) :
    ∀ c' ∈ hist ++ [c], CallOk E c' := by
  intro c' hc'
  rcases List.mem_append.1 hc' with hc' | hc'
  · exact h.callOk c' hc'
  · rwa [List.mem_singleton.1 hc']

/-- A call that sets no origin keeps the invariant. -/
theorem append (h : TableInv E hist info) {c : HandlerCall} (hc : CallOk E c)
    (hset : ∀ u o, lastSetStep u o c = o) : TableInv E (hist ++ [c]) info :=
  ⟨fun u hu ↦ by rw [lastSet_append_singleton, hset, h.lastSet_eq u hu], h.callOk_append hc⟩

/-- A successful update sets the origin it records. -/
theorem update (h : TableInv E hist info) {t : ℕ} {ifp : Interface} {lease : Lease}
    (hc : CallOk E (.update t ifp lease true)) :
    TableInv E (hist ++ [.update t ifp lease true])
      (Function.update info t (Origin.of ifp lease)) := by
  refine ⟨fun u hu ↦ ?_, h.callOk_append hc⟩
  by_cases hut : u = t
  · subst hut
    simp [lastSetStep]
  · rw [Function.update_noteq hut] at hu ⊢
    simp [lastSetStep, Ne.symm hut, h.lastSet_eq u hu]

/-- Wiping an origin keeps the invariant. -/
theorem clear (h : TableInv E hist info) (t : ℕ) :
    TableInv E hist (Function.update info t 0) := by
  refine ⟨fun u hu ↦ ?_, h.callOk⟩
  by_cases hut : u = t
  · subst hut
    simp at hu
  · rw [Function.update_noteq hut] at hu ⊢
    exact h.lastSet_eq u hu

end TableInv

/-- Each operation keeps `TableInv`, whatever the calls before it. -/
theorem tableInv_op {hist : List HandlerCall} {t : ℕ} {s s' : UpdateState}
    (h : UpdateOp E t s s') (ht : t < E.updateMax) (hs : TableInv E (hist ++ s.calls) s.info) :
    TableInv E (hist ++ s'.calls) s'.info := by
  cases h with
  | update hh hcap => simpa [← List.append_assoc] using hs.update ⟨ht, hh, hcap⟩
  | @fail ifp lease hh hcap =>
    simpa [← List.append_assoc] using
      hs.append (c := .update t ifp lease false) ⟨ht, hh, hcap⟩ fun _ _ ↦ rfl
  | restore hh =>
    simpa [← List.append_assoc] using hs.append (c := .restore t) ⟨ht, hh⟩ fun _ _ ↦ rfl
  | clear => exact hs.clear t
  | mark | fault => exact hs

/-- **A call keeps `TableInv`.** -/
theorem tableInv_niSystemUpdateFromLease {hist : List HandlerCall} {info : ℕ → Origin}
    (h : TableInv E hist info) (nih : List Interface) (ifp : Interface) (lease : Lease)
    (res : HandlerResults) :
    TableInv E (hist ++ (niSystemUpdateFromLease E nih ifp lease res info).calls)
      (niSystemUpdateFromLease E nih ifp lease res info).info := by
  suffices ∀ s, Relation.ReflTransGen (AnyOp E) (UpdateState.start info) s →
      TableInv E (hist ++ s.calls) s.info from
    this _ (anyOps_niSystemUpdateFromLease E nih ifp lease res info)
  intro s hs
  induction hs with
  | refl => simpa [UpdateState.start] using h
  | tail _ hop ih =>
    obtain ⟨t, ht, hop⟩ := hop
    exact tableInv_op E hop ht ih

/-- Each operation appends only calls the update code can make. -/
theorem UpdateOp.callOk {t : ℕ} {s s' : UpdateState} (h : UpdateOp E t s s')
    (ht : t < E.updateMax) (hs : ∀ c ∈ s.calls, CallOk E c) : ∀ c ∈ s'.calls, CallOk E c := by
  have happ : ∀ c', CallOk E c' → ∀ c ∈ s.calls ++ [c'], CallOk E c := fun c' hc' c hc ↦
    (List.mem_append.1 hc).elim (hs c) fun h ↦ List.mem_singleton.1 h ▸ hc'
  cases h with
  | update hh hcap | fail hh hcap => exact happ _ ⟨ht, hh, hcap⟩
  | restore hh => exact happ _ ⟨ht, hh⟩
  | clear | mark | fault => exact hs

/-- The tables `__ni_update_info` can hold, with the record of every handler call made so
far: the zero table before any call, and what a call of `ni_system_update_from_lease` that
returns leaves. A call that dies on a `NULL` read ends the process, and its table. -/
inductive Reachable : List HandlerCall → (ℕ → Origin) → Prop
  | init : Reachable [] fun _ ↦ 0
  | call {hist : List HandlerCall} {info : ℕ → Origin} (nih : List Interface) (ifp : Interface)
      (lease : Lease) (res : HandlerResults) : Reachable hist info →
      (niSystemUpdateFromLease E nih ifp lease res info).faulted = false →
      Reachable (hist ++ (niSystemUpdateFromLease E nih ifp lease res info).calls)
        (niSystemUpdateFromLease E nih ifp lease res info).info

namespace Reachable

variable {E} {hist : List HandlerCall} {info : ℕ → Origin}

theorem tableInv (h : Reachable E hist info) : TableInv E hist info := by
  induction h with
  | init => exact ⟨fun _ h ↦ absurd rfl h, by simp⟩
  | call nih ifp lease res _ _ ih => exact tableInv_niSystemUpdateFromLease E ih nih ifp lease res

/-- An owned target is one the loops visit, and it has a handler. -/
theorem owned (h : Reachable E hist info) {t : ℕ} (ht : (info t).ifindex ≠ 0) :
    t < E.updateMax ∧ niUpdateHandlers E t := by
  obtain ⟨c, hc, rfl⟩ := exists_mem_of_lastSet (h.tableInv.lastSet_eq t ht)
  have hok := h.tableInv.callOk c hc
  cases c with
  | update => exact ⟨hok.1, hok.2.1⟩
  | restore => exact hok

end Reachable

theorem reachable_sampleRun₁ : Reachable .sample sampleRun₁.calls sampleRun₁.info :=
  .call [.sample 1 .sampleA, .sample 2 .sampleB] (.sample 1 .sampleA) .sampleA .succeed .init
    (by decide)

theorem reachable_sampleRun₂ :
    Reachable .sample (sampleRun₁.calls ++ sampleRun₂.calls) sampleRun₂.info :=
  .call [.sample 1 Lease.sampleA.released, .sample 2 .sampleB] (.sample 1 Lease.sampleA.released)
    Lease.sampleA.released .succeed reachable_sampleRun₁ (by decide)

/-- **The origin is the last successful update.** In every table a run can reach, a target
with a nonzero origin was last successfully updated — by a handler call with a lease — from
a lease on an interface whose `(ifindex, type, family)` is that origin. -/
theorem reachable_origin_eq_lastSet {hist : List HandlerCall} {info : ℕ → Origin}
    (h : Reachable E hist info) {t : ℕ} (ht : (info t).ifindex ≠ 0) :
    lastSet t hist = some (info t) :=
  h.tableInv.lastSet_eq t ht

theorem reachable_origin_eq_lastSet_sample :
    Reachable .sample sampleRun₁.calls sampleRun₁.info ∧ (sampleRun₁.info 1).ifindex ≠ 0 ∧
      lastSet 1 sampleRun₁.calls = some (sampleRun₁.info 1) :=
  ⟨reachable_sampleRun₁, by decide,
    reachable_origin_eq_lastSet _ reachable_sampleRun₁ (by decide)⟩

/-- **Releasing a lease withdraws the services it owns that its type may update.** From any
reachable table, a call with a lease `ni_addrconf_lease_is_valid` rejects, on an interface
with a nonzero index, handles every target the lease owns and `update_permitted` includes:
unless the process dies, the target is restored, or configured from the lease
`ni_system_update_find_lease` picks. -/
theorem niSystemUpdateFromLease_withdraws {hist : List HandlerCall} {info : ℕ → Origin}
    (hreach : Reachable E hist info) (nih : List Interface) (ifp : Interface) (lease : Lease)
    (res : HandlerResults) {t : ℕ} (hinvalid : E.leaseIsValid lease = false)
    (hown : info t = Origin.of ifp lease) (hidx : ifp.ifindex ≠ 0)
    (hperm : niAddrconfShouldUpdate (updatePermitted E lease) t)
    (hret : (niSystemUpdateFromLease E nih ifp lease res info).faulted = false) :
    HandlerCall.restore t ∈ (niSystemUpdateFromLease E nih ifp lease res info).calls ∨
      ∃ best l, niSystemUpdateFindLease E nih t none = .ok (some (best, l)) ∧
        HandlerCall.update t best l true ∈ (niSystemUpdateFromLease E nih ifp lease res info).calls := by
  obtain ⟨hlt, hh⟩ := hreach.owned (t := t) (by rw [hown]; exact hidx)
  have hp0 : updatePermitted E lease ≠ 0 := fun h0 ↦ by simp [h0] at hperm
  rw [niSystemUpdateFromLease, if_neg hp0, refillPass] at hret ⊢
  set s₁ := firstPass E ifp lease res (UpdateState.start info) with hs₁
  -- the first loop wipes the target and marks it in `clear_mask`
  have hbit : niAddrconfShouldUpdate s₁.clearMask t := by
    obtain ⟨s', h₁, h₂⟩ := foldl_at
      (fun s u ↦ (updateOps_firstPassStep E ifp lease (updatePermitted E lease) res s u).within)
      hlt (UpdateState.start info)
    rw [firstPassStep_of_withdrawn E _ hperm ((h₁.info_eq t (not_not.2 rfl)).trans hown) hidx
      (by simp [hinvalid])] at h₂
    rw [hs₁, firstPass, h₂.clear_eq t (not_not.2 rfl)]
    simp
  -- the refill loop reaches it alive, and handles it
  obtain ⟨pre, post, -, -, hsplit⟩ :=
    foldl_split (f := refillStep E nih res s₁.clearMask) hlt s₁
  rw [hsplit] at hret ⊢
  set s₂ := pre.foldl (refillStep E nih res s₁.clearMask) s₁
  have hW := within_foldl (fun s u ↦ (updateOps_refillStep E nih res s₁.clearMask s u).within)
    post (refillStep E nih res s₁.clearMask s₂ t)
  have hf₂ : s₂.faulted = false := by
    by_contra hf
    rw [Bool.not_eq_false] at hf
    rw [refillStep_of_faulted E hf, foldl_refillStep_of_faulted E _ hf, hf] at hret
    cases hret
  rcases refillStep_of_mem E hbit hh hf₂ with hf | hr | ⟨b, l, hfind, hu⟩
  · rw [foldl_refillStep_of_faulted E _ hf, hf] at hret
    cases hret
  · exact .inl (hW.mem_calls hr)
  · exact .inr ⟨b, l, hfind, hW.mem_calls hu⟩

theorem niSystemUpdateFromLease_withdraws_sample :
    Reachable .sample sampleRun₁.calls sampleRun₁.info ∧
      UpdateEnv.sample.leaseIsValid Lease.sampleA.released = false ∧
      sampleRun₁.info 1 = Origin.of (.sample 1 Lease.sampleA.released) Lease.sampleA.released ∧
      (Interface.sample 1 Lease.sampleA.released).ifindex ≠ 0 ∧
      niAddrconfShouldUpdate (updatePermitted .sample Lease.sampleA.released) 1 ∧
      sampleRun₂.faulted = false ∧
      (HandlerCall.restore 1 ∈ sampleRun₂.calls ∨
        ∃ best l, niSystemUpdateFindLease .sample
            [.sample 1 Lease.sampleA.released, .sample 2 .sampleB] 1 none = .ok (some (best, l)) ∧
          HandlerCall.update 1 best l true ∈ sampleRun₂.calls) :=
  ⟨reachable_sampleRun₁, by decide, by decide, by decide, by decide, by decide,
    niSystemUpdateFromLease_withdraws _ reachable_sampleRun₁ _ _ _ _ (by decide) (by decide)
      (by decide) (by decide) (by decide)⟩

/-- **Releasing a refilled lease withdraws nothing.** On interfaces of C's shape with every
slot filled, the refill loop of `sampleRun₂` hands the hostname to `B`, whose type may update
nothing; releasing `B` in `sampleRun₃` returns at `update_permitted == 0`, and `B` keeps the
hostname. -/
theorem release_leaves_refilled_target :
    (∀ ifp ∈ [Interface.sample 1 .sampleA, .sample 2 .sampleB, .sample 1 Lease.sampleA.released,
        .sample 2 Lease.sampleB.released], ifp.WellFormed .sample ∧ ¬ifp.HasEmptySlot) ∧
    Reachable .sample (sampleRun₁.calls ++ sampleRun₂.calls) sampleRun₂.info ∧
      UpdateEnv.sample.leaseIsValid Lease.sampleB.released = false ∧
      sampleRun₂.info 1 = Origin.of (.sample 2 Lease.sampleB.released) Lease.sampleB.released ∧
      sampleRun₃.faulted = false ∧ sampleRun₃.calls = [] ∧ sampleRun₃.info 1 = sampleRun₂.info 1 :=
  ⟨by decide, reachable_sampleRun₂, by decide, by decide, by decide, by decide, by decide⟩

/-- **Every update is from a lease that provides its target**, in either loop and over any
run: the refill loop takes its lease from `ni_system_update_find_lease`, which only returns
capable leases. -/
theorem reachable_update_capable {hist : List HandlerCall} {info : ℕ → Origin}
    (h : Reachable E hist info) {t : ℕ} {ifp : Interface} {lease : Lease} {ok : Bool}
    (hc : HandlerCall.update t ifp lease ok ∈ hist) :
    niAddrconfShouldUpdate (niSystemLeaseCapabilities E ifp lease) t :=
  (h.tableInv.callOk _ hc).2.2

theorem reachable_update_capable_sample :
    Reachable .sample (sampleRun₁.calls ++ sampleRun₂.calls) sampleRun₂.info ∧
      HandlerCall.update 1 (.sample 2 .sampleB) .sampleB true ∈ sampleRun₁.calls ++ sampleRun₂.calls ∧
      niAddrconfShouldUpdate (niSystemLeaseCapabilities .sample (.sample 2 .sampleB) .sampleB) 1 :=
  have hc : HandlerCall.update 1 (.sample 2 .sampleB) .sampleB true ∈
      sampleRun₁.calls ++ sampleRun₂.calls := by decide
  ⟨reachable_sampleRun₂, hc, reachable_update_capable _ reachable_sampleRun₂ hc⟩

/-- **First-pass updates respect the update policy.** Every handler call of the first loop
updates a target from the call's own lease, a target its type may update and that the lease
provides. -/
theorem firstPass_calls (ifp : Interface) (lease : Lease) (res : HandlerResults)
    (info : ℕ → Origin) {c : HandlerCall}
    (hc : c ∈ (firstPass E ifp lease res (UpdateState.start info)).calls) :
    ∃ t ok, c = .update t ifp lease ok ∧ niAddrconfShouldUpdate (updatePermitted E lease) t ∧
      niAddrconfShouldUpdate (niSystemLeaseCapabilities E ifp lease) t := by
  have h : AppendsCalls (fun c ↦ ∃ t, c = .update t ifp lease (res.update t) ∧
      niAddrconfShouldUpdate (updatePermitted E lease) t ∧
        niAddrconfShouldUpdate (niSystemLeaseCapabilities E ifp lease) t)
      (UpdateState.start info) (firstPass E ifp lease res (UpdateState.start info)) :=
    AppendsCalls.foldl (fun s u ↦ (firstPassStep_calls E ifp lease _ _ res s u).mono
      fun _ h ↦ ⟨u, h⟩) _ _
  obtain ⟨cs, hcs, hP⟩ := h
  rw [hcs] at hc
  obtain ⟨t, rfl, hp, hm⟩ := hP c (by simpa [UpdateState.start] using hc)
  exact ⟨t, _, rfl, hp, hm⟩

theorem firstPass_calls_sample :
    HandlerCall.update 1 (.sample 1 .sampleA) .sampleA true ∈
        (firstPass .sample (.sample 1 .sampleA) .sampleA .succeed (UpdateState.start fun _ ↦ 0)).calls ∧
      ∃ t ok, HandlerCall.update 1 (.sample 1 .sampleA) .sampleA true =
          .update t (.sample 1 .sampleA) .sampleA ok ∧
        niAddrconfShouldUpdate (updatePermitted .sample .sampleA) t ∧
        niAddrconfShouldUpdate (niSystemLeaseCapabilities .sample (.sample 1 .sampleA) .sampleA) t :=
  have hc : HandlerCall.update 1 (.sample 1 .sampleA) .sampleA true ∈
      (firstPass .sample (.sample 1 .sampleA) .sampleA .succeed
        (UpdateState.start fun _ ↦ 0)).calls := by
    decide
  ⟨hc, firstPass_calls _ _ _ _ _ hc⟩

/-- **The refill loop ignores the update policy.** On interfaces of C's shape with every slot
filled, releasing `A` in `sampleRun₂` configures the hostname from `B`, whose type's configured
mask does not include it. -/
theorem refill_ignores_update_policy :
    (∀ ifp ∈ [Interface.sample 1 .sampleA, .sample 2 .sampleB, .sample 1 Lease.sampleA.released],
      ifp.WellFormed .sample ∧ ¬ifp.HasEmptySlot) ∧
    Reachable .sample (sampleRun₁.calls ++ sampleRun₂.calls) sampleRun₂.info ∧
      HandlerCall.update 1 (.sample 2 .sampleB) .sampleB true ∈ sampleRun₂.calls ∧
      niAddrconfShouldUpdate (UpdateEnv.sample.configUpdateMask Lease.sampleB.type) 1 = false :=
  ⟨by decide, reachable_sampleRun₂, by decide, by decide⟩

end Wicked
