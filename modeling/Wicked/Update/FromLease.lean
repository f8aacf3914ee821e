import Wicked.Update.FindLease
import Mathlib.Data.List.Nodup

/-!
# `ni_system_update_from_lease`

The function runs two loops over the targets `0 … __NI_ADDRCONF_UPDATE_MAX - 1`.

* The **first pass** (lines 296–336) skips targets the lease's type may not update and
  targets owned by another lease. A target this lease owns but no longer provides is
  marked in `clear_mask` and its origin wiped; otherwise the service is updated from the
  lease, and a failing handler marks the target in `clear_mask` and sets `rv = -1`.
* The **refill pass** (lines 342–356) takes every target marked in `clear_mask`, asks
  `ni_system_update_find_lease` for the oldest capable lease anywhere, and restores the
  service when there is none or its handler fails.

Both loops are `List.foldl` over `List.range E.updateMax` of a step function, and every
turn at target `u` is a sequence of `UpdateOp`s at `u` (`updateOps_firstPassStep`,
`updateOps_refillStep`), so it changes target `u` only: its origin, its `clear_mask` bit, and
handler calls for `u` (`UpdateOps.within`). `Within` packages that frame condition once; the
per-target results of `Ownership` are read off it with `foldl_split`. `AppendsCalls` says what a
turn appends to the record of handler calls, and `niSystemUpdateFromLease_update_call` reads off
it which loop made each update, from which lease and with which answer.
-/

namespace Wicked

variable (E : UpdateEnv)

/-- Lines 332–335: update the service from the lease; when that fails, mark the target in
`clear_mask` and set `rv = -1`. -/
def updateOrMark (ok : Bool) (s : UpdateState) (ifp : Interface) (lease : Lease) (t : ℕ) :
    UpdateState :=
  match niSystemUpdateService E ok s ifp lease t with
  | (s', true) => s'
  | (s', false) => { s' with clearMask := niAddrconfSetUpdate s'.clearMask t, rv := -1 }

/-- One turn of the first loop (lines 296–336) at target `t`, for `lease` on `ifp`, the masks
`update_permitted` and `update_mask`, and the handlers answering `res.update`. -/
def firstPassStep (ifp : Interface) (lease : Lease) (permitted updateMask : ℕ)
    (res : HandlerResults) (s : UpdateState) (t : ℕ) : UpdateState :=
  if niAddrconfShouldUpdate permitted t then
    if (s.info t).ifindex ≠ 0 then
      if (s.info t).ifindex ≠ ifp.ifindex ∨ (s.info t).leaseType ≠ lease.type ∨
          (s.info t).leaseFamily ≠ lease.family then s
      else if niAddrconfShouldUpdate updateMask t then updateOrMark E (res.update t) s ifp lease t
      else { s with clearMask := niAddrconfSetUpdate s.clearMask t,
                    info := Function.update s.info t 0 }
    else if niAddrconfShouldUpdate updateMask t then updateOrMark E (res.update t) s ifp lease t
    else s
  else s

/-- One turn of the refill loop (lines 343–356) at target `t`, for the mask `clear_mask` and
the handlers answering `res.refill`. The search for a lease may fault; the process is then
dead and the remaining turns do nothing. -/
def refillStep (nih : List Interface) (res : HandlerResults) (mask : ℕ) (s : UpdateState)
    (t : ℕ) : UpdateState :=
  if s.faulted then s
  else if niAddrconfShouldUpdate mask t then
    match niSystemUpdateFindLease E nih t none with
    | .error _ => { s with faulted := true }
    | .ok none => niSystemRestoreService E s t
    | .ok (some (best, lease)) =>
      match niSystemUpdateService E (res.refill t) s best lease t with
      | (s', true) => s'
      | (s', false) => niSystemRestoreService E s' t
  else s

/-- The state a call starts from: the table as it is, no calls yet, `clear_mask = 0`,
`rv = 0`. -/
def UpdateState.start (info : ℕ → Origin) : UpdateState :=
  ⟨info, [], 0, 0, false⟩

/-- `update_permitted`: the configured mask of the lease's type, cut to the system's
capabilities. -/
def updatePermitted (lease : Lease) : ℕ :=
  E.configUpdateMask lease.type &&& niSystemUpdateCapabilities E

/-- The first loop over all targets. -/
def firstPass (ifp : Interface) (lease : Lease) (res : HandlerResults) (s : UpdateState) :
    UpdateState :=
  (List.range E.updateMax).foldl
    (firstPassStep E ifp lease (updatePermitted E lease) (niSystemLeaseCapabilities E ifp lease) res) s

/-- The refill loop over all targets, for the `clear_mask` the first loop left. -/
def refillPass (nih : List Interface) (res : HandlerResults) (s : UpdateState) : UpdateState :=
  (List.range E.updateMax).foldl (refillStep E nih res s.clearMask) s

/-- `ni_system_update_from_lease(nih, ifp, lease)` on the table `info`, the handlers answering
`res`: the state it leaves. When `faulted` is `false` the call returned, with `rv`. -/
def niSystemUpdateFromLease (nih : List Interface) (ifp : Interface) (lease : Lease)
    (res : HandlerResults) (info : ℕ → Origin) : UpdateState :=
  if updatePermitted E lease = 0 then UpdateState.start info
  else refillPass E nih res (firstPass E ifp lease res (UpdateState.start info))

/-! ### Turns change their own target only -/

/-- `s'` differs from `s` only at the targets in `T`: other origins and `clear_mask` bits
are as they were, and the calls appended are all for targets in `T`. -/
structure Within (T : ℕ → Prop) (s s' : UpdateState) : Prop where
  info_eq : ∀ t, ¬T t → s'.info t = s.info t
  clear_eq : ∀ t, ¬T t →
    niAddrconfShouldUpdate s'.clearMask t = niAddrconfShouldUpdate s.clearMask t
  calls_eq : ∃ new, s'.calls = s.calls ++ new ∧ ∀ c ∈ new, T c.target

namespace Within

variable {T T' : ℕ → Prop} {s s' s'' : UpdateState}

theorem refl (T : ℕ → Prop) (s : UpdateState) : Within T s s :=
  ⟨fun _ _ ↦ rfl, fun _ _ ↦ rfl, [], by simp, by simp⟩

theorem trans (h : Within T s s') (h' : Within T s' s'') : Within T s s'' := by
  obtain ⟨n, hn, hT⟩ := h.calls_eq
  obtain ⟨n', hn', hT'⟩ := h'.calls_eq
  refine ⟨fun t ht ↦ (h'.info_eq t ht).trans (h.info_eq t ht),
    fun t ht ↦ (h'.clear_eq t ht).trans (h.clear_eq t ht), n ++ n',
    by rw [hn', hn, List.append_assoc], ?_⟩
  intro c hc
  rcases List.mem_append.1 hc with hc | hc
  exacts [hT c hc, hT' c hc]

theorem mono (hT : ∀ t, T t → T' t) (h : Within T s s') : Within T' s s' := by
  obtain ⟨n, hn, hc⟩ := h.calls_eq
  exact ⟨fun t ht ↦ h.info_eq t (mt (hT t) ht), fun t ht ↦ h.clear_eq t (mt (hT t) ht),
    n, hn, fun c h' ↦ hT _ (hc c h')⟩

/-- A record of calls is only ever extended. -/
theorem mem_calls (h : Within T s s') {c : HandlerCall} (hc : c ∈ s.calls) : c ∈ s'.calls := by
  obtain ⟨n, hn, -⟩ := h.calls_eq
  rw [hn]
  exact List.mem_append_left _ hc

/-- A call made in between is for a target in `T`. -/
theorem target_mem (h : Within T s s') {c : HandlerCall} (hc : c ∈ s'.calls)
    (hc' : c ∉ s.calls) : T c.target := by
  obtain ⟨n, hn, hT⟩ := h.calls_eq
  rw [hn] at hc
  exact hT c ((List.mem_append.1 hc).resolve_left hc')

end Within

/-! ### Calls appended -/

/-- `s'` extends the record of calls of `s` with calls that satisfy `P`. -/
def AppendsCalls (P : HandlerCall → Prop) (s s' : UpdateState) : Prop :=
  ∃ cs, s'.calls = s.calls ++ cs ∧ ∀ c ∈ cs, P c

namespace AppendsCalls

variable {P Q : HandlerCall → Prop} {s s' s'' : UpdateState}

theorem refl (P : HandlerCall → Prop) (s : UpdateState) : AppendsCalls P s s :=
  ⟨[], by simp, by simp⟩

theorem trans (h : AppendsCalls P s s') (h' : AppendsCalls P s' s'') : AppendsCalls P s s'' := by
  obtain ⟨cs, hcs, hP⟩ := h
  obtain ⟨cs', hcs', hP'⟩ := h'
  exact ⟨cs ++ cs', by rw [hcs', hcs, List.append_assoc], fun c hc ↦
    (List.mem_append.1 hc).elim (hP c) (hP' c)⟩

theorem mono (hPQ : ∀ c, P c → Q c) (h : AppendsCalls P s s') : AppendsCalls Q s s' := by
  obtain ⟨cs, hcs, hP⟩ := h
  exact ⟨cs, hcs, fun c hc ↦ hPQ c (hP c hc)⟩

/-- A loop whose every turn appends calls satisfying `P` appends only such calls. -/
theorem foldl {f : UpdateState → ℕ → UpdateState} (hf : ∀ s u, AppendsCalls P s (f s u))
    (l : List ℕ) (s : UpdateState) : AppendsCalls P s (l.foldl f s) :=
  List.foldlRecOn l f s (refl P s) fun _ h u _ ↦ h.trans (hf _ u)

end AppendsCalls

/-! ### What a turn can do

Every turn of either loop is a sequence of `UpdateOp`s at its own target. Invariants of the
table are proved once per operation, and the frame condition `Within` follows from the same
fact. -/

/-- The operations of the update code, each at one target `t`: a handler update that
succeeds or fails, always from a lease that provides `t`; a restore; wiping the origin of
`t` into `clear_mask`; marking a failed `t` with `rv = -1`; dying on a `NULL` read. Handlers
are only called for targets that have one. -/
inductive UpdateOp (t : ℕ) : UpdateState → UpdateState → Prop
  | update {s : UpdateState} {ifp : Interface} {lease : Lease} :
      niUpdateHandlers E t → niAddrconfShouldUpdate (niSystemLeaseCapabilities E ifp lease) t →
      UpdateOp t s { s with info := Function.update s.info t (Origin.of ifp lease),
                            calls := s.calls ++ [.update t ifp lease true] }
  | fail {s : UpdateState} {ifp : Interface} {lease : Lease} :
      niUpdateHandlers E t → niAddrconfShouldUpdate (niSystemLeaseCapabilities E ifp lease) t →
      UpdateOp t s { s with calls := s.calls ++ [.update t ifp lease false] }
  | restore {s : UpdateState} :
      niUpdateHandlers E t → UpdateOp t s { s with calls := s.calls ++ [.restore t] }
  | clear {s : UpdateState} :
      UpdateOp t s { s with clearMask := niAddrconfSetUpdate s.clearMask t,
                            info := Function.update s.info t 0 }
  | mark {s : UpdateState} :
      UpdateOp t s { s with clearMask := niAddrconfSetUpdate s.clearMask t, rv := -1 }
  | fault {s : UpdateState} : UpdateOp t s { s with faulted := true }

/-- Any number of operations at target `t`. -/
abbrev UpdateOps (t : ℕ) : UpdateState → UpdateState → Prop :=
  Relation.ReflTransGen (UpdateOp E t)

variable {E}

theorem UpdateOp.within {t : ℕ} {s s' : UpdateState} (h : UpdateOp E t s s') :
    Within (· = t) s s' := by
  cases h with
  | update => exact ⟨fun u hu ↦ Function.update_noteq hu _ _, fun _ _ ↦ rfl, _, rfl,
      by simp [HandlerCall.target]⟩
  | fail | restore =>
    exact ⟨fun _ _ ↦ rfl, fun _ _ ↦ rfl, _, rfl, by simp [HandlerCall.target]⟩
  | clear => exact ⟨fun u hu ↦ Function.update_noteq hu _ _, fun u hu ↦ by simp [Ne.symm hu],
      [], by simp, by simp⟩
  | mark => exact ⟨fun _ _ ↦ rfl, fun u hu ↦ by simp [Ne.symm hu], [], by simp, by simp⟩
  | fault => exact ⟨fun _ _ ↦ rfl, fun _ _ ↦ rfl, [], by simp, by simp⟩

theorem UpdateOps.within {t : ℕ} {s s' : UpdateState} (h : UpdateOps E t s s') :
    Within (· = t) s s' := by
  induction h with
  | refl => exact Within.refl _ s
  | tail _ h ih => exact ih.trans h.within

variable (E)

theorem updateOps_niSystemUpdateService (ok : Bool) (s : UpdateState) {ifp : Interface}
    {lease : Lease} {t : ℕ}
    (hcap : niAddrconfShouldUpdate (niSystemLeaseCapabilities E ifp lease) t) :
    UpdateOps E t s (niSystemUpdateService E ok s ifp lease t).1 := by
  unfold niSystemUpdateService
  split_ifs with hh hok
  · exact .single (.update hh hcap)
  · exact .single (.fail hh hcap)
  · exact .refl

theorem updateOps_niSystemRestoreService (s : UpdateState) (t : ℕ) :
    UpdateOps E t s (niSystemRestoreService E s t) := by
  unfold niSystemRestoreService
  split_ifs with hh
  · exact .single (.restore hh)
  · exact .refl

theorem updateOps_updateOrMark (ok : Bool) (s : UpdateState) {ifp : Interface} {lease : Lease}
    {t : ℕ} (hcap : niAddrconfShouldUpdate (niSystemLeaseCapabilities E ifp lease) t) :
    UpdateOps E t s (updateOrMark E ok s ifp lease t) := by
  have h := updateOps_niSystemUpdateService E ok s hcap
  unfold updateOrMark
  rcases hs : niSystemUpdateService E ok s ifp lease t with ⟨s', _ | _⟩ <;> rw [hs] at h
  · exact h.tail .mark
  · exact h

/-- Lines 332–335 call the handler at most once, to update from the lease. -/
theorem updateOrMark_calls (ok : Bool) (s : UpdateState) (ifp : Interface) (lease : Lease)
    (t : ℕ) : AppendsCalls (· = .update t ifp lease ok) s (updateOrMark E ok s ifp lease t) := by
  cases ok <;> by_cases h : niUpdateHandlers E t <;>
    simp [AppendsCalls, updateOrMark, niSystemUpdateService, h]

/-- What one turn of the first loop can do: nothing, wipe the target and mark it in
`clear_mask`, or, for a target in both masks, update it from the lease. -/
theorem firstPassStep_cases (ifp : Interface) (lease : Lease) (permitted updateMask : ℕ)
    (res : HandlerResults) (s : UpdateState) (t : ℕ) :
    firstPassStep E ifp lease permitted updateMask res s t = s ∨
    firstPassStep E ifp lease permitted updateMask res s t =
      { s with clearMask := niAddrconfSetUpdate s.clearMask t,
               info := Function.update s.info t 0 } ∨
    niAddrconfShouldUpdate permitted t ∧ niAddrconfShouldUpdate updateMask t ∧
      firstPassStep E ifp lease permitted updateMask res s t =
        updateOrMark E (res.update t) s ifp lease t := by
  generalize hr : firstPassStep E ifp lease permitted updateMask res s t = r
  unfold firstPassStep at hr
  split_ifs at hr with hp _ _ hm hm <;> subst hr
  · exact .inl rfl
  · exact .inr (.inr ⟨hp, hm, rfl⟩)
  · exact .inr (.inl rfl)
  · exact .inr (.inr ⟨hp, hm, rfl⟩)
  · exact .inl rfl
  · exact .inl rfl

theorem updateOps_firstPassStep (ifp : Interface) (lease : Lease) (permitted : ℕ)
    (res : HandlerResults) (s : UpdateState) (t : ℕ) :
    UpdateOps E t s
      (firstPassStep E ifp lease permitted (niSystemLeaseCapabilities E ifp lease) res s t) := by
  rcases firstPassStep_cases E ifp lease permitted _ res s t with h | h | ⟨-, hcap, h⟩
  · rw [h]
  · rw [h]
    exact .single .clear
  · rw [h]
    exact updateOps_updateOrMark E _ s hcap

theorem updateOps_refillStep (nih : List Interface) (res : HandlerResults) (mask : ℕ)
    (s : UpdateState) (t : ℕ) : UpdateOps E t s (refillStep E nih res mask s t) := by
  unfold refillStep
  split_ifs
  · exact .refl
  · split
    · exact .single .fault
    · exact updateOps_niSystemRestoreService E s t
    · next best lease hfind =>
      have h := updateOps_niSystemUpdateService E (res.refill t) s
        (niSystemUpdateFindLease_capable E hfind)
      rcases hs : niSystemUpdateService E (res.refill t) s best lease t with ⟨s', _ | _⟩ <;>
        rw [hs] at h
      · exact h.trans (updateOps_niSystemRestoreService E _ t)
      · exact h
  · exact .refl

/-- A loop whose turns each change their own target changes only the targets it visits. -/
theorem within_foldl {f : UpdateState → ℕ → UpdateState}
    (hf : ∀ s u, Within (· = u) s (f s u))
    (l : List ℕ) (s : UpdateState) : Within (· ∈ l) s (l.foldl f s) :=
  List.foldlRecOn l f s (Within.refl _ s) fun _ h u hu ↦
    h.trans ((hf _ u).mono fun x (ht : x = u) ↦ ht ▸ hu)

/-- The loop over all targets, cut at target `t`: the turns before it and after it are at
other targets. -/
theorem foldl_split {f : UpdateState → ℕ → UpdateState} {n t : ℕ} (ht : t < n)
    (s : UpdateState) : ∃ pre post : List ℕ, t ∉ pre ∧ t ∉ post ∧
      (List.range n).foldl f s = post.foldl f (f (pre.foldl f s) t) := by
  obtain ⟨pre, post, h⟩ := List.append_of_mem (List.mem_range.2 ht)
  have hnd : t ∉ pre ++ post := (List.nodup_middle.1 (h ▸ List.nodup_range n)).not_mem
  rw [List.mem_append, not_or] at hnd
  exact ⟨pre, post, hnd.1, hnd.2, by rw [h, List.foldl_append, List.foldl_cons]⟩

/-- **Target `t` in a loop over all targets.** What the loop leaves at `t` is what the turn
at `t` leaves, from a state `s'` that agrees with the start at `t`. -/
theorem foldl_at {f : UpdateState → ℕ → UpdateState} (hf : ∀ s u, Within (· = u) s (f s u))
    {n t : ℕ} (ht : t < n) (s : UpdateState) : ∃ s', Within (· ≠ t) s s' ∧
      Within (· ≠ t) (f s' t) ((List.range n).foldl f s) := by
  obtain ⟨pre, post, hpre, hpost, h⟩ := foldl_split (f := f) ht s
  refine ⟨pre.foldl f s, ?_, h ▸ ?_⟩ <;>
    exact (within_foldl hf _ _).mono fun u hu h' ↦ by subst h'; contradiction

/-- A loop whose turn at `t` does nothing, from any state that agrees with the start at
`t`, leaves `t` alone. -/
theorem foldl_within_ne {f : UpdateState → ℕ → UpdateState}
    (hf : ∀ s u, Within (· = u) s (f s u))
    (n : ℕ) {t : ℕ} (s : UpdateState) (hfix : ∀ s', Within (· ≠ t) s s' → f s' t = s') :
    Within (· ≠ t) s ((List.range n).foldl f s) := by
  by_cases ht : t < n
  · obtain ⟨s', h₁, h₂⟩ := foldl_at hf ht s
    rw [hfix s' h₁] at h₂
    exact h₁.trans h₂
  · exact (within_foldl hf _ s).mono fun u hu h' ↦ ht (h' ▸ List.mem_range.1 hu)

/-! ### The first pass at one target -/

section FirstPass

variable {ifp : Interface} {lease : Lease} {permitted : ℕ} (updateMask : ℕ)
  {res : HandlerResults} {s : UpdateState} {t : ℕ}

theorem firstPassStep_of_not_permitted (h : niAddrconfShouldUpdate permitted t = false) :
    firstPassStep E ifp lease permitted updateMask res s t = s := by
  simp [firstPassStep, h]

/-- A target owned by another lease is left alone. -/
theorem firstPassStep_of_foreign (h₁ : (s.info t).ifindex ≠ 0)
    (h₂ : s.info t ≠ Origin.of ifp lease) :
    firstPassStep E ifp lease permitted updateMask res s t = s := by
  rw [Ne, Origin.eq_of_iff, not_and_or, not_and_or] at h₂
  simp [firstPassStep, h₁, h₂]

/-- A target this lease owns but no longer provides is wiped and marked in `clear_mask`. -/
theorem firstPassStep_of_withdrawn (hp : niAddrconfShouldUpdate permitted t)
    (h₁ : s.info t = Origin.of ifp lease) (h₀ : ifp.ifindex ≠ 0)
    (hm : niAddrconfShouldUpdate updateMask t = false) :
    firstPassStep E ifp lease permitted updateMask res s t =
      { s with clearMask := niAddrconfSetUpdate s.clearMask t,
               info := Function.update s.info t 0 } := by
  simp [firstPassStep, hp, h₁, h₀, hm, Origin.of]

end FirstPass

/-! ### The calls a turn makes -/

/-- The first loop calls a handler only to update a target its lease's type may update and the
lease provides, from that lease, the handler answering `res.update`. -/
theorem firstPassStep_calls (ifp : Interface) (lease : Lease) (permitted updateMask : ℕ)
    (res : HandlerResults) (s : UpdateState) (t : ℕ) :
    AppendsCalls (fun c ↦ c = .update t ifp lease (res.update t) ∧
        niAddrconfShouldUpdate permitted t ∧ niAddrconfShouldUpdate updateMask t) s
      (firstPassStep E ifp lease permitted updateMask res s t) := by
  rcases firstPassStep_cases E ifp lease permitted updateMask res s t with
    h | h | ⟨hp, hm, h⟩ <;> rw [h]
  · exact .refl _ s
  · exact ⟨[], by simp, by simp⟩
  · exact (updateOrMark_calls E _ s ifp lease t).mono fun _ hc ↦ ⟨hc, hp, hm⟩

theorem updateOrMark_faulted (ok : Bool) (s : UpdateState) (ifp : Interface) (lease : Lease)
    (t : ℕ) : (updateOrMark E ok s ifp lease t).faulted = s.faulted := by
  unfold updateOrMark niSystemUpdateService
  split_ifs <;> rfl

theorem firstPassStep_faulted (ifp : Interface) (lease : Lease) (permitted updateMask : ℕ)
    (res : HandlerResults) (s : UpdateState) (t : ℕ) :
    (firstPassStep E ifp lease permitted updateMask res s t).faulted = s.faulted := by
  rcases firstPassStep_cases E ifp lease permitted updateMask res s t with h | h | ⟨-, -, h⟩ <;>
    rw [h]
  exact updateOrMark_faulted E _ s ifp lease t

theorem refillStep_of_faulted {nih : List Interface} {res : HandlerResults} {mask : ℕ}
    {s : UpdateState} (h : s.faulted) (t : ℕ) : refillStep E nih res mask s t = s := by
  simp [refillStep, h]

/-- A target not marked in `clear_mask` is skipped by the refill loop. -/
theorem refillStep_of_not_mem {nih : List Interface} {res : HandlerResults} {mask : ℕ}
    {t : ℕ} (h : niAddrconfShouldUpdate mask t = false) (s : UpdateState) :
    refillStep E nih res mask s t = s := by
  simp [refillStep, h]

/-- The refill turn at a target marked in `clear_mask` that has a handler kills the process,
restores the service, or configures it from the lease the search picks. -/
theorem refillStep_of_mem {nih : List Interface} {res : HandlerResults} {mask : ℕ}
    {s : UpdateState} {t : ℕ} (hm : niAddrconfShouldUpdate mask t) (hh : niUpdateHandlers E t)
    (hf : s.faulted = false) :
    (refillStep E nih res mask s t).faulted ∨
      HandlerCall.restore t ∈ (refillStep E nih res mask s t).calls ∨
      ∃ best lease, niSystemUpdateFindLease E nih t none = .ok (some (best, lease)) ∧
        HandlerCall.update t best lease true ∈ (refillStep E nih res mask s t).calls := by
  unfold refillStep
  simp only [hf, hm, Bool.false_eq_true, if_false, if_true]
  split
  · exact .inl rfl
  · simp [niSystemRestoreService, hh]
  · next best lease hfind =>
    cases hok : res.refill t
    · simp [niSystemUpdateService, niSystemRestoreService, hh, hok]
    · exact .inr (.inr ⟨best, lease, hfind, by simp [niSystemUpdateService, hh, hok]⟩)

/-- A dead process stays dead through the rest of the refill loop. -/
theorem foldl_refillStep_of_faulted {nih : List Interface} {res : HandlerResults} {mask : ℕ}
    (l : List ℕ) {s : UpdateState} (h : s.faulted) :
    l.foldl (refillStep E nih res mask) s = s := by
  induction l with
  | nil => rfl
  | cons t l ih => rw [List.foldl_cons, refillStep_of_faulted E h, ih]

/-! ### A whole call -/

/-- A call changes only the targets its loops visit. -/
theorem within_niSystemUpdateFromLease (nih : List Interface) (ifp : Interface) (lease : Lease)
    (res : HandlerResults) (info : ℕ → Origin) :
    Within (· < E.updateMax) (UpdateState.start info)
      (niSystemUpdateFromLease E nih ifp lease res info) := by
  unfold niSystemUpdateFromLease refillPass firstPass
  split_ifs
  · exact Within.refl _ _
  · refine ((within_foldl (fun s u ↦ (updateOps_firstPassStep E ifp lease _ res s u).within)
      _ _).trans
      (within_foldl (fun s u ↦ (updateOps_refillStep E nih res _ s u).within) _ _)).mono ?_
    exact fun _ h ↦ List.mem_range.1 h

/-- Some operation, at a target the loops visit. -/
def AnyOp (s s' : UpdateState) : Prop :=
  ∃ t < E.updateMax, UpdateOp E t s s'

theorem anyOps_foldl {f : UpdateState → ℕ → UpdateState}
    (hf : ∀ s u, UpdateOps E u s (f s u))
    (s : UpdateState) : Relation.ReflTransGen (AnyOp E) s ((List.range E.updateMax).foldl f s) :=
  List.foldlRecOn _ f s .refl fun _ h u hu ↦
    h.trans ((hf _ u).mono fun _ _ h' ↦ ⟨u, List.mem_range.1 hu, h'⟩)

/-- **A call is a sequence of operations**, so what every operation keeps, a call keeps. -/
theorem anyOps_niSystemUpdateFromLease (nih : List Interface) (ifp : Interface) (lease : Lease)
    (res : HandlerResults) (info : ℕ → Origin) :
    Relation.ReflTransGen (AnyOp E) (UpdateState.start info)
      (niSystemUpdateFromLease E nih ifp lease res info) := by
  unfold niSystemUpdateFromLease refillPass firstPass
  split_ifs
  · exact .refl
  · exact (anyOps_foldl E (updateOps_firstPassStep E ifp lease _ res) _).trans
      (anyOps_foldl E (updateOps_refillStep E nih res _) _)

/-- `A` is acquired: it configures the hostname and the resolver. -/
def sampleRun₁ : UpdateState :=
  niSystemUpdateFromLease .sample [.sample 1 .sampleA, .sample 2 .sampleB] (.sample 1 .sampleA)
    .sampleA .succeed fun _ ↦ 0

/-- `A` is released: the refill loop hands the hostname to `B` and restores the resolver. -/
def sampleRun₂ : UpdateState :=
  niSystemUpdateFromLease .sample [.sample 1 Lease.sampleA.released, .sample 2 .sampleB]
    (.sample 1 Lease.sampleA.released) Lease.sampleA.released .succeed sampleRun₁.info

/-- `B` is released: its type may update nothing, so the call returns at once. -/
def sampleRun₃ : UpdateState :=
  niSystemUpdateFromLease .sample
    [.sample 1 Lease.sampleA.released, .sample 2 Lease.sampleB.released]
    (.sample 2 Lease.sampleB.released) Lease.sampleB.released .succeed sampleRun₂.info

end Wicked
