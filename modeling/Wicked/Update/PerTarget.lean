import Wicked.Update.FromLease

/-!
# One target at a time

`ni_system_update_from_lease` (`src/include/wicked/refcount.h`, lines 281-364) runs two loops
over all targets, linked through the bits of `clear_mask`. Every turn of either loop changes its
own target only, so a call is the same as handling each target on its own. `targetUpdate` says
what a call does to one target, and `niSystemUpdateFromLease_refines_targetUpdate` proves that
the two loops compute it at every target and die exactly when some target's search for a lease
faults.

* **The first loop at one target** is `firstPassAt`: the origin its turn leaves and whether it
  marks the target in `clear_mask`. The source compares the origin with the lease field by field
  (lines 309-311); here that is `o ≠ Origin.of ifp lease`.
* **The refill loop at one target** is `refillAt`, which is `none` when
  `ni_system_update_find_lease` dies on a `NULL` slot. Whether it dies depends on the target and
  the interfaces, never on the table.

Two results about sequences of calls follow from the refinement, one target at a time.

* `niSystemUpdateFromLease_idempotent`: a second call with the same lease, on the table the first
  call left and with the handlers answering as before, returns as well and leaves the table as
  it is. A lease reported twice moves no origin that the first report did not.
* `niSystemUpdateFromLease_comm`: calls for two leases whose types may update disjoint sets of
  targets give the same table in either order.
-/

namespace Wicked

variable (E : UpdateEnv)

section Target

variable (nih : List Interface) (ifp : Interface) (lease : Lease) (res : HandlerResults)

/-- Lines 332-335 at target `t` whose origin is `o`, the handler answering `ok`: the origin moves
to the lease's when the handler succeeds, a failing handler marks the target in `clear_mask`, and
a target without a handler is left as it is. -/
def updateOrMarkAt (ok : Bool) (t : ℕ) (o : Origin) : Origin × Bool :=
  if niUpdateHandlers E t then
    if ok then (Origin.of ifp lease, false) else (o, true)
  else (o, false)

/-- What the turn of the first loop (lines 296-336) at target `t` does to its origin `o`, for
`update_permitted = permitted` and `update_mask = updateMask`: the origin it leaves, and whether
it marks `t` in `clear_mask`. -/
def firstPassAt (permitted updateMask t : ℕ) (o : Origin) : Origin × Bool :=
  if niAddrconfShouldUpdate permitted t then
    if o.ifindex ≠ 0 then
      if o ≠ Origin.of ifp lease then (o, false)
      else if niAddrconfShouldUpdate updateMask t then updateOrMarkAt E ifp lease (res.update t) t o
      else (0, true)
    else if niAddrconfShouldUpdate updateMask t then updateOrMarkAt E ifp lease (res.update t) t o
    else (o, false)
  else (o, false)

/-- What the turn of the refill loop (lines 343-356) at a target `t` marked in `clear_mask` does
to its origin `o`: configure it from the lease the search picks when the handler succeeds, and
keep `o` otherwise. `none` when the search dies. -/
def refillAt (t : ℕ) (o : Origin) : Option Origin :=
  match niSystemUpdateFindLease E nih t none with
  | .error _ => none
  | .ok none => some o
  | .ok (some (best, l)) =>
    some (if niUpdateHandlers E t && res.refill t then Origin.of best l else o)

/-- **What one call does to one target.** The origin target `t` ends with when it started with
`o`, or `none` when the call dies. The loops do not visit targets from `__NI_ADDRCONF_UPDATE_MAX`
on, and without any permitted target the call returns at once, which leaves every origin as
`firstPassAt` does. -/
def targetUpdate (t : ℕ) (o : Origin) : Option Origin :=
  if t < E.updateMax then
    match firstPassAt E ifp lease res (updatePermitted E lease)
        (niSystemLeaseCapabilities E ifp lease) t o with
    | (o', true) => refillAt E nih res t o'
    | (o', false) => some o'
  else some o

/-! ### The refill turn -/

variable {E nih res}

theorem refillAt_eq_none_iff {t : ℕ} {o : Origin} :
    refillAt E nih res t o = none ↔ niSystemUpdateFindLease E nih t none = .error .nullLease := by
  unfold refillAt
  generalize niSystemUpdateFindLease E nih t none = r
  rcases r with ⟨⟩ | _ | _ <;> simp

/-- A refilled origin is refilled to itself: the search is the same, and its outcome either
replaces the origin or keeps it. -/
theorem refillAt_idem {t : ℕ} {o o' : Origin} (h : refillAt E nih res t o = some o') :
    refillAt E nih res t o' = some o' := by
  unfold refillAt at h ⊢
  generalize niSystemUpdateFindLease E nih t none = r at h ⊢
  rcases r with _ | _ | ⟨best, l⟩
  · cases h
  · rfl
  · rcases Option.some.inj h
    split_ifs <;> rfl

@[simp]
theorem niSystemUpdateService_faulted (ok : Bool) (s : UpdateState) (ifp : Interface)
    (lease : Lease) (t : ℕ) : (niSystemUpdateService E ok s ifp lease t).1.faulted = s.faulted := by
  unfold niSystemUpdateService
  split_ifs <;> rfl

@[simp]
theorem niSystemRestoreService_faulted (s : UpdateState) (t : ℕ) :
    (niSystemRestoreService E s t).faulted = s.faulted := by
  unfold niSystemRestoreService
  split_ifs <;> rfl

/-- A refill turn kills the process exactly at a marked target whose search faults. -/
theorem refillStep_faulted_iff {mask : ℕ} {s : UpdateState} {t : ℕ} :
    (refillStep E nih res mask s t).faulted = true ↔ s.faulted = true ∨
      niAddrconfShouldUpdate mask t ∧
        niSystemUpdateFindLease E nih t none = .error .nullLease := by
  unfold refillStep
  cases hs : s.faulted
  · cases hm : niAddrconfShouldUpdate mask t
    · simp [hs]
    · generalize niSystemUpdateFindLease E nih t none = r
      rcases r with ⟨⟩ | _ | ⟨best, l⟩
      · simp
      · simp [hs]
      · have hf := niSystemUpdateService_faulted (E := E) (res.refill t) s best l t
        dsimp only
        generalize niSystemUpdateService E (res.refill t) s best l t = p at hf ⊢
        rcases p with ⟨s', _ | _⟩ <;> simp_all
  · simp [hs]

/-- **A refill loop dies exactly at a marked target whose search faults**, whatever the table. -/
theorem foldl_refillStep_faulted_iff {mask : ℕ} (l : List ℕ) (s : UpdateState) :
    (l.foldl (refillStep E nih res mask) s).faulted = true ↔ s.faulted = true ∨
      ∃ t ∈ l, niAddrconfShouldUpdate mask t ∧
        niSystemUpdateFindLease E nih t none = .error .nullLease := by
  induction l generalizing s with
  | nil => simp
  | cons t l ih =>
    rw [List.foldl_cons, ih, refillStep_faulted_iff]
    simp only [List.mem_cons, exists_eq_or_imp, or_assoc]

/-- The refill turn at a marked target, when the process survives it, leaves what `refillAt`
says. -/
theorem refillStep_at {mask : ℕ} {s : UpdateState} {t : ℕ} (hs : s.faulted = false)
    (hm : niAddrconfShouldUpdate mask t) (hf : (refillStep E nih res mask s t).faulted = false) :
    refillAt E nih res t (s.info t) = some ((refillStep E nih res mask s t).info t) := by
  unfold refillStep at hf ⊢
  unfold refillAt
  simp only [hs, hm, Bool.false_eq_true, if_false, if_true] at hf ⊢
  generalize niSystemUpdateFindLease E nih t none = r at hf ⊢
  rcases r with ⟨⟩ | _ | ⟨best, l⟩
  · cases hf
  · simp [niSystemRestoreService]
    split_ifs <;> rfl
  · cases hh : niUpdateHandlers E t <;> cases hr : res.refill t <;>
      simp [niSystemUpdateService, niSystemRestoreService, hh, hr]

/-! ### The first turn -/

variable {ifp lease}

/-- The source's field-by-field test of an origin against a lease (lines 309-311). -/
theorem Origin.ne_of_iff (o : Origin) :
    (o.ifindex ≠ ifp.ifindex ∨ o.leaseType ≠ lease.type ∨ o.leaseFamily ≠ lease.family) ↔
      o ≠ Origin.of ifp lease := by
  simp only [Ne, Origin.eq_of_iff, not_and_or]

/-- Lines 332-335 at their own target, not yet marked: the origin moves to the lease's when the
handler succeeds, and a failing handler marks the target. -/
theorem updateOrMark_at (ok : Bool) {s : UpdateState} {t : ℕ}
    (hb : niAddrconfShouldUpdate s.clearMask t = false) :
    ((updateOrMark E ok s ifp lease t).info t,
        niAddrconfShouldUpdate (updateOrMark E ok s ifp lease t).clearMask t) =
      updateOrMarkAt E ifp lease ok t (s.info t) := by
  unfold updateOrMark niSystemUpdateService updateOrMarkAt
  split_ifs <;> simp [hb]

/-- Outside `update_permitted`, or for a target another lease owns, the turn does nothing. -/
theorem firstPassAt_of_not_own {permitted updateMask t : ℕ} {o : Origin}
    (h : ¬(niAddrconfShouldUpdate permitted t ∧ (o.ifindex = 0 ∨ o = Origin.of ifp lease))) :
    firstPassAt E ifp lease res permitted updateMask t o = (o, false) := by
  unfold firstPassAt
  by_cases hp : niAddrconfShouldUpdate permitted t
  · obtain ⟨h₀, hne⟩ := not_or.1 fun h' ↦ h ⟨hp, h'⟩
    rw [if_pos hp, if_pos h₀, if_pos hne]
  · rw [if_neg hp]

/-- A permitted target the lease provides and no other lease owns is updated from the lease. -/
theorem firstPassAt_of_update {permitted updateMask t : ℕ} {o : Origin}
    (hp : niAddrconfShouldUpdate permitted t) (ho : o.ifindex = 0 ∨ o = Origin.of ifp lease)
    (hm : niAddrconfShouldUpdate updateMask t) :
    firstPassAt E ifp lease res permitted updateMask t o =
      updateOrMarkAt E ifp lease (res.update t) t o := by
  unfold firstPassAt
  rw [if_pos hp]
  by_cases h₀ : o.ifindex = 0
  · rw [if_neg (not_not.2 h₀), if_pos hm]
  · rw [if_pos h₀, if_neg (not_not.2 (ho.resolve_left h₀)), if_pos hm]

/-- A target the lease owns but no longer provides is wiped and marked. -/
theorem firstPassAt_of_withdrawn {permitted updateMask t : ℕ}
    (hp : niAddrconfShouldUpdate permitted t) (h₀ : ifp.ifindex ≠ 0)
    (hm : niAddrconfShouldUpdate updateMask t = false) :
    firstPassAt E ifp lease res permitted updateMask t (Origin.of ifp lease) = (0, true) := by
  simp [firstPassAt, hp, h₀, hm, Origin.of]

/-- An unowned target the lease does not provide is left alone. -/
theorem firstPassAt_of_unowned {permitted updateMask t : ℕ} {o : Origin} (h₀ : o.ifindex = 0)
    (hm : niAddrconfShouldUpdate updateMask t = false) :
    firstPassAt E ifp lease res permitted updateMask t o = (o, false) := by
  simp [firstPassAt, h₀, hm]

/-- A permitted target the lease provides and no other lease owns goes through lines 332-335. -/
theorem firstPassStep_of_update {permitted updateMask : ℕ} {s : UpdateState} {t : ℕ}
    (hp : niAddrconfShouldUpdate permitted t)
    (ho : (s.info t).ifindex = 0 ∨ s.info t = Origin.of ifp lease)
    (hm : niAddrconfShouldUpdate updateMask t) :
    firstPassStep E ifp lease permitted updateMask res s t =
      updateOrMark E (res.update t) s ifp lease t := by
  unfold firstPassStep
  rw [if_pos hp]
  by_cases h₀ : (s.info t).ifindex = 0
  · rw [if_neg (not_not.2 h₀), if_pos hm]
  · rw [if_pos h₀, if_neg ((Origin.ne_of_iff _).not.2 (not_not.2 (ho.resolve_left h₀))), if_pos hm]

/-- An unowned target the lease does not provide is skipped. -/
theorem firstPassStep_of_unowned {permitted updateMask : ℕ} {s : UpdateState} {t : ℕ}
    (h₀ : (s.info t).ifindex = 0) (hm : niAddrconfShouldUpdate updateMask t = false) :
    firstPassStep E ifp lease permitted updateMask res s t = s := by
  simp [firstPassStep, h₀, hm]

/-- The turn of the first loop at a target not yet marked in `clear_mask` leaves the origin and
the mark `firstPassAt` says. -/
theorem firstPassStep_at (permitted updateMask : ℕ) {s : UpdateState} {t : ℕ}
    (hb : niAddrconfShouldUpdate s.clearMask t = false) :
    ((firstPassStep E ifp lease permitted updateMask res s t).info t,
        niAddrconfShouldUpdate (firstPassStep E ifp lease permitted updateMask res s t).clearMask t) =
      firstPassAt E ifp lease res permitted updateMask t (s.info t) := by
  by_cases hown : niAddrconfShouldUpdate permitted t ∧
      ((s.info t).ifindex = 0 ∨ s.info t = Origin.of ifp lease)
  swap
  · rw [firstPassAt_of_not_own hown]
    by_cases hp : niAddrconfShouldUpdate permitted t
    · obtain ⟨h₀, hne⟩ := not_or.1 fun h' ↦ hown ⟨hp, h'⟩
      rw [firstPassStep_of_foreign E _ h₀ hne, hb]
    · rw [firstPassStep_of_not_permitted E _ (Bool.eq_false_iff.2 hp), hb]
  obtain ⟨hp, ho⟩ := hown
  by_cases hm : niAddrconfShouldUpdate updateMask t
  · rw [firstPassStep_of_update hp ho hm, firstPassAt_of_update hp ho hm, updateOrMark_at _ hb]
  rw [Bool.not_eq_true] at hm
  by_cases h₀ : (s.info t).ifindex = 0
  · rw [firstPassStep_of_unowned h₀ hm, firstPassAt_of_unowned h₀ hm, hb]
  have hmine := ho.resolve_left h₀
  rw [hmine] at h₀
  rw [firstPassStep_of_withdrawn E _ hp hmine h₀ hm, hmine, firstPassAt_of_withdrawn hp h₀ hm]
  simp

/-! ### A whole call, target by target -/

@[simp]
theorem firstPass_faulted (s : UpdateState) :
    (firstPass E ifp lease res s).faulted = s.faulted := by
  unfold firstPass
  generalize List.range E.updateMax = l
  induction l generalizing s with
  | nil => rfl
  | cons u l ih => rw [List.foldl_cons, ih, firstPassStep_faulted]

/-- The first loop leaves at each target it visits the origin and the `clear_mask` bit that
`firstPassAt` gives for the target's origin in the table. -/
theorem firstPass_at (info : ℕ → Origin) {t : ℕ} (ht : t < E.updateMax) :
    ((firstPass E ifp lease res (UpdateState.start info)).info t,
        niAddrconfShouldUpdate (firstPass E ifp lease res (UpdateState.start info)).clearMask t) =
      firstPassAt E ifp lease res (updatePermitted E lease) (niSystemLeaseCapabilities E ifp lease)
        t (info t) := by
  obtain ⟨s', h₁, h₂⟩ := foldl_at
    (fun s u ↦ (updateOps_firstPassStep E ifp lease (updatePermitted E lease) res s u).within) ht
    (UpdateState.start info)
  have hb : niAddrconfShouldUpdate s'.clearMask t = false := by
    rw [h₁.clear_eq t (not_not.2 rfl)]
    exact niAddrconfShouldUpdate_zero t
  rw [firstPass, h₂.info_eq t (not_not.2 rfl), h₂.clear_eq t (not_not.2 rfl),
    firstPassStep_at _ _ hb, h₁.info_eq t (not_not.2 rfl)]
  rfl

theorem targetUpdate_eq_none_iff {t : ℕ} {o : Origin} :
    targetUpdate E nih ifp lease res t o = none ↔ t < E.updateMax ∧
      (firstPassAt E ifp lease res (updatePermitted E lease)
        (niSystemLeaseCapabilities E ifp lease) t o).2 ∧
      niSystemUpdateFindLease E nih t none = .error .nullLease := by
  unfold targetUpdate
  split_ifs with ht
  · rcases firstPassAt E ifp lease res _ _ t o with ⟨o', _ | _⟩ <;> simp [ht, refillAt_eq_none_iff]
  · simp [ht]

/-- **A call dies exactly when some target needs a refill and its search faults.** -/
theorem niSystemUpdateFromLease_faulted_iff (info : ℕ → Origin) :
    (niSystemUpdateFromLease E nih ifp lease res info).faulted = true ↔
      ∃ t, targetUpdate E nih ifp lease res t (info t) = none := by
  simp only [targetUpdate_eq_none_iff]
  unfold niSystemUpdateFromLease
  split_ifs with hp0
  · simp [UpdateState.start, firstPassAt_of_not_own, hp0]
  rw [refillPass, foldl_refillStep_faulted_iff, firstPass_faulted]
  simp only [UpdateState.start, Bool.false_eq_true, false_or, List.mem_range]
  exact exists_congr fun t ↦ and_congr_right fun ht ↦ by rw [← firstPass_at info ht]; rfl

/-- **A call that returns leaves at every target what `targetUpdate` says.** -/
theorem niSystemUpdateFromLease_info (info : ℕ → Origin)
    (h : (niSystemUpdateFromLease E nih ifp lease res info).faulted = false) (t : ℕ) :
    targetUpdate E nih ifp lease res t (info t) =
      some ((niSystemUpdateFromLease E nih ifp lease res info).info t) := by
  by_cases ht : t < E.updateMax
  swap
  · rw [(within_niSystemUpdateFromLease E nih ifp lease res info).info_eq t ht]
    simp [targetUpdate, ht, UpdateState.start]
  unfold niSystemUpdateFromLease at h ⊢
  split_ifs at h ⊢ with hp0
  · simp [targetUpdate, ht, firstPassAt_of_not_own, hp0, UpdateState.start]
  set s₁ := firstPass E ifp lease res (UpdateState.start info)
  rw [targetUpdate, if_pos ht, ← firstPass_at info ht, refillPass]
  rw [refillPass] at h
  obtain ⟨pre, post, hpre, hpost, hsplit⟩ :=
    foldl_split (f := refillStep E nih res s₁.clearMask) ht s₁
  rw [hsplit] at h ⊢
  set s' := pre.foldl (refillStep E nih res s₁.clearMask) s₁
  have hW₁ : Within (· ≠ t) s₁ s' :=
    (within_foldl (fun s u ↦ (updateOps_refillStep E nih res _ s u).within) pre s₁).mono
      fun u hu h' ↦ hpre (h' ▸ hu)
  have hW₂ := (within_foldl (fun s u ↦ (updateOps_refillStep E nih res s₁.clearMask s u).within)
    post (refillStep E nih res s₁.clearMask s' t)).mono fun u hu (h' : u = t) ↦ hpost (h' ▸ hu)
  -- the process survives the turn at `t`, and was alive before it
  have hf : (refillStep E nih res s₁.clearMask s' t).faulted = false :=
    Bool.eq_false_iff.2 fun hc ↦ by
      rw [(foldl_refillStep_faulted_iff post _).2 (.inl hc)] at h
      cases h
  have hs' : s'.faulted = false :=
    Bool.eq_false_iff.2 fun hc ↦ by rw [refillStep_faulted_iff.2 (.inl hc)] at hf; cases hf
  rw [hW₂.info_eq t (not_not.2 rfl), ← hW₁.info_eq t (not_not.2 rfl)]
  cases hm : niAddrconfShouldUpdate s₁.clearMask t
  · rw [refillStep_of_not_mem E hm]
  · exact refillStep_at hs' hm hf

/--
**The two loops handle each target on its own.** A call of `ni_system_update_from_lease` dies
exactly when some target's `targetUpdate` does, and a call that returns leaves at every target
the origin `targetUpdate` gives for that target's origin before the call. No target's outcome
depends on another target's origin, on the order of the loops, or on the `clear_mask` bits of
other targets.
-/
theorem niSystemUpdateFromLease_refines_targetUpdate (info : ℕ → Origin) :
    ((niSystemUpdateFromLease E nih ifp lease res info).faulted = true ↔
      ∃ t, targetUpdate E nih ifp lease res t (info t) = none) ∧
    ((niSystemUpdateFromLease E nih ifp lease res info).faulted = false →
      ∀ t, targetUpdate E nih ifp lease res t (info t) =
        some ((niSystemUpdateFromLease E nih ifp lease res info).info t)) :=
  ⟨niSystemUpdateFromLease_faulted_iff info, niSystemUpdateFromLease_info info⟩

/-! ### Reporting a lease twice -/

/-- Handling a target twice is handling it once. An origin the first loop leaves alone stays a
fixed point; an update from the lease is repeated with the same outcome; a failed update or a
withdrawal is followed by the same refill, which `refillAt_idem` makes a fixed point. -/
theorem targetUpdate_idem {t : ℕ} {o o' : Origin}
    (h : targetUpdate E nih ifp lease res t o = some o') :
    targetUpdate E nih ifp lease res t o' = some o' := by
  unfold targetUpdate at h ⊢
  split_ifs at h ⊢ with ht
  swap
  · exact h ▸ rfl
  set P := niAddrconfShouldUpdate (updatePermitted E lease) t
  set M := niAddrconfShouldUpdate (niSystemLeaseCapabilities E ifp lease) t
  by_cases hown : P ∧ (o.ifindex = 0 ∨ o = Origin.of ifp lease)
  swap
  · rw [firstPassAt_of_not_own hown] at h
    obtain rfl : o = o' := Option.some.inj h
    rw [firstPassAt_of_not_own hown]
  by_cases hM : M
  · -- updated from the lease, when the target has a handler
    rw [firstPassAt_of_update hown.1 hown.2 hM] at h
    cases hH : niUpdateHandlers E t
    · simp only [updateOrMarkAt, hH, Bool.false_eq_true, if_false, Option.some.injEq] at h
      subst h
      rw [firstPassAt_of_update hown.1 hown.2 hM, updateOrMarkAt, hH]
      rfl
    cases hok : res.update t
    · -- the handler fails: the refill decides, and decides the same again
      simp only [updateOrMarkAt, hH, hok, Bool.false_eq_true, if_true, if_false] at h
      by_cases hown' : P ∧ (o'.ifindex = 0 ∨ o' = Origin.of ifp lease)
      · rw [firstPassAt_of_update hown'.1 hown'.2 hM, updateOrMarkAt, hH, hok]
        exact refillAt_idem h
      · rw [firstPassAt_of_not_own hown']
    · simp only [updateOrMarkAt, hH, hok, if_true, Option.some.injEq] at h
      subst h
      rw [firstPassAt_of_update hown.1 (.inr rfl) hM, updateOrMarkAt, hH, hok]
      rfl
  · -- not provided: left alone if unowned, withdrawn and refilled if owned
    rw [Bool.not_eq_true] at hM
    by_cases h₀ : o.ifindex = 0
    · rw [firstPassAt_of_unowned h₀ hM] at h
      obtain rfl : o = o' := Option.some.inj h
      rw [firstPassAt_of_unowned h₀ hM]
    obtain rfl := hown.2.resolve_left h₀
    rw [firstPassAt_of_withdrawn hown.1 h₀ hM] at h
    by_cases h₀' : o'.ifindex = 0
    · rw [firstPassAt_of_unowned h₀' hM]
    by_cases hmine : o' = Origin.of ifp lease
    · subst hmine
      rwa [firstPassAt_of_withdrawn hown.1 h₀ hM]
    · rw [firstPassAt_of_not_own fun h' ↦ hmine (h'.2.resolve_left h₀')]

/--
**Reporting the same lease twice changes nothing more.** After a call that returns, a second
call with the same interfaces, interface and lease, the handlers answering as before, returns
too and leaves the table exactly as the first call left it.
-/
theorem niSystemUpdateFromLease_idempotent (info : ℕ → Origin)
    (h : (niSystemUpdateFromLease E nih ifp lease res info).faulted = false) :
    (niSystemUpdateFromLease E nih ifp lease res
        (niSystemUpdateFromLease E nih ifp lease res info).info).faulted = false ∧
      (niSystemUpdateFromLease E nih ifp lease res
        (niSystemUpdateFromLease E nih ifp lease res info).info).info =
      (niSystemUpdateFromLease E nih ifp lease res info).info := by
  set s := niSystemUpdateFromLease E nih ifp lease res info
  have hfix : ∀ t, targetUpdate E nih ifp lease res t (s.info t) = some (s.info t) :=
    fun t ↦ targetUpdate_idem (niSystemUpdateFromLease_info info h t)
  have hf : (niSystemUpdateFromLease E nih ifp lease res s.info).faulted = false :=
    Bool.eq_false_iff.2 fun hc ↦ by
      obtain ⟨t, ht⟩ := (niSystemUpdateFromLease_faulted_iff s.info).1 hc
      rw [hfix t] at ht
      cases ht
  exact ⟨hf, funext fun t ↦
    Option.some.inj ((niSystemUpdateFromLease_info s.info hf t).symm.trans (hfix t))⟩

/-- Releasing `A` hands the hostname to `B` (`sampleRun₂`); reporting the release again leaves
`B` in place. -/
theorem niSystemUpdateFromLease_idempotent_sample :
    sampleRun₂.faulted = false ∧
      (niSystemUpdateFromLease .sample [.sample 1 Lease.sampleA.released, .sample 2 .sampleB]
        (.sample 1 Lease.sampleA.released) Lease.sampleA.released .succeed sampleRun₂.info).faulted =
          false ∧
      (niSystemUpdateFromLease .sample [.sample 1 Lease.sampleA.released, .sample 2 .sampleB]
        (.sample 1 Lease.sampleA.released) Lease.sampleA.released .succeed sampleRun₂.info).info =
          sampleRun₂.info :=
  have h : sampleRun₂.faulted = false := by decide
  ⟨h, niSystemUpdateFromLease_idempotent sampleRun₁.info h⟩

/-! ### Two leases in either order -/

/-- A target outside `update_permitted` keeps its origin. -/
theorem targetUpdate_of_not_permitted {t : ℕ} {o : Origin}
    (h : niAddrconfShouldUpdate (updatePermitted E lease) t = false) :
    targetUpdate E nih ifp lease res t o = some o := by
  unfold targetUpdate
  split_ifs
  · rw [firstPassAt_of_not_own (by simp [h])]
  · rfl

end Target

variable {E}

/--
**Calls for leases whose types may update disjoint sets of targets commute.** Two lease events
may reach `ni_system_update_from_lease` in either order, each with its own interfaces, interface,
lease and handler answers. When no target is in both calls' `update_permitted`, and the calls
return one after the other, they return in the other order too and leave the same table.
-/
theorem niSystemUpdateFromLease_comm {nih₁ nih₂ : List Interface} {ifp₁ ifp₂ : Interface}
    {lease₁ lease₂ : Lease} {res₁ res₂ : HandlerResults}
    (hdisj : ∀ t, niAddrconfShouldUpdate (updatePermitted E lease₁) t →
      niAddrconfShouldUpdate (updatePermitted E lease₂) t = false)
    (info : ℕ → Origin)
    (h₁ : (niSystemUpdateFromLease E nih₁ ifp₁ lease₁ res₁ info).faulted = false)
    (h₂ : (niSystemUpdateFromLease E nih₂ ifp₂ lease₂ res₂
      (niSystemUpdateFromLease E nih₁ ifp₁ lease₁ res₁ info).info).faulted = false) :
    (niSystemUpdateFromLease E nih₂ ifp₂ lease₂ res₂ info).faulted = false ∧
      (niSystemUpdateFromLease E nih₁ ifp₁ lease₁ res₁
        (niSystemUpdateFromLease E nih₂ ifp₂ lease₂ res₂ info).info).faulted = false ∧
      (niSystemUpdateFromLease E nih₁ ifp₁ lease₁ res₁
        (niSystemUpdateFromLease E nih₂ ifp₂ lease₂ res₂ info).info).info =
      (niSystemUpdateFromLease E nih₂ ifp₂ lease₂ res₂
        (niSystemUpdateFromLease E nih₁ ifp₁ lease₁ res₁ info).info).info := by
  have hA := niSystemUpdateFromLease_info info h₁
  have hB := niSystemUpdateFromLease_info _ h₂
  -- at each target, one of the two calls keeps the origin
  have hkeep : ∀ t, (∀ o, targetUpdate E nih₁ ifp₁ lease₁ res₁ t o = some o) ∨
      ∀ o, targetUpdate E nih₂ ifp₂ lease₂ res₂ t o = some o := fun t ↦ by
    cases hp : niAddrconfShouldUpdate (updatePermitted E lease₁) t
    · exact .inl fun o ↦ targetUpdate_of_not_permitted hp
    · exact .inr fun o ↦ targetUpdate_of_not_permitted (hdisj t hp)
  have hf₂ : (niSystemUpdateFromLease E nih₂ ifp₂ lease₂ res₂ info).faulted = false :=
    Bool.eq_false_iff.2 fun hc ↦ by
      obtain ⟨t, ht⟩ := (niSystemUpdateFromLease_faulted_iff info).1 hc
      rcases hkeep t with h | h
      · rw [Option.some.inj ((h (info t)).symm.trans (hA t)), hB t] at ht
        cases ht
      · rw [h] at ht
        cases ht
  have hC := niSystemUpdateFromLease_info info hf₂
  have hf₁ : (niSystemUpdateFromLease E nih₁ ifp₁ lease₁ res₁
      (niSystemUpdateFromLease E nih₂ ifp₂ lease₂ res₂ info).info).faulted = false :=
    Bool.eq_false_iff.2 fun hc ↦ by
      obtain ⟨t, ht⟩ := (niSystemUpdateFromLease_faulted_iff _).1 hc
      rcases hkeep t with h | h
      · rw [h] at ht
        cases ht
      · rw [← Option.some.inj ((h (info t)).symm.trans (hC t)), hA t] at ht
        cases ht
  have hD := niSystemUpdateFromLease_info _ hf₁
  refine ⟨hf₂, hf₁, funext fun t ↦ Option.some.inj ?_⟩
  rcases hkeep t with h | h
  · -- the first call keeps `t`: both orders leave what the second call makes of it
    rw [← hD t, h, ← hC t, ← hB t, ← Option.some.inj ((h (info t)).symm.trans (hA t))]
  · -- the second call keeps `t`: both orders leave what the first call makes of it
    rw [← hB t, h, ← hA t, ← hD t, ← Option.some.inj ((h (info t)).symm.trans (hC t))]

/-- `UpdateEnv.sample` with the update policy split between two lease types: type `1` may update
the hostname only, type `2` the resolver only. -/
def UpdateEnv.splitPolicy : UpdateEnv :=
  { UpdateEnv.sample with
    configUpdateMask := fun type ↦ if type = 1 then 0b0010 else if type = 2 then 0b0100 else 0 }

/-- A lease of type `2`, granted at time `7`, carrying a resolver. -/
def Lease.sampleC : Lease := ⟨2, 2, 2, false, false, true, 7⟩

/-- Lease `A` reported on interface `1` under the split policy, every slot filled. -/
def splitRunA (info : ℕ → Origin) : UpdateState :=
  niSystemUpdateFromLease .splitPolicy [.sample 1 .sampleA, .sample 2 .sampleC]
    (.sample 1 .sampleA) .sampleA .succeed info

/-- Lease `C` reported on interface `2` under the split policy. -/
def splitRunC (info : ℕ → Origin) : UpdateState :=
  niSystemUpdateFromLease .splitPolicy [.sample 1 .sampleA, .sample 2 .sampleC]
    (.sample 2 .sampleC) .sampleC .succeed info

/-- Under the split policy `A` configures the hostname and `C` the resolver, and the two calls
give the same table in either order. -/
theorem niSystemUpdateFromLease_comm_sample :
    (∀ t, niAddrconfShouldUpdate (updatePermitted .splitPolicy Lease.sampleA) t →
      niAddrconfShouldUpdate (updatePermitted .splitPolicy Lease.sampleC) t = false) ∧
    (splitRunA fun _ ↦ 0).faulted = false ∧ (splitRunC (splitRunA fun _ ↦ 0).info).faulted = false ∧
    (splitRunA fun _ ↦ 0).info 1 = Origin.of (.sample 1 .sampleA) .sampleA ∧
    (splitRunC (splitRunA fun _ ↦ 0).info).info 2 = Origin.of (.sample 2 .sampleC) .sampleC ∧
    (splitRunA (splitRunC fun _ ↦ 0).info).info = (splitRunC (splitRunA fun _ ↦ 0).info).info :=
  have hdisj : ∀ t, niAddrconfShouldUpdate (updatePermitted .splitPolicy Lease.sampleA) t →
      niAddrconfShouldUpdate (updatePermitted .splitPolicy Lease.sampleC) t = false := fun t h ↦ by
    rw [show updatePermitted .splitPolicy Lease.sampleA = 2 ^ 1 by decide] at h
    rw [show updatePermitted .splitPolicy Lease.sampleC = 2 ^ 2 by decide]
    simp only [niAddrconfShouldUpdate, Nat.testBit_two_pow, decide_eq_true_eq,
      decide_eq_false_iff_not] at h ⊢
    omega
  have h₁ : (splitRunA fun _ ↦ 0).faulted = false := by decide
  have h₂ : (splitRunC (splitRunA fun _ ↦ 0).info).faulted = false := by decide
  ⟨hdisj, h₁, h₂, by decide, by decide, (niSystemUpdateFromLease_comm hdisj _ h₁ h₂).2.2⟩

end Wicked
