import Wicked.Update.Basic
import Mathlib.Data.List.MinMax

/-!
# Finding a replacement lease

When a service loses its lease, `ni_system_update_from_lease` asks
`ni_system_update_find_lease` for another one: it walks every interface of the handle, the
`ipv4` then the `ipv6` address-family info, and every addrconf mode's lease slot, and keeps
the oldest lease whose capabilities include the target.

Two facts are proved about the walk, and they pull in opposite directions.

* **An empty slot is a `NULL` dereference.** `ni_system_lease_capabilities` reads
  `lease->family` before it checks anything, and the walk passes it every slot, empty or
  not. `niSystemUpdateFindLease_eq_error_iff`: the search faults, whatever the target,
  exactly when some interface has an empty slot.
* **Otherwise the walk is `List.argmin`.** When every slot holds a lease, the choice is
  Mathlib's `List.argmin` of `timeAcquired` over the capable leases in visiting order
  (`niSystemUpdateFindLease_eq_argmin`): the replacement is the first lease of least
  `time_acquired`, and there is none exactly when no lease is capable. So the order of the
  interfaces only breaks ties (`niSystemUpdateFindLease_perm`).
-/

namespace Wicked

/-- Why the process dies in the update code: a lease slot that is `NULL` is read. -/
inductive Fault
  | nullLease
deriving DecidableEq, Repr

variable (E : UpdateEnv)

/-- The choice step of `ni_system_update_find_lease_afinfo`: a capable lease replaces the
choice when there is none yet (`best->lease == 0`) or when it is strictly older. -/
def chooseLease (best : Option (Interface × Lease)) (c : Interface × Lease) :
    Option (Interface × Lease) :=
  match best with
  | none => some c
  | some b => if c.2.timeAcquired < b.2.timeAcquired then some c else some b

/-- The loop of `ni_system_update_find_lease_afinfo` over the slots `afi->lease[mode]`. -/
def findLeaseSlots (ifp : Interface) (target : ℕ) :
    List (Option Lease) → Option (Interface × Lease) →
      Except Fault (Option (Interface × Lease))
  | [], best => .ok best
  | none :: _, _ => .error .nullLease
  | some lease :: slots, best =>
    findLeaseSlots ifp target slots
      (if niAddrconfShouldUpdate (niSystemLeaseCapabilities E ifp lease) target then
        chooseLease best (ifp, lease)
      else best)

/-- `ni_system_update_find_lease_afinfo(ifp, afi, target, best)`. -/
def niSystemUpdateFindLeaseAfinfo (ifp : Interface) (afi : AfInfo) (target : ℕ)
    (best : Option (Interface × Lease)) : Except Fault (Option (Interface × Lease)) :=
  findLeaseSlots E ifp target afi.lease best

/-- `ni_system_update_find_lease_interface(ifp, target, best)`: `ipv4`, then `ipv6`. -/
def niSystemUpdateFindLeaseInterface (ifp : Interface) (target : ℕ)
    (best : Option (Interface × Lease)) : Except Fault (Option (Interface × Lease)) :=
  (niSystemUpdateFindLeaseAfinfo E ifp ifp.ipv4 target best).bind fun best ↦
    niSystemUpdateFindLeaseAfinfo E ifp ifp.ipv6 target best

/-- `ni_system_update_find_lease(nih, target, best)`: every interface of `ni_interfaces(nih)`
in list order. -/
def niSystemUpdateFindLease :
    List Interface → ℕ → Option (Interface × Lease) →
      Except Fault (Option (Interface × Lease))
  | [], _, best => .ok best
  | ifp :: nih, target, best =>
    (niSystemUpdateFindLeaseInterface E ifp target best).bind fun best ↦
      niSystemUpdateFindLease nih target best

/-! ### What the walk visits -/

/-- An interface with an empty lease slot in either address family. -/
def Interface.HasEmptySlot (ifp : Interface) : Prop :=
  none ∈ ifp.ipv4.lease ++ ifp.ipv6.lease

instance (ifp : Interface) : Decidable ifp.HasEmptySlot :=
  inferInstanceAs (Decidable (none ∈ _))

/-- The leases among some slots that provide `target`, paired with their interface. -/
def capableSlots (ifp : Interface) (target : ℕ) (slots : List (Option Lease)) :
    List (Interface × Lease) :=
  (slots.filterMap id).filterMap fun lease ↦
    if niAddrconfShouldUpdate (niSystemLeaseCapabilities E ifp lease) target then
      some (ifp, lease)
    else none

/-- The present leases that provide `target`, in the order the walk visits them. -/
def capableLeases (nih : List Interface) (target : ℕ) : List (Interface × Lease) :=
  nih.flatMap fun ifp ↦ capableSlots E ifp target (ifp.ipv4.lease ++ ifp.ipv6.lease)

theorem capableSlots_append (ifp : Interface) (target : ℕ) (s₁ s₂ : List (Option Lease)) :
    capableSlots E ifp target (s₁ ++ s₂) =
      capableSlots E ifp target s₁ ++ capableSlots E ifp target s₂ := by
  simp [capableSlots, List.filterMap_append]

/-- The choice step is Mathlib's `argmin` step for `timeAcquired`. -/
theorem chooseLease_eq_argAux :
    chooseLease =
      List.argAux fun b c : Interface × Lease ↦ b.2.timeAcquired < c.2.timeAcquired := by
  funext best c
  cases best <;> rfl

/-! ### The `NULL` read -/

theorem findLeaseSlots_of_mem {ifp : Interface} {target : ℕ} :
    ∀ {slots : List (Option Lease)} (best : Option (Interface × Lease)), none ∈ slots →
      findLeaseSlots E ifp target slots best = .error .nullLease
  | none :: _, _, _ => rfl
  | some _ :: _, _, h => by
    rw [findLeaseSlots]
    exact findLeaseSlots_of_mem _ ((List.mem_cons.1 h).resolve_left (by simp))

/-- Over slots that all hold a lease, the loop folds the choice step over the capable ones. -/
theorem findLeaseSlots_of_not_mem {ifp : Interface} {target : ℕ} :
    ∀ {slots : List (Option Lease)} (best : Option (Interface × Lease)), none ∉ slots →
      findLeaseSlots E ifp target slots best =
        .ok ((capableSlots E ifp target slots).foldl chooseLease best)
  | [], _, _ => rfl
  | none :: _, _, h => absurd (List.mem_cons_self _ _) h
  | some lease :: slots, best, h => by
    rw [findLeaseSlots, findLeaseSlots_of_not_mem _ (fun h' ↦ h (List.mem_cons_of_mem _ h'))]
    by_cases hc : niAddrconfShouldUpdate (niSystemLeaseCapabilities E ifp lease) target <;>
      simp [capableSlots, hc]

theorem niSystemUpdateFindLeaseInterface_of_hasEmptySlot {ifp : Interface} {target : ℕ}
    (best : Option (Interface × Lease)) (h : ifp.HasEmptySlot) :
    niSystemUpdateFindLeaseInterface E ifp target best = .error .nullLease := by
  unfold niSystemUpdateFindLeaseInterface niSystemUpdateFindLeaseAfinfo
  by_cases h4 : none ∈ ifp.ipv4.lease
  · rw [findLeaseSlots_of_mem E best h4]; rfl
  · have h6 : none ∈ ifp.ipv6.lease := (List.mem_append.1 h).resolve_left h4
    rw [findLeaseSlots_of_not_mem E best h4, Except.bind, findLeaseSlots_of_mem E _ h6]

theorem niSystemUpdateFindLeaseInterface_of_not_hasEmptySlot {ifp : Interface} {target : ℕ}
    (best : Option (Interface × Lease)) (h : ¬ifp.HasEmptySlot) :
    niSystemUpdateFindLeaseInterface E ifp target best =
      .ok ((capableSlots E ifp target (ifp.ipv4.lease ++ ifp.ipv6.lease)).foldl
        chooseLease best) := by
  simp only [Interface.HasEmptySlot, List.mem_append, not_or] at h
  unfold niSystemUpdateFindLeaseInterface niSystemUpdateFindLeaseAfinfo
  rw [findLeaseSlots_of_not_mem E best h.1, Except.bind, findLeaseSlots_of_not_mem E _ h.2,
    capableSlots_append, List.foldl_append]

/-- A walk over interfaces one of which has an empty slot faults, whatever the choice so far. -/
theorem niSystemUpdateFindLease_of_hasEmptySlot {nih : List Interface} {target : ℕ}
    (best : Option (Interface × Lease)) (h : ∃ ifp ∈ nih, ifp.HasEmptySlot) :
    niSystemUpdateFindLease E nih target best = .error .nullLease := by
  induction nih generalizing best with
  | nil => simp at h
  | cons ifp nih ih =>
    by_cases hs : ifp.HasEmptySlot
    · simp [niSystemUpdateFindLease, niSystemUpdateFindLeaseInterface_of_hasEmptySlot E best hs,
        Except.bind]
    · rw [niSystemUpdateFindLease, niSystemUpdateFindLeaseInterface_of_not_hasEmptySlot E best hs,
        Except.bind, ih _ (by simpa [hs] using h)]

/-- With every slot filled, the search folds the choice step over the capable leases. -/
theorem niSystemUpdateFindLease_of_forall_not_hasEmptySlot {nih : List Interface} {target : ℕ}
    (best : Option (Interface × Lease)) (h : ∀ ifp ∈ nih, ¬ifp.HasEmptySlot) :
    niSystemUpdateFindLease E nih target best =
      .ok ((capableLeases E nih target).foldl chooseLease best) := by
  induction nih generalizing best with
  | nil => rfl
  | cons ifp nih ih =>
    rw [niSystemUpdateFindLease,
      niSystemUpdateFindLeaseInterface_of_not_hasEmptySlot E best (h ifp (List.mem_cons_self _ _)),
      Except.bind, ih _ (fun i hi ↦ h i (List.mem_cons_of_mem _ hi))]
    simp only [capableLeases, List.flatMap_cons, List.foldl_append]

/-- **The search faults exactly when a slot is empty**, whatever the target and the choice
so far: the walk reaches every slot, and reads each before checking it. -/
theorem niSystemUpdateFindLease_eq_error_iff (nih : List Interface) (target : ℕ)
    (best : Option (Interface × Lease)) :
    niSystemUpdateFindLease E nih target best = .error .nullLease ↔
      ∃ ifp ∈ nih, ifp.HasEmptySlot := by
  refine ⟨fun h ↦ ?_, niSystemUpdateFindLease_of_hasEmptySlot E best⟩
  by_contra hn
  rw [niSystemUpdateFindLease_of_forall_not_hasEmptySlot E best (by simpa using hn)] at h
  cases h

/-- An interface whose first `ipv4` mode has no lease and whose second holds `A`: the search
dies on the empty slot instead of returning `A`. -/
theorem findLease_reads_empty_slot :
    niSystemUpdateFindLease .sample [⟨1, ⟨[none, some .sampleA], []⟩, ⟨[], []⟩⟩] 1 none =
      .error .nullLease :=
  rfl

/-! ### The oldest capable lease -/

/-- **The search is `argmin`.** From the caller's `{ NULL, NULL }`, with every slot filled,
the search returns the first capable lease of least `time_acquired`. -/
theorem niSystemUpdateFindLease_eq_argmin {nih : List Interface} {target : ℕ}
    (h : ∀ ifp ∈ nih, ¬ifp.HasEmptySlot) :
    niSystemUpdateFindLease E nih target none =
      .ok ((capableLeases E nih target).argmin fun c ↦ c.2.timeAcquired) := by
  rw [niSystemUpdateFindLease_of_forall_not_hasEmptySlot E none h, chooseLease_eq_argAux]
  rfl

theorem niSystemUpdateFindLease_eq_argmin_sample :
    (∀ ifp ∈ [Interface.sample 1 .sampleA, .sample 2 .sampleB], ¬ifp.HasEmptySlot) ∧
      niSystemUpdateFindLease .sample [.sample 1 .sampleA, .sample 2 .sampleB] 1 none =
        .ok ((capableLeases .sample [.sample 1 .sampleA, .sample 2 .sampleB] 1).argmin
          fun c ↦ c.2.timeAcquired) :=
  have h : ∀ ifp ∈ [Interface.sample 1 .sampleA, .sample 2 .sampleB], ¬ifp.HasEmptySlot := by
    decide
  ⟨h, niSystemUpdateFindLease_eq_argmin _ h⟩

/-- Over two orderings of the same candidates, no two with the same `time_acquired`, `argmin`
picks the same one. -/
theorem argmin_timeAcquired_perm {L L' : List (Interface × Lease)} (hp : L.Perm L')
    (hd : ∀ c ∈ L, ∀ c' ∈ L, c.2.timeAcquired = c'.2.timeAcquired → c = c') :
    L'.argmin (fun c ↦ c.2.timeAcquired) = L.argmin fun c ↦ c.2.timeAcquired := by
  cases hm : L.argmin fun c ↦ c.2.timeAcquired with
  | none =>
    rw [List.argmin_eq_none] at hm ⊢
    subst hm
    exact hp.symm.eq_nil
  | some m =>
    cases hm' : L'.argmin fun c ↦ c.2.timeAcquired with
    | none =>
      rw [List.argmin_eq_none] at hm'
      subst hm'
      rw [hp.eq_nil] at hm
      cases hm
    | some m' =>
      have hmL : m ∈ L := List.argmin_mem hm
      have hm'L : m' ∈ L := hp.mem_iff.2 (List.argmin_mem hm')
      rw [hd m' hm'L m hmL (Nat.le_antisymm
        (List.le_of_mem_argmin (f := fun c ↦ c.2.timeAcquired) (hp.mem_iff.1 hmL) hm')
        (List.le_of_mem_argmin (f := fun c ↦ c.2.timeAcquired) hm'L hm))]

/-- **With distinct acquisition times the order of the interfaces does not matter.** Over the
same interfaces listed in another order, all slots filled, the search picks the same lease as
long as no two capable leases share a `time_acquired`; only a tie is broken by the order of
`ni_interfaces(nih)`. -/
theorem niSystemUpdateFindLease_perm {nih nih' : List Interface} {target : ℕ}
    (hp : nih.Perm nih') (he : ∀ ifp ∈ nih, ¬ifp.HasEmptySlot)
    (hd : ∀ c ∈ capableLeases E nih target, ∀ c' ∈ capableLeases E nih target,
      c.2.timeAcquired = c'.2.timeAcquired → c = c') :
    niSystemUpdateFindLease E nih' target none = niSystemUpdateFindLease E nih target none := by
  rw [niSystemUpdateFindLease_of_forall_not_hasEmptySlot E none he,
    niSystemUpdateFindLease_of_forall_not_hasEmptySlot E none fun i hi ↦ he i (hp.mem_iff.2 hi),
    chooseLease_eq_argAux]
  exact congrArg Except.ok (argmin_timeAcquired_perm (hp.flatMap_right _) hd)

theorem niSystemUpdateFindLease_perm_sample :
    [Interface.sample 1 .sampleA, .sample 2 .sampleB].Perm [.sample 2 .sampleB, .sample 1 .sampleA] ∧
    (∀ ifp ∈ [Interface.sample 1 .sampleA, .sample 2 .sampleB], ¬ifp.HasEmptySlot) ∧
    (∀ c ∈ capableLeases .sample [.sample 1 .sampleA, .sample 2 .sampleB] 1,
      ∀ c' ∈ capableLeases .sample [.sample 1 .sampleA, .sample 2 .sampleB] 1,
        c.2.timeAcquired = c'.2.timeAcquired → c = c') ∧
    niSystemUpdateFindLease .sample [.sample 2 .sampleB, .sample 1 .sampleA] 1 none =
      niSystemUpdateFindLease .sample [.sample 1 .sampleA, .sample 2 .sampleB] 1 none :=
  have hp : [Interface.sample 1 .sampleA, .sample 2 .sampleB].Perm
      [.sample 2 .sampleB, .sample 1 .sampleA] := .swap _ _ _
  have he : ∀ ifp ∈ [Interface.sample 1 .sampleA, .sample 2 .sampleB], ¬ifp.HasEmptySlot := by
    decide
  have hd : ∀ c ∈ capableLeases .sample [.sample 1 .sampleA, .sample 2 .sampleB] 1,
      ∀ c' ∈ capableLeases .sample [.sample 1 .sampleA, .sample 2 .sampleB] 1,
        c.2.timeAcquired = c'.2.timeAcquired → c = c' := by
    decide
  ⟨hp, he, hd, niSystemUpdateFindLease_perm _ hp he hd⟩

/-- A lease in the visiting order provides the target. -/
theorem capable_of_mem_capableLeases {nih : List Interface} {target : ℕ} {c : Interface × Lease}
    (h : c ∈ capableLeases E nih target) :
    niAddrconfShouldUpdate (niSystemLeaseCapabilities E c.1 c.2) target := by
  simp only [capableLeases, capableSlots, List.mem_flatMap, List.mem_filterMap] at h
  obtain ⟨ifp, -, lease, -, hc⟩ := h
  split_ifs at hc with hcap
  cases hc
  exact hcap

/-- Whatever the search returns provides the target. -/
theorem niSystemUpdateFindLease_capable {nih : List Interface} {target : ℕ}
    {c : Interface × Lease} (h : niSystemUpdateFindLease E nih target none = .ok (some c)) :
    niAddrconfShouldUpdate (niSystemLeaseCapabilities E c.1 c.2) target := by
  by_cases he : ∃ ifp ∈ nih, ifp.HasEmptySlot
  · rw [niSystemUpdateFindLease_of_hasEmptySlot E none he] at h
    cases h
  · rw [niSystemUpdateFindLease_of_forall_not_hasEmptySlot E none (by simpa using he),
      chooseLease_eq_argAux] at h
    exact capable_of_mem_capableLeases E (List.argmin_mem (Except.ok.inj h))

end Wicked
