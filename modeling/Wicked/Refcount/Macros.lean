import Mathlib.Logic.Function.Basic
import Mathlib.Data.List.Basic

/-!
# The reference-counting macros

`src/include/wicked/refcount.h` opens with macros that generate, for a type `prefix_t` with a
`refcount` field, six functions: `prefix_new`, `prefix_ref`, `prefix_free`, `prefix_hold`,
`prefix_drop` and `prefix_move`. This module translates them over an explicit heap.

* **The heap is what the macros touch.** Objects are addresses; per object the heap keeps
  `obj->refcount` and how often `prefix_destroy` and `free` have run on it. Tie cells, the
  `prefix_t *` variables whose address `hold`, `drop` and `move` take, are a list of pointers:
  a cell index stands for `&cell`, and `none` for `NULL`.
* **The refcount primitives are the header's declarations.** `ni_refcount_init`,
  `ni_refcount_increment` and `ni_refcount_decrement` are declared at lines 28-32 and defined
  elsewhere. The init sets the count to `1`, the increment adds one when it succeeds, the
  decrement subtracts one and reports reaching `0`. What each call of a primitive that may fail
  answers (`malloc`, `prefix_init`, the init and the increment) is an argument.

Each function gets one equation lemma, so that `Ledger` reasons about whole runs without
unfolding a macro. The one fact here is about two single calls, where `prefix_hold` and
`prefix_move` return `TRUE` for a move that did not happen (`hold_move_report_success_wrongly`).
What holds across sequences of calls is in `Ledger`.
-/

namespace Wicked

/-- The memory the macros work on. -/
structure Heap where
  /-- `obj->refcount` -/
  count : ℕ → ℕ
  /-- how many times `prefix_destroy(obj)` has run -/
  destroyed : ℕ → ℕ
  /-- how many times `free(obj)` has run -/
  freed : ℕ → ℕ
  /-- the tie cells, `none` for a `NULL` pointer -/
  ties : List (Option ℕ)
  /-- the address the next successful `malloc` returns -/
  next : ℕ

namespace Heap

variable (h : Heap) (a c n : ℕ) (v : Option ℕ)

/-- An object is live from its `malloc` until its `free`. -/
def Live : Prop := a < h.next ∧ h.freed a = 0

instance : Decidable (h.Live a) := inferInstanceAs (Decidable (_ ∧ _))

/-- `*tie` for tie cell `c`. -/
def tie : Option ℕ := h.ties.getD c none

/-- `obj->refcount = n`. -/
@[simps]
def setCount : Heap := { h with count := Function.update h.count a n }

/-- `*tie = v` for tie cell `c`. -/
@[simps]
def setTie : Heap := { h with ties := h.ties.set c v }

/-- `prefix_destroy(obj)`: the type's destructor, which the macros only call. -/
@[simps]
def destroy : Heap := { h with destroyed := Function.update h.destroyed a (h.destroyed a + 1) }

/-- `free(obj)`. -/
@[simps]
def dealloc : Heap := { h with freed := Function.update h.freed a (h.freed a + 1) }

/-- A successful `malloc(sizeof(*obj))`: the address `next` is handed out. -/
@[simps]
def alloc : Heap := { h with next := h.next + 1 }

variable {h a c v}

@[simp]
theorem setCount_self : h.setCount a (h.count a) = h := by
  cases h
  simp [setCount]

@[simp]
theorem live_setCount {b : ℕ} : (h.setCount a n).Live b ↔ h.Live b := Iff.rfl

@[simp]
theorem live_setTie {b : ℕ} : (h.setTie c v).Live b ↔ h.Live b := Iff.rfl

@[simp]
theorem live_destroy {b : ℕ} : (h.destroy a).Live b ↔ h.Live b := Iff.rfl

@[simp]
theorem live_dealloc {b : ℕ} : (h.dealloc a).Live b ↔ h.Live b ∧ b ≠ a := by
  by_cases hb : b = a
  · subst hb
    simp [Live]
  · simp [Live, hb, Function.update_noteq]

@[simp]
theorem tie_setCount : (h.setCount a n).tie c = h.tie c := rfl

@[simp]
theorem tie_setTie_self (hc : c < h.ties.length) : (h.setTie c v).tie c = v := by
  simp [tie, hc]

theorem tie_setTie_ne {d : ℕ} (hd : d ≠ c) : (h.setTie c v).tie d = h.tie d := by
  simp [tie, List.getElem?_set_ne hd.symm]

theorem tie_eq_getElem (hc : c < h.ties.length) : h.tie c = h.ties[c] := by
  simp [tie, hc]

theorem tie_mem (hc : c < h.ties.length) : h.tie c ∈ h.ties :=
  tie_eq_getElem hc ▸ List.getElem_mem hc

/-- Writing back what a cell holds changes no cell. -/
theorem ties_set_tie (hc : c < h.ties.length) : h.ties.set c (h.tie c) = h.ties := by
  apply List.ext_getElem?
  intro i
  by_cases hi : c = i
  · subst hi
    simp [tie, hc]
  · simp [List.getElem?_set_ne hi]

end Heap

/-- `1` when the pointer `o` points to `a`: the one reference a pointer variable can carry. -/
def refOf (o : Option ℕ) (a : ℕ) : ℕ := if o = some a then 1 else 0

/-- **Writing a tie cell swaps references.** After `*tie = v`, the cells point to `a` as often
as before, less the reference the cell held and plus the one `v` carries. -/
theorem Heap.count_setTie {h : Heap} {c : ℕ} (hc : c < h.ties.length) (v : Option ℕ) (a : ℕ) :
    (h.setTie c v).ties.count (some a) + refOf (h.tie c) a =
      h.ties.count (some a) + refOf v a := by
  have hmem := h.tie_mem hc
  rw [setTie_ties, List.count_set _ _ _ _ hc, ← tie_eq_getElem hc]
  by_cases ho : h.tie c = some a
  · have : 0 < h.ties.count (some a) := List.count_pos_iff.2 (ho ▸ hmem)
    by_cases hv : v = some a <;> simp [refOf, ho, hv] <;> omega
  · by_cases hv : v = some a <;> simp [refOf, ho, hv]

/-! ### The refcount primitives -/

/-- `ni_refcount_init(&refcount)`: the count is `1`, and `ok` is what it returns. -/
def niRefcountInit (ok : Bool) : Bool × ℕ := (ok, 1)

/-- `ni_refcount_increment(&refcount)` on a count `n`: one more when it succeeds (`ok`). -/
def niRefcountIncrement (ok : Bool) (n : ℕ) : Bool × ℕ := (ok, if ok then n + 1 else n)

/-- `ni_refcount_decrement(&refcount)` on a count `n`: one less, and whether that is `0`. -/
def niRefcountDecrement (n : ℕ) : Bool × ℕ := (n - 1 == 0, n - 1)

/-! ### The generated functions -/

/-- `prefix_new(args)`, from `ni_refcounted_define_new_xargs`: a fresh object with one
reference, or `NULL`. `malloc`, `prefix_init` and `ni_refcount_init` answer `mallocOk`,
`initOk` and `refInitOk`. -/
def prefixNew (mallocOk initOk refInitOk : Bool) (h : Heap) : Heap × Option ℕ :=
  if mallocOk then
    let obj := h.next
    let h := h.alloc
    if !initOk then (h.dealloc obj, none)
    else
      let (done, n) := niRefcountInit refInitOk
      let h := h.setCount obj n
      if !done then ((h.destroy obj).dealloc obj, none) else (h, some obj)
  else (h, none)

/-- `prefix_ref(ref)`: the object with one more reference, or `NULL` when `ref` is `NULL` or
the increment fails. -/
def prefixRef (ok : Bool) (h : Heap) : Option ℕ → Heap × Option ℕ
  | some a =>
    let (done, n) := niRefcountIncrement ok (h.count a)
    let h := h.setCount a n
    if done then (h, some a) else (h, none)
  | none => (h, none)

/-- `prefix_free(ref)`: one reference less; at the last one, `prefix_destroy` and `free`. -/
def prefixFree (h : Heap) : Option ℕ → Heap
  | some a =>
    let (zero, n) := niRefcountDecrement (h.count a)
    let h := h.setCount a n
    if zero then (h.destroy a).dealloc a else h
  | none => h

/-- `prefix_hold(tie, ref)`: `*tie = prefix_ref(ref)`, then `prefix_free(old)`; `TRUE` when
both pointers are non-`NULL`. -/
def prefixHold (ok : Bool) (h : Heap) : Option ℕ → Option ℕ → Heap × Bool
  | some c, some a =>
    let old := h.tie c
    let r := prefixRef ok h (some a)
    (prefixFree (r.1.setTie c r.2) old, true)
  | _, _ => (h, false)

/-- `prefix_drop(tie)`: `*tie = NULL`, then `prefix_free(old)`; `TRUE` when `tie` is
non-`NULL`. -/
def prefixDrop (h : Heap) : Option ℕ → Heap × Bool
  | some c =>
    let old := h.tie c
    (prefixFree (h.setTie c none) old, true)
  | none => (h, false)

/-- `prefix_move(dst, src)`: `prefix_hold(dst, *src)`, and when that returns `TRUE`,
`prefix_drop(src)`. -/
def prefixMove (ok : Bool) (h : Heap) (dst : Option ℕ) : Option ℕ → Heap × Bool
  | some s =>
    let held := prefixHold ok h dst (h.tie s)
    if held.2 then prefixDrop held.1 (some s) else (held.1, false)
  | none => (h, false)

/-! ### One equation per function -/

section Equations

variable (ok : Bool) (h : Heap) (a c : ℕ)

/-- `prefix_new` moves the frontier up by at most the one object it allocates. -/
theorem prefixNew_next (m i r : Bool) :
    h.next ≤ (prefixNew m i r h).1.next ∧ (prefixNew m i r h).1.next ≤ h.next + 1 := by
  unfold prefixNew
  cases m <;> cases i <;> cases r <;> simp [niRefcountInit]

/-- `prefix_new` changes nothing at an address other than the frontier it allocates. -/
theorem prefixNew_frame (m i r : Bool) {b : ℕ} (hb : b ≠ h.next) :
    (prefixNew m i r h).1.count b = h.count b ∧
      (prefixNew m i r h).1.destroyed b = h.destroyed b ∧
      (prefixNew m i r h).1.freed b = h.freed b ∧ (prefixNew m i r h).1.ties = h.ties ∧
      refOf (prefixNew m i r h).2 b = 0 := by
  unfold prefixNew
  cases m <;> cases i <;> cases r <;> simp [niRefcountInit, hb, refOf, Ne.symm hb]

@[simp]
theorem prefixRef_none : prefixRef ok h none = (h, none) := rfl

theorem prefixRef_some :
    prefixRef ok h (some a) =
      if ok then (h.setCount a (h.count a + 1), some a) else (h, none) := by
  cases ok <;> simp [prefixRef, niRefcountIncrement]

@[simp]
theorem prefixRef_ties (o : Option ℕ) : (prefixRef ok h o).1.ties = h.ties := by
  cases o <;> cases ok <;> simp [prefixRef_some]

@[simp]
theorem prefixRef_tie (o : Option ℕ) : (prefixRef ok h o).1.tie c = h.tie c := by
  simp [Heap.tie]

@[simp]
theorem prefixFree_none : prefixFree h none = h := rfl

theorem prefixFree_some :
    prefixFree h (some a) =
      if h.count a ≤ 1 then ((h.setCount a (h.count a - 1)).destroy a).dealloc a
      else h.setCount a (h.count a - 1) := by
  simp only [prefixFree, niRefcountDecrement, beq_iff_eq, Nat.sub_eq_zero_iff_le]

@[simp]
theorem prefixFree_count :
    (prefixFree h (some a)).count = Function.update h.count a (h.count a - 1) := by
  rw [prefixFree_some]
  split <;> rfl

@[simp]
theorem prefixFree_next (o : Option ℕ) : (prefixFree h o).next = h.next := by
  cases o with
  | none => rfl
  | some a => rw [prefixFree_some]; split <;> rfl

@[simp]
theorem prefixFree_ties (o : Option ℕ) : (prefixFree h o).ties = h.ties := by
  cases o with
  | none => rfl
  | some a => rw [prefixFree_some]; split <;> rfl

@[simp]
theorem prefixFree_tie (o : Option ℕ) : (prefixFree h o).tie c = h.tie c := by
  simp [Heap.tie]

@[simp]
theorem prefixHold_length (t o : Option ℕ) :
    (prefixHold ok h t o).1.ties.length = h.ties.length := by
  cases t <;> cases o <;> simp [prefixHold]

@[simp]
theorem prefixHold_some_some :
    prefixHold ok h (some c) (some a) =
      (prefixFree ((prefixRef ok h (some a)).1.setTie c (prefixRef ok h (some a)).2)
        (h.tie c), true) := rfl

@[simp]
theorem prefixDrop_some :
    prefixDrop h (some c) = (prefixFree (h.setTie c none) (h.tie c), true) := rfl

end Equations

/-! ### What `prefix_hold` and `prefix_move` report -/

/-- One object, `0`, whose only reference is held by tie cell `0`. -/
def Heap.sample : Heap :=
  ⟨fun a ↦ if a = 0 then 1 else 0, fun _ ↦ 0, fun _ ↦ 0, [some 0], 1⟩

/-- `prefix_hold(&t, t)` with a failing increment returns `TRUE`, leaves `t` `NULL` and has
destroyed the object; `prefix_move(&t, &t)` returns `TRUE`, leaves `t` `NULL` and has destroyed
the object too. -/
theorem hold_move_report_success_wrongly :
    (prefixHold false Heap.sample (some 0) (some 0)).2 = true ∧
    (prefixHold false Heap.sample (some 0) (some 0)).1.tie 0 = none ∧
    (prefixHold false Heap.sample (some 0) (some 0)).1.destroyed 0 = 1 ∧
    (prefixMove true Heap.sample (some 0) (some 0)).2 = true ∧
    (prefixMove true Heap.sample (some 0) (some 0)).1.tie 0 = none ∧
    (prefixMove true Heap.sample (some 0) (some 0)).1.destroyed 0 = 1 := by
  decide

end Wicked
