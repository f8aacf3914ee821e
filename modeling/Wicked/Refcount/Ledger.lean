import Wicked.Refcount.Macros

/-!
# The reference-count ledger

Across any sequence of calls of the six generated functions, with any aliasing of tie cells and
objects, the count of a live object is the number of tie cells pointing to it plus the
references the caller holds, and an object is destroyed and freed once, by the call that
releases its last reference (`refcount_ledger`). The caller's side is ghost state beside the
heap: `World.held` counts the references `prefix_new` and `prefix_ref` returned that the caller
has not yet passed to `prefix_free`.

## One idea: a tie write swaps a reference

`prefix_hold` is `prefix_ref`, a tie write and `prefix_free`; `prefix_drop` is a tie write and
`prefix_free`; `prefix_move` is a hold and a drop (`World.step_hold`, `World.step_drop`,
`World.step_move`). Let `held` count also the reference the running function has in hand:
then its `prefix_ref` and `prefix_free` are calls like the caller's, and a tie write swaps the
written pointer's reference with the one the cell held (`World.swap`, `Heap.count_setTie`).
Three facts, `keeps_ref`, `keeps_swap` and `keeps_free`, with `keeps_new`, carry every call.

Over the reachable worlds the ledger then gives what aliasing does: no cell dangles
(`reachable_no_dangling`), a move between two cells moves the reference
(`reachable_move_transfers`) and a move to an empty cell is undone by the move back
(`reachable_move_round_trip`), and a cell held or moved onto itself is left alone or dropped
(`reachable_hold_self`).
-/

namespace Wicked

/-- A call of one of the six generated functions, with what the primitives it calls answer. -/
inductive RefOp
  | new (mallocOk initOk refInitOk : Bool)
  | ref (obj : Option ℕ) (ok : Bool)
  | free (obj : Option ℕ)
  | hold (tie obj : Option ℕ) (ok : Bool)
  | drop (tie : Option ℕ)
  | move (dst src : Option ℕ) (ok : Bool)

/-- The heap, and beside it the references the caller holds. -/
@[ext]
structure World where
  heap : Heap
  held : ℕ → ℕ

namespace World

variable (w : World)

/-- The references to `a` the ledger counts: the tie cells pointing to it and the caller's. -/
def refs (a : ℕ) : ℕ := w.heap.ties.count (some a) + w.held a

/-- One call, as the caller sees it: what `prefix_new` and `prefix_ref` return is the caller's,
and what it passes to `prefix_free` no longer is. -/
def step : RefOp → World
  | .new m i r =>
    let res := prefixNew m i r w.heap
    ⟨res.1, fun a ↦ w.held a + refOf res.2 a⟩
  | .ref o ok =>
    let res := prefixRef ok w.heap o
    ⟨res.1, fun a ↦ w.held a + refOf res.2 a⟩
  | .free o => ⟨prefixFree w.heap o, fun a ↦ w.held a - refOf o a⟩
  | .hold t o ok => ⟨(prefixHold ok w.heap t o).1, w.held⟩
  | .drop t => ⟨(prefixDrop w.heap t).1, w.held⟩
  | .move d s ok => ⟨(prefixMove ok w.heap d s).1, w.held⟩

/-- `tie` is `NULL` or the address of a tie cell. -/
def TieOk (t : Option ℕ) : Prop := ∀ c, t = some c → c < w.heap.ties.length

/-- What the caller promises for a call: it passes only live objects and tie pointers that are
`NULL` or point to a cell, and it releases only references it holds. -/
def Valid : RefOp → Prop
  | .new .. => True
  | .ref o _ => ∀ a, o = some a → w.heap.Live a
  | .free o => ∀ a, o = some a → 0 < w.held a
  | .hold t o _ => w.TieOk t ∧ ∀ a, o = some a → w.heap.Live a
  | .drop t => w.TieOk t
  | .move d s _ => w.TieOk d ∧ w.TieOk s

/-- `*tie = v` inside a generated function, with `held` counting the reference the function
has in hand: the written pointer's reference goes into the cell, the cell's old one comes out. -/
def swap (c : ℕ) (v : Option ℕ) : World :=
  ⟨w.heap.setTie c v, fun a ↦ w.held a - refOf v a + refOf (w.heap.tie c) a⟩

/-- No object yet, and `n` tie cells, all `NULL`. -/
def init (n : ℕ) : World :=
  ⟨⟨fun _ ↦ 0, fun _ ↦ 0, fun _ ↦ 0, List.replicate n none, 0⟩, fun _ ↦ 0⟩

end World

/-- The worlds a sequence of valid calls reaches. -/
inductive World.Reachable : World → Prop
  | init (n : ℕ) : World.Reachable (World.init n)
  | step {w : World} (op : RefOp) : w.Reachable → w.Valid op → (w.step op).Reachable

/-! ### Each call is built from three moves -/

namespace World

variable {w : World} (ok : Bool) (c p : ℕ)

theorem step_hold :
    w.step (.hold (some c) (some p) ok) =
      ((w.step (.ref (some p) ok)).swap c (prefixRef ok w.heap (some p)).2).step
        (.free (w.heap.tie c)) := by
  ext a
  · simp [step, swap]
  · simp [step, swap]

theorem step_drop : w.step (.drop (some c)) = (w.swap c none).step (.free (w.heap.tie c)) := by
  ext a
  · simp [step, swap]
  · simp [step, swap, refOf]

theorem step_move (d : Option ℕ) (s : ℕ) :
    w.step (.move d (some s) ok) =
      if (prefixHold ok w.heap d (w.heap.tie s)).2 then
        (w.step (.hold d (w.heap.tie s) ok)).step (.drop (some s))
      else w.step (.hold d (w.heap.tie s) ok) := by
  simp only [step, prefixMove]
  split <;> rfl

end World

/-! ### The ledger, and what a call does to the counters -/

/-- **The ledger** at one address. -/
structure LedgerAt (w : World) (a : ℕ) : Prop where
  /-- A live object's count is the number of tie cells pointing to it plus the caller's
  references to it. -/
  count_eq : w.heap.Live a → w.heap.count a = w.refs a
  /-- A live object has a reference. -/
  count_pos : w.heap.Live a → 0 < w.heap.count a
  /-- No tie cell and no caller reference points to an object that is not live, a destroyed
  one included. -/
  unreferenced : ¬ w.heap.Live a → w.refs a = 0
  /-- A live object has not been destroyed. -/
  live_undestroyed : w.heap.Live a → w.heap.destroyed a = 0
  /-- `prefix_destroy` and `free` have run at most once on the object. -/
  at_most_once : w.heap.destroyed a ≤ 1 ∧ w.heap.freed a ≤ 1
  /-- Nothing has happened to an address `malloc` has not handed out. -/
  beyond : w.heap.next ≤ a → w.heap.destroyed a = 0 ∧ w.heap.freed a = 0

/-- **The ledger** between calls, at every address. -/
def Ledger (w : World) : Prop := ∀ a, LedgerAt w a

/-- What a call may do to the `prefix_destroy` and `free` counters of `a`: if `a` was live it
still is, or has been destroyed and freed once; if it was released it is left alone. -/
structure SettlesAt (w w' : World) (a : ℕ) : Prop where
  live : w.heap.Live a → w'.heap.Live a ∨ w'.heap.destroyed a = 1 ∧ w'.heap.freed a = 1
  released : a < w.heap.next → ¬ w.heap.Live a →
    w'.heap.destroyed a = w.heap.destroyed a ∧ w'.heap.freed a = w.heap.freed a

/-- What a call may do to the counters, moving the frontier only up. -/
def Settles (w w' : World) : Prop := w.heap.next ≤ w'.heap.next ∧ ∀ a, SettlesAt w w' a

/-- A stretch of a call that reaches a ledger world and settles the counters. -/
def Keeps (w w' : World) : Prop := Ledger w' ∧ Settles w w'

/-- `w₁` looks like `w` at `a`. -/
structure SameAt (w w₁ : World) (a : ℕ) : Prop where
  live : w₁.heap.Live a ↔ w.heap.Live a
  count : w₁.heap.count a = w.heap.count a
  refs : w₁.refs a = w.refs a
  destroyed : w₁.heap.destroyed a = w.heap.destroyed a
  freed : w₁.heap.freed a = w.heap.freed a
  beyond : w₁.heap.next ≤ a → w.heap.next ≤ a

variable {w w₁ w₂ : World} {a : ℕ}

theorem LedgerAt.live_of_refs_pos (hw : LedgerAt w a) (h : 0 < w.refs a) : w.heap.Live a := by
  by_contra hn
  exact absurd (hw.unreferenced hn ▸ h) (Nat.lt_irrefl 0)

theorem LedgerAt.of_same (h : LedgerAt w a) (hs : SameAt w w₁ a) : LedgerAt w₁ a where
  count_eq ha := hs.count ▸ hs.refs ▸ h.count_eq (hs.live.1 ha)
  count_pos ha := hs.count ▸ h.count_pos (hs.live.1 ha)
  unreferenced ha := hs.refs ▸ h.unreferenced (mt hs.live.2 ha)
  live_undestroyed ha := hs.destroyed ▸ h.live_undestroyed (hs.live.1 ha)
  at_most_once := hs.destroyed ▸ hs.freed ▸ h.at_most_once
  beyond ha := hs.destroyed ▸ hs.freed ▸ h.beyond (hs.beyond ha)

theorem SettlesAt.of_same (hs : SameAt w w₁ a) : SettlesAt w w₁ a :=
  ⟨fun ha ↦ .inl (hs.live.2 ha), fun _ _ ↦ ⟨hs.destroyed, hs.freed⟩⟩

theorem Settles.refl : Settles w w :=
  ⟨le_rfl, fun _ ↦ ⟨.inl, fun _ _ ↦ ⟨rfl, rfl⟩⟩⟩

theorem Settles.trans (h₁ : Settles w w₁) (h₂ : Settles w₁ w₂) : Settles w w₂ := by
  refine ⟨h₁.1.trans h₂.1, fun a ↦ ⟨fun ha ↦ ?_, fun hlt hn ↦ ?_⟩⟩
  · rcases (h₁.2 a).live ha with ha₁ | ⟨hd, hf⟩
    · exact (h₂.2 a).live ha₁
    · have hn : ¬ w₁.heap.Live a := fun h ↦ by simp [Heap.Live, hf] at h
      obtain ⟨hd₂, hf₂⟩ := (h₂.2 a).released (lt_of_lt_of_le ha.1 h₁.1) hn
      exact .inr ⟨hd₂.trans hd, hf₂.trans hf⟩
  · obtain ⟨hd₁, hf₁⟩ := (h₁.2 a).released hlt hn
    have hn₁ : ¬ w₁.heap.Live a := fun h ↦ hn ⟨hlt, hf₁ ▸ h.2⟩
    obtain ⟨hd₂, hf₂⟩ := (h₂.2 a).released (lt_of_lt_of_le hlt h₁.1) hn₁
    exact ⟨hd₂.trans hd₁, hf₂.trans hf₁⟩

theorem Keeps.refl (hw : Ledger w) : Keeps w w := ⟨hw, .refl⟩

theorem Keeps.trans (h₁ : Keeps w w₁) (h₂ : Keeps w₁ w₂) : Keeps w w₂ :=
  ⟨h₂.1, h₁.2.trans h₂.2⟩

/-- A move that keeps every address as it was keeps the ledger. -/
theorem keeps_of_same (hw : Ledger w) (hn : w.heap.next ≤ w₁.heap.next)
    (hsame : ∀ a, SameAt w w₁ a) : Keeps w w₁ :=
  ⟨fun a ↦ (hw a).of_same (hsame a), hn, fun a ↦ .of_same (hsame a)⟩

/-- **A move at one address keeps the ledger.** It keeps every other address as it was and
moves the frontier only up; at `x` the ledger holds afterwards and the counters settle. -/
theorem keeps_of_sameAt (hw : Ledger w) (x : ℕ) (hn : w.heap.next ≤ w₁.heap.next)
    (hsame : ∀ a, a ≠ x → SameAt w w₁ a) (hx : LedgerAt w₁ x) (hsx : SettlesAt w w₁ x) :
    Keeps w w₁ :=
  ⟨fun a ↦ if h : a = x then h ▸ hx else (hw a).of_same (hsame a h),
    hn, fun a ↦ if h : a = x then h ▸ hsx else .of_same (hsame a h)⟩

/-! ### The three moves, and `prefix_new` -/

variable {c : ℕ} {v o : Option ℕ} (ok : Bool)

theorem keeps_ref (hw : Ledger w) (hv : w.Valid (.ref o ok)) : Keeps w (w.step (.ref o ok)) := by
  rcases o with _ | p
  · exact .refl hw
  cases ok
  · convert Keeps.refl hw using 1
    ext a <;> simp [World.step, prefixRef_some, refOf]
  have hp := hv p rfl
  have hcount := (hw p).count_eq hp
  refine keeps_of_sameAt hw p le_rfl (fun a hap ↦ ?_)
    ⟨fun _ ↦ ?_, fun _ ↦ ?_, fun h ↦ absurd hp h, fun _ ↦ (hw p).live_undestroyed hp,
      (hw p).at_most_once, (hw p).beyond⟩ ⟨.inl, fun _ h ↦ absurd hp h⟩
  · exact ⟨Iff.rfl, by simp [World.step, prefixRef_some, hap],
      by simp [World.step, World.refs, prefixRef_some, refOf, Ne.symm hap], rfl, rfl, id⟩
  · simp [World.step, World.refs, prefixRef_some, refOf] at hcount ⊢
    omega
  · simp [World.step, prefixRef_some]

theorem keeps_swap (hw : Ledger w) (hc : c < w.heap.ties.length)
    (hv : ∀ p, v = some p → 0 < w.held p) : Keeps w (w.swap c v) := by
  refine keeps_of_same hw le_rfl fun a ↦ ⟨Iff.rfl, rfl, ?_, rfl, rfl, id⟩
  have hset := w.heap.count_setTie hc v a
  have hheld : refOf v a ≤ w.held a := by
    unfold refOf
    split_ifs with h
    exacts [hv a h, Nat.zero_le _]
  simp only [World.refs, World.swap] at hset ⊢
  omega

theorem keeps_free (hw : Ledger w) (hv : w.Valid (.free o)) : Keeps w (w.step (.free o)) := by
  rcases o with _ | p
  · convert Keeps.refl hw using 1
  have hheld := hv p rfl
  have hp : w.heap.Live p := (hw p).live_of_refs_pos (by unfold World.refs; omega)
  have hcount := (hw p).count_eq hp
  have hd := (hw p).live_undestroyed hp
  unfold World.refs at hcount
  rw [World.step, prefixFree_some]
  split_ifs with hlast
  · -- the last reference: `prefix_destroy` and `free`
    have hn : ¬ (((w.heap.setCount p (w.heap.count p - 1)).destroy p).dealloc p).Live p := by
      simp
    refine keeps_of_sameAt hw p le_rfl (fun a hap ↦ ⟨by simp [hap], by simp [hap],
      by simp [World.refs, refOf, Ne.symm hap], by simp [hap], by simp [hap], id⟩)
      ⟨(absurd · hn), (absurd · hn), fun _ ↦ ?_, (absurd · hn), by simp [hd, hp.2],
        fun h ↦ ?_⟩
      ⟨fun _ ↦ .inr (by simp [hd, hp.2]), fun _ h ↦ absurd hp h⟩
    · simp [World.refs, refOf]
      omega
    · exact absurd hp.1 (by simpa using h)
  · refine keeps_of_sameAt hw p le_rfl (fun a hap ↦ ⟨Iff.rfl, by simp [hap],
      by simp [World.refs, refOf, Ne.symm hap], rfl, rfl, id⟩)
      ⟨fun _ ↦ ?_, fun _ ↦ ?_, fun h ↦ absurd hp h, fun _ ↦ hd, (hw p).at_most_once,
        (hw p).beyond⟩ ⟨.inl, fun _ h ↦ absurd hp h⟩
    · simp [World.refs, refOf]
      omega
    · simp
      omega

theorem keeps_new (hw : Ledger w) (m i r : Bool) : Keeps w (w.step (.new m i r)) := by
  obtain ⟨hd, hf⟩ := (hw w.heap.next).beyond le_rfl
  have hr : w.refs w.heap.next = 0 := (hw _).unreferenced fun h ↦ lt_irrefl _ h.1
  unfold World.refs at hr
  have hn := prefixNew_next w.heap m i r
  refine keeps_of_sameAt hw w.heap.next hn.1 (fun a han ↦ ?_) ?_
    ⟨fun h ↦ absurd h.1 (lt_irrefl _), fun h ↦ absurd h (lt_irrefl _)⟩
  · -- every other address: the frame of `prefix_new`
    obtain ⟨hc, hd', hf', ht, hr'⟩ := prefixNew_frame w.heap m i r han
    exact ⟨by simp only [World.step, Heap.Live, hf']; omega, hc,
      by simp only [World.refs, World.step, ht, hr', Nat.add_zero], hd', hf', le_trans hn.1⟩
  cases m
  · simpa [World.step, prefixNew] using hw w.heap.next
  cases i <;> cases r <;> refine ⟨?_, ?_, ?_, ?_, ?_, ?_⟩ <;>
    simp [World.step, prefixNew, niRefcountInit, World.refs, refOf, Heap.Live, hd, hf] <;> omega

/-! ### Every call -/

theorem keeps_hold {t : Option ℕ} (hw : Ledger w) (hv : w.Valid (.hold t o ok)) :
    Keeps w (w.step (.hold t o ok)) := by
  rcases t with _ | c
  · exact .refl hw
  rcases o with _ | p
  · exact .refl hw
  rw [World.step_hold]
  have h₁ := keeps_ref ok hw (hv.2)
  have h₂ := keeps_swap h₁.1 (c := c) (v := (prefixRef ok w.heap (some p)).2)
    (by simpa [World.step] using hv.1 c rfl)
    (fun q hq ↦ by simp [World.step, hq, refOf])
  exact h₁.trans <| h₂.trans <|
    keeps_free h₂.1 fun q hq ↦ by simp [World.step, World.swap, hq, refOf]

theorem keeps_drop {t : Option ℕ} (hw : Ledger w) (hv : w.Valid (.drop t)) :
    Keeps w (w.step (.drop t)) := by
  rcases t with _ | c
  · exact .refl hw
  rw [World.step_drop]
  have h₁ := keeps_swap hw (c := c) (v := none) (hv c rfl) (by simp)
  exact h₁.trans (keeps_free h₁.1 fun q hq ↦ by simp [World.swap, hq, refOf])

theorem keeps_move {d s : Option ℕ} (hw : Ledger w) (hv : w.Valid (.move d s ok)) :
    Keeps w (w.step (.move d s ok)) := by
  rcases s with _ | s
  · exact .refl hw
  have hlive : ∀ a, w.heap.tie s = some a → w.heap.Live a := fun a ha ↦
    (hw a).live_of_refs_pos <| Nat.lt_add_right _ <|
      List.count_pos_iff.2 (ha ▸ w.heap.tie_mem (hv.2 s rfl))
  have h₁ := keeps_hold ok hw (t := d) ⟨hv.1, hlive⟩
  rw [World.step_move]
  split
  · exact h₁.trans (keeps_drop h₁.1 fun c hc ↦ by simpa [World.step] using hv.2 c hc)
  · exact h₁

/-- **Every valid call keeps the ledger and settles the counters.** -/
theorem keeps_step (hw : Ledger w) {op : RefOp} (hv : w.Valid op) : Keeps w (w.step op) := by
  cases op with
  | new m i r => exact keeps_new hw m i r
  | ref o ok => exact keeps_ref ok hw hv
  | free o => exact keeps_free hw hv
  | hold t o ok => exact keeps_hold ok hw hv
  | drop t => exact keeps_drop hw hv
  | move d s ok => exact keeps_move ok hw hv

theorem ledger_init (n : ℕ) : Ledger (World.init n) := fun a ↦
  ⟨fun h ↦ absurd h.1 (Nat.not_lt_zero a), fun h ↦ absurd h.1 (Nat.not_lt_zero a),
    fun _ ↦ by simp [World.init, World.refs, List.count_replicate],
    fun h ↦ absurd h.1 (Nat.not_lt_zero a),
    by simp [World.init], fun _ ↦ by simp [World.init]⟩

theorem World.Reachable.ledger (hw : w.Reachable) : Ledger w := by
  induction hw with
  | init n => exact ledger_init n
  | step _ _ hv ih => exact (keeps_step ih hv).1

/-! ### The ledger across runs -/

/-- What a call leaves of an object `a` that was live before it: when the call leaves `a`
with no reference, `a` is no longer live and `prefix_destroy` and `free` have each run on it
once; otherwise `a` is still live and undestroyed. -/
def ReleasesAtLast (w' : World) (a : ℕ) : Prop :=
  if w'.refs a = 0 then ¬ w'.heap.Live a ∧ w'.heap.destroyed a = 1 ∧ w'.heap.freed a = 1
  else w'.heap.Live a ∧ w'.heap.destroyed a = 0

/-- **The reference-count ledger holds across runs.** In every world a sequence of valid calls
reaches, each live object's count is the number of tie cells pointing to it plus the caller's
references, no tie cell points to an object that is not live, and `prefix_destroy` and `free`
have run at most once per object and never on a live one. From there, every valid call
destroys and frees an object that was live, once each, exactly when it releases the object's
last reference. -/
theorem refcount_ledger (hw : w.Reachable) :
    Ledger w ∧ ∀ op, w.Valid op → ∀ a, w.heap.Live a → ReleasesAtLast (w.step op) a := by
  refine ⟨hw.ledger, fun op hv a ha ↦ ?_⟩
  obtain ⟨hl, -, hs⟩ := keeps_step hw.ledger hv
  unfold ReleasesAtLast
  split_ifs with h0
  · have hn : ¬ (w.step op).heap.Live a := fun h ↦
      absurd ((hl a).count_eq h ▸ (hl a).count_pos h) (by omega)
    exact ⟨hn, ((hs a).live ha).resolve_left hn⟩
  · have hlive := (hl a).live_of_refs_pos (Nat.pos_of_ne_zero h0)
    exact ⟨hlive, (hl a).live_undestroyed hlive⟩

/-- A run over two tie cells: `prefix_new`, then `prefix_hold(&t₁, obj)`. -/
def World.sample : World :=
  ((World.init 2).step (.new true true true)).step (.hold (some 1) (some 0) true)

theorem reachable_sample : World.sample.Reachable :=
  .step _ (.step _ (.init 2) trivial)
    ⟨fun c hc ↦ by cases hc; decide, fun a ha ↦ by cases ha; decide⟩

theorem refcount_ledger_sample :
    World.sample.Reachable ∧ Ledger World.sample ∧ ∀ op, World.sample.Valid op →
      ∀ a, World.sample.heap.Live a → ReleasesAtLast (World.sample.step op) a :=
  ⟨reachable_sample, refcount_ledger reachable_sample⟩

/-- What a cell points to is live. -/
theorem Ledger.live_of_tie (hl : Ledger w) {c a : ℕ} (hc : w.heap.tie c = some a) :
    w.heap.Live a := by
  refine (hl a).live_of_refs_pos ?_
  by_cases hlen : c < w.heap.ties.length
  · have := List.count_pos_iff.2 (hc ▸ Heap.tie_mem hlen)
    unfold World.refs; omega
  · simp [Heap.tie, List.getElem?_eq_none (Nat.le_of_not_lt hlen)] at hc

/-- **No dangling pointer.** In every reachable world, every tie cell that is not `NULL`, and
every reference the caller holds, points to a live object. -/
theorem reachable_no_dangling (hw : w.Reachable) :
    (∀ c a, w.heap.tie c = some a → w.heap.Live a) ∧ ∀ a, 0 < w.held a → w.heap.Live a := by
  have hl := hw.ledger
  refine ⟨fun c a hc ↦ hl.live_of_tie hc, fun a ha ↦ (hl a).live_of_refs_pos ?_⟩
  unfold World.refs; omega

theorem reachable_no_dangling_sample :
    World.sample.Reachable ∧ World.sample.heap.tie 1 = some 0 ∧ World.sample.heap.Live 0 :=
  ⟨reachable_sample, by decide, (reachable_no_dangling reachable_sample).1 1 0 (by decide)⟩

/-! ### `prefix_move` between two cells -/

/-- **A move between two cells moves the reference.** From any reachable world, when the
increment succeeds, `prefix_move(&d, &s)` for two distinct cells, `s` holding `p`, returns
`TRUE` and leaves `d` holding `p`, `s` `NULL` and `p` live, its count one less exactly when `d`
held `p` already. -/
theorem reachable_move_transfers (hw : w.Reachable) {d s p : ℕ} (hd : d < w.heap.ties.length)
    (hs : s < w.heap.ties.length) (hds : d ≠ s) (hp : w.heap.tie s = some p) :
    (prefixMove true w.heap (some d) (some s)).2 = true ∧
    (prefixMove true w.heap (some d) (some s)).1.tie d = some p ∧
    (prefixMove true w.heap (some d) (some s)).1.tie s = none ∧
    (prefixMove true w.heap (some d) (some s)).1.Live p ∧
    (prefixMove true w.heap (some d) (some s)).1.count p =
      w.heap.count p - refOf (w.heap.tie d) p := by
  have hv : w.Valid (.move (some d) (some s) true) :=
    ⟨fun c hc ↦ Option.some.inj hc ▸ hd, fun c hc ↦ Option.some.inj hc ▸ hs⟩
  have hl := (keeps_step hw.ledger hv).1
  have hs' : ((w.heap.setCount p (w.heap.count p + 1)).setTie d (some p)).tie s = some p := by
    rw [Heap.tie_setTie_ne (Ne.symm hds)]
    exact hp
  have htie : (prefixMove true w.heap (some d) (some s)).1.tie d = some p := by
    simp [prefixMove, hp, prefixRef_some, hs', Heap.tie_setTie_ne hds, hd]
  have hlen : d < (prefixMove true w.heap (some d) (some s)).1.ties.length := by
    simp [prefixMove, hp, prefixRef_some, hd]
  refine ⟨by simp [prefixMove, hp], htie, by simp [prefixMove, hp, prefixRef_some, hs', hs],
    (hl p).live_of_refs_pos <| Nat.lt_add_right _ <|
      List.count_pos_iff.2 (htie ▸ Heap.tie_mem hlen), ?_⟩
  simp only [prefixMove, hp, prefixHold_some_some, prefixRef_some, if_true, prefixDrop_some,
    prefixFree_tie, hs', prefixFree_count, Function.update_same]
  cases w.heap.tie d with
  | none => simp [refOf]
  | some q =>
    by_cases hq : q = p
    · simp [refOf, hq]
    · simp [refOf, hq, Ne.symm hq]

theorem reachable_move_transfers_sample :
    World.sample.Reachable ∧ 0 < World.sample.heap.ties.length ∧
      1 < World.sample.heap.ties.length ∧ 0 ≠ 1 ∧ World.sample.heap.tie 1 = some 0 ∧
      ((prefixMove true World.sample.heap (some 0) (some 1)).2 = true ∧
        (prefixMove true World.sample.heap (some 0) (some 1)).1.tie 0 = some 0 ∧
        (prefixMove true World.sample.heap (some 0) (some 1)).1.tie 1 = none ∧
        (prefixMove true World.sample.heap (some 0) (some 1)).1.Live 0 ∧
        (prefixMove true World.sample.heap (some 0) (some 1)).1.count 0 =
          World.sample.heap.count 0 - refOf (World.sample.heap.tie 0) 0) :=
  ⟨reachable_sample, by decide, by decide, by decide, by decide,
    reachable_move_transfers reachable_sample (by decide) (by decide) (by decide) (by decide)⟩

/-- **Moving a reference to an empty cell and back restores the heap.** From any reachable
world, with working increments, `prefix_move(&d, &s)` for an empty cell `d` and a cell `s`
holding `p`, followed by `prefix_move(&s, &d)`, returns `TRUE` and leaves the heap exactly as it
was: every count, every cell, and no object destroyed or freed on the way. -/
theorem reachable_move_round_trip (hw : w.Reachable) {d s p : ℕ} (hd : d < w.heap.ties.length)
    (hs : s < w.heap.ties.length) (hds : d ≠ s) (hnull : w.heap.tie d = none)
    (hp : w.heap.tie s = some p) :
    prefixMove true (prefixMove true w.heap (some d) (some s)).1 (some s) (some d) =
      (w.heap, true) := by
  have hpos : 0 < w.heap.count p := (hw.ledger p).count_pos (hw.ledger.live_of_tie hp)
  -- each move adds a reference to `p` before it releases one, so `p` never reaches `0`
  simp [prefixMove, hp, hnull, prefixRef_some, prefixFree_some, Heap.tie_setTie_ne hds,
    Heap.tie_setTie_ne (Ne.symm hds), hd, hs, hpos.ne']
  -- what is left: the counts are back, and the cells were written back to what they held
  have hts : w.heap.ties.set s (some p) = w.heap.ties := hp ▸ Heap.ties_set_tie hs
  have htd : w.heap.ties.set d none = w.heap.ties := hnull ▸ Heap.ties_set_tie hd
  simp only [Heap.setCount, Heap.setTie, Function.update_idem, Function.update_eq_self,
    List.set_comm (some p) (some p) _ hds, List.set_set, hts, htd]

theorem reachable_move_round_trip_sample :
    World.sample.Reachable ∧ 0 < World.sample.heap.ties.length ∧
      1 < World.sample.heap.ties.length ∧ 0 ≠ 1 ∧ World.sample.heap.tie 0 = none ∧
      World.sample.heap.tie 1 = some 0 ∧
      prefixMove true (prefixMove true World.sample.heap (some 0) (some 1)).1 (some 1) (some 0) =
        (World.sample.heap, true) :=
  have hp : World.sample.heap.tie 1 = some 0 := by decide
  ⟨reachable_sample, by decide, by decide, by decide, by decide, hp,
    reachable_move_round_trip reachable_sample (by decide) (by decide) (by decide) (by decide) hp⟩

/-! ### A cell onto itself -/

/-- **Holding what a cell holds changes nothing; moving a cell onto itself drops it.** In every
reachable world, for a cell `c` holding `a`, `prefix_hold(&c, c)` with a working increment
returns `TRUE` and leaves the heap as it was: `prefix_ref` runs before `prefix_free`, so the
count never reaches `0`. With a failing increment `prefix_hold(&c, c)` is `prefix_drop(&c)`, and
so is `prefix_move(&c, &c)` with a working one: each empties the cell and releases its
reference, destroying `a` when that was the last one. -/
theorem reachable_hold_self (hw : w.Reachable) {c a : ℕ} (hc : c < w.heap.ties.length)
    (ht : w.heap.tie c = some a) :
    prefixHold true w.heap (some c) (some a) = (w.heap, true) ∧
    prefixHold false w.heap (some c) (some a) = prefixDrop w.heap (some c) ∧
    prefixMove true w.heap (some c) (some c) = prefixDrop w.heap (some c) := by
  have hpos : 0 < w.heap.count a := (hw.ledger a).count_pos (hw.ledger.live_of_tie ht)
  -- the increment and the release cancel, and the cell is written back with its own value
  have hhold : prefixHold true w.heap (some c) (some a) = (w.heap, true) := by
    rw [prefixHold_some_some, prefixRef_some, if_pos rfl, ht, prefixFree_some,
      if_neg (by simp [Heap.setTie, Heap.setCount]; omega)]
    simp only [Heap.setTie, Heap.setCount, Function.update_idem, Function.update_same,
      Nat.add_sub_cancel, Function.update_eq_self, ← ht, Heap.ties_set_tie hc]
  refine ⟨hhold, by simp [prefixRef_some, ht], ?_⟩
  simp only [prefixMove, ht, hhold, if_true]

theorem reachable_hold_self_sample :
    World.sample.Reachable ∧ 1 < World.sample.heap.ties.length ∧
      World.sample.heap.tie 1 = some 0 ∧
      prefixHold true World.sample.heap (some 1) (some 0) = (World.sample.heap, true) ∧
      prefixHold false World.sample.heap (some 1) (some 0) = prefixDrop World.sample.heap (some 1) ∧
      prefixMove true World.sample.heap (some 1) (some 1) = prefixDrop World.sample.heap (some 1) :=
  ⟨reachable_sample, by decide, by decide,
    reachable_hold_self reachable_sample (by decide) (by decide)⟩

end Wicked
